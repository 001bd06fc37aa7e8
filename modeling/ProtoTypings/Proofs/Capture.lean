import ProtoTypings.Proofs.Denotation
import ProtoTypings.Proofs.Lookup
import ProtoTypings.Proofs.NamedTypes

/-!
# Proofs.Capture

Whether the type paths in the typings of a file lead to the types that they are written for. Paths
are written from the file down, wherever they stand, so a namespace around them may capture their
first name.

* `File.Orderly` — files whose names and maps are in order.
* `File.Leads` — a name written for a field, and the type of the file that it is the path of.
* `paths_lead_to_types` — every path of a type of the file leads there unless it is captured.
* `paths_misled` — what else goes wrong, if the file is not in order or types share a place.
-/

namespace ProtoTypings

open TypeScript

namespace Proto

/-! ## References -/

/-- A reference to a message of the file that stands behind map fields. -/
def File.NamesMapEntry (file : File) (type : FieldType) : Prop :=
  ∃ t ∈ file.typeDecls, t.definition.isMapEntry ∧
    type = t.definition.reference (file.fullName t.path)

instance (file : File) (type : FieldType) : Decidable (file.NamesMapEntry type) :=
  inferInstanceAs (Decidable (∃ t ∈ file.typeDecls, _))

/-- The messages of a file that stand behind map fields are such as the compiler makes for maps, and
are used for nothing else. -/
structure File.MapsWellFormed (files : List File) (file : File) : Prop where
  /-- They have a key and a value. -/
  entries : ∀ t ∈ file.typeDecls, t.definition.isMapEntry → (t.symbol file).mapEntry ≠ none
  /-- Nothing is nested in them. -/
  flat : ∀ t ∈ file.typeDecls, ∀ o ∈ t.outer, o.isMapEntry = false
  /-- No extension refers to one. -/
  extensions : ∀ f ∈ file.extensions, ¬ file.NamesMapEntry f.type
  /-- No key and no value of a map refers to one. -/
  inner : ∀ G ∈ files, ∀ t ∈ G.typeDecls, t.definition.isMapEntry → ∀ f ∈ t.definition.fields,
    ¬ file.NamesMapEntry f.type

section References

variable {files : List File} {file : File}

theorem TypeDecl.eq_reference (t : TypeDecl) {G : File} {type : FieldType} {name : String}
    (hname : type.name? = some name) (kind : (t.symbol G).isMessage = (type == .message name)) :
    type = t.definition.reference name := by
  obtain ⟨outer, d⟩ := t
  cases type with
  | scalar scalar => cases hname
  | message name' =>
    cases hname
    cases d with
    | message m => rfl
    | enumeration e => simp [TypeDecl.symbol, TypeDefinition.symbolKind, Symbol.isMessage] at kind
  | enumeration name' =>
    cases hname
    cases d with
    | message m => simp [TypeDecl.symbol, TypeDefinition.symbolKind, Symbol.isMessage] at kind
    | enumeration e => rfl

/-- A name without an alias is the path of a type of the file, which is the type referred to. -/
theorem File.exists_of_typeExpr (unique : ∀ G ∈ files, G.name = file.name → G = file)
    (named : MessagesNamed file.typeDecls) {type : FieldType} {e : TypeExpr}
    (h : Scope.typeExpr ⟨.ofFiles files, file⟩ type = .ok e) {n : TypeName} (hn : n ∈ e.names)
    (own : n.qualifier = none) :
    ∃ t ∈ file.typeDecls, type = t.definition.reference (file.fullName t.path) ∧
      n.path = dotted t.path ∧
      (SymbolTable.ofFiles files).get? (file.fullName t.path) = some (t.symbol file) := by
  obtain ⟨name, symbol, hname, found, kind, rfl⟩ := Scope.names_typeExpr h hn
  obtain ⟨G, hG, t, ht, full, rfl⟩ := SymbolTable.exists_of_get?_ofFiles found
  have fileName : (t.symbol G).fileName = G.name := rfl
  rw [Scope.declaredType, fileName] at hn
  split at hn
  · rename_i same
    obtain rfl := unique G hG same
    rw [File.qualified_eq named ht] at full
    subst full
    rw [TypeExpr.names, List.mem_singleton] at hn
    refine ⟨t, ht, ?_, ?_, found⟩
    · exact t.eq_reference hname kind
    · rw [hn]
      exact (t.symbol G).localName_dotted t.path_ne_nil
  · rw [TypeExpr.names, List.mem_singleton] at hn
    simp only [hn, reduceCtorEq] at own

/-- The key and the value of a map are fields of a message behind map fields. -/
theorem Scope.exists_fields_of_mapEntry {f : Field} {entry : MapEntry}
    (h : Scope.mapEntry ⟨.ofFiles files, file⟩ f = .ok (some entry)) :
    ∃ G ∈ files, ∃ t ∈ G.typeDecls, t.definition.isMapEntry ∧
      entry.key ∈ t.definition.fields ∧ entry.value ∈ t.definition.fields := by
  unfold Scope.mapEntry at h
  split at h
  · rename_i name hf
    obtain ⟨symbol, hs, he⟩ := Check.map_eq_ok.1 h
    obtain ⟨G, hG, t, ht, -, rfl⟩ := SymbolTable.exists_of_get?_ofFiles (Scope.get?_of_message hs)
    refine ⟨G, hG, t, ht, ?_⟩
    obtain ⟨outer, d⟩ := t
    cases d with
    | enumeration e => cases he
    | message m => exact mem_fields_of_mapFields (m := m) he
  · cases h

/-- A field that refers to a message with a key and a value is a map. -/
theorem Scope.mapEntry_of_reference {s : Scope} {f : Field} {t : TypeDecl} {G : File}
    {fullName : String} {entry : MapEntry} (ref : t.definition.reference fullName = f.type)
    (found : s.symbols.get? fullName = some (t.symbol G))
    (he : (t.symbol G).mapEntry = some entry) : s.mapEntry f = .ok (some entry) := by
  obtain ⟨outer, d⟩ := t
  cases d with
  | enumeration e => cases he
  | message m =>
    have message : s.symbols.message? fullName = some (TypeDecl.symbol G ⟨outer, .message m⟩) := by
      rw [SymbolTable.message?, found, Option.filter_some_pos rfl]
    rw [Scope.mapEntry, ← ref]
    exact Check.map_eq_ok.2 ⟨_, Scope.resolved_eq_ok.2 message, he⟩

/-- What a field names is no message behind map fields: a map names its key and its value instead,
and these are no maps. -/
theorem File.isMapEntry_of_namedTypes (maps : file.MapsWellFormed files) {f : Field} {t : TypeDecl}
    (ht : t ∈ file.typeDecls)
    (named : t.definition.reference (file.fullName t.path) ∈
      Scope.namedTypes ⟨.ofFiles files, file⟩ f)
    (found : (SymbolTable.ofFiles files).get? (file.fullName t.path) = some (t.symbol file)) :
    t.definition.isMapEntry = false := by
  rw [← Bool.not_eq_true]
  intro isMap
  have names : file.NamesMapEntry (t.definition.reference (file.fullName t.path)) :=
    ⟨t, ht, isMap, rfl⟩
  unfold Scope.namedTypes at named
  split at named
  · rename_i entry he
    obtain ⟨G, hG, u, hu, isMap', key, value⟩ := Scope.exists_fields_of_mapEntry he
    have inner := maps.inner G hG u hu isMap'
    simp only [List.mem_cons, List.not_mem_nil, or_false] at named
    rcases named with e | e
    · exact inner _ key (e ▸ names)
    · exact inner _ value (e ▸ names)
  · rename_i notMap
    obtain ⟨entry, he⟩ := Option.ne_none_iff_exists'.1 (maps.entries t ht isMap)
    exact notMap entry (Scope.mapEntry_of_reference (List.mem_singleton.1 named) found he)

theorem TypeDecl.path_plainName {t : TypeDecl} {fullName : String} {n : TypeName}
    (path : n.path = dotted t.path) :
    (ExposedField.plainName (t.definition.reference fullName) n).path = dotted (t.place true) := by
  obtain ⟨outer, d⟩ := t
  cases d with
  | enumeration e => exact path
  | message m =>
    have object : dotted ((TypeDecl.mk outer (.message m)).place true) =
        dotted (TypeDecl.mk outer (.message m)).path ++ "." ++ TypeExpr.objectTypeName :=
      dotted_append (TypeDecl.path_ne_nil _) (List.cons_ne_nil _ _)
    rw [object, ← path]
    rfl

theorem Message.exists_of_mem_outer {m : Message} :
    ∀ t ∈ m.typeDecls, ∀ o ∈ t.outer, ∃ u ∈ m.typeDecls, u.definition = .message o := by
  induction m using Message.nested_induction with
  | step m ih =>
    have self : ∃ u ∈ m.typeDecls, u.definition = .message m :=
      ⟨_, Message.mem_typeDecls.2 (.inr (.inr rfl)), rfl⟩
    intro t ht o ho
    rcases Message.mem_typeDecls.1 ht with ⟨n, hn, u, hu, rfl⟩ | ⟨e, -, rfl⟩ | rfl
    · rcases List.mem_cons.1 ho with rfl | ho
      · exact self
      · obtain ⟨v, hv, hd⟩ := ih n hn u hu o ho
        exact ⟨v.inside m, Message.mem_typeDecls.2 (.inl ⟨n, hn, v, hv, rfl⟩), hd⟩
    · rw [List.mem_singleton.1 ho]
      exact self
    · cases ho

/-- What holds of the names of all types of a file holds of the names on their paths. -/
theorem File.forall_mem_path {P : String → Prop}
    (names : ∀ t ∈ file.typeDecls, P t.definition.name) {t : TypeDecl} (ht : t ∈ file.typeDecls) :
    ∀ name ∈ t.path, P name := by
  have outer : ∀ o ∈ t.outer, P o.name := by
    intro o ho
    rcases List.mem_append.1 ht with inMessage | inEnums
    · obtain ⟨m, hm, inMessage⟩ := List.mem_flatMap.1 inMessage
      obtain ⟨u, hu, hd⟩ := Message.exists_of_mem_outer t inMessage o ho
      have := names u (List.mem_append_left _ (List.mem_flatMap.2 ⟨m, hm, hu⟩))
      rwa [hd] at this
    · obtain ⟨e, -, rfl⟩ := List.mem_map.1 inEnums
      cases ho
  intro name hname
  rcases List.mem_append.1 hname with h | h
  · obtain ⟨o, ho, rfl⟩ := List.mem_map.1 h
    exact outer o ho
  · rw [List.mem_singleton.1 h]
    exact names t ht

end References

/-! ## Where paths lead -/

/-- A name that is the path of one of the given types, which is a type of the file and shown. In
plain objects it is the path of the object type. Written in some namespaces, it leads there unless
it is captured, and denotes the type if nothing else has its place. -/
def File.Leads (file : File) (s : Scope) (ds : List Declaration) (around : List String)
    (plain : Bool) (types : List FieldType) (n : TypeName) : Prop :=
  ∃ t ∈ file.typeDecls, t.isShown ∧ t.definition.reference (file.fullName t.path) ∈ types ∧
    n.path = dotted (t.place plain) ∧
    (leadsTo? ds around (pathNames n.path) = some (t.place plain) ↔
      ¬ Captured ds around (t.place plain)) ∧
    (file.Alone plain t →
      (t.DenotedBy s ds around plain n.path ↔ ¬ Captured ds around (t.place plain)))

/-- What a field of a message becomes, and that the paths in it lead to the types that the field
names. The accessors stand in the class of the message, the property in its namespace. -/
structure File.FieldLeads (file : File) (s : Scope) (ds : List Declaration) (around : List String)
    (message : String) (f : Field) (e : ExposedField) : Prop where
  exposed : s.expose f = .ok e
  accessors : ∀ a ∈ e.accessors, ∀ n ∈ a.names, n.qualifier = none →
    file.Leads s ds around false (s.namedTypes f) n
  property : ∀ n ∈ e.property.type.names, n.qualifier = none →
    file.Leads s ds (around ++ [message]) true (s.namedTypes f) n

/-- A file, among some files, whose names and maps are in order. -/
structure File.Orderly (files : List File) (file : File) : Prop where
  /-- No other file has its name. -/
  unique : ∀ G ∈ files, G.name = file.name → G = file
  /-- Its types have distinct full names. -/
  distinct : (file.typeDecls.map fun t => file.fullName t.path).Nodup
  /-- Its messages have names. -/
  named : MessagesNamed file.typeDecls
  /-- No name of a type has a dot. -/
  undotted : ∀ t ∈ file.typeDecls, '.' ∉ t.definition.name.toList
  maps : file.MapsWellFormed files

section Orderly

variable {files : List File} {file : File} (orderly : file.Orderly files)

include orderly

theorem File.Orderly.paths : (file.typeDecls.map (·.path)).Nodup := by
  have names : file.typeDecls.map (fun t => file.fullName t.path) =
      (file.typeDecls.map (·.path)).map file.fullName := by
    rw [List.map_map]
    rfl
  have distinct := orderly.distinct
  rw [names] at distinct
  exact List.Nodup.of_map _ distinct

theorem File.Orderly.leads {ds : List Declaration} (h : file.declarations (.ofFiles files) = .ok ds)
    {t : TypeDecl} (ht : t ∈ file.typeDecls) (noMap : t.definition.isMapEntry = false)
    {types : List FieldType} (named : t.definition.reference (file.fullName t.path) ∈ types)
    {plain : Bool} {n : TypeName} (path : n.path = dotted (t.place plain)) (around : List String) :
    file.Leads ⟨.ofFiles files, file⟩ ds around plain types n := by
  have shown : t.isShown := by
    have outer : t.outer.any (·.isMapEntry) = false := by
      simpa using orderly.maps.flat t ht
    rw [TypeDecl.isShown, outer, noMap]
    rfl
  have undotted : ∀ name ∈ t.place plain, '.' ∉ name.toList := by
    have own := File.forall_mem_path (P := fun name => '.' ∉ name.toList) orderly.undotted ht
    rcases t.place_eq plain with e | e <;> rw [e]
    · exact own
    · exact List.forall_mem_append.2 ⟨own, by decide⟩
  have nonempty : t.place plain ≠ [] := by
    rcases t.place_eq plain with e | e <;> rw [e]
    · exact t.path_ne_nil
    · simp
  have leads : leadsTo? ds around (pathNames n.path) = some (t.place plain) ↔
      ¬ Captured ds around (t.place plain) := by
    rw [path, pathNames_dotted nonempty undotted]
    exact File.leadsTo?_place h ht shown plain around
  refine ⟨t, ht, shown, named, path, leads, fun alone => ?_⟩
  have stands {x : Declaration} := File.declarationsAt_place h orderly.paths ht shown alone (x := x)
  refine ⟨fun denoted => leads.1 denoted.leads, fun free => ⟨leads.2 free, ?_, fun x => stands.1⟩⟩
  obtain ⟨x, declares⟩ := File.exists_declares h ht shown plain
  exact List.ne_nil_of_mem (stands.2 declares)

/-- The names that a type is referred to by lead to it. -/
theorem File.Orderly.leads_typeExpr {ds : List Declaration}
    (h : file.declarations (.ofFiles files) = .ok ds) {f : Field} {type : FieldType}
    (named : type ∈ Scope.namedTypes ⟨.ofFiles files, file⟩ f) {e : TypeExpr}
    (ok : Scope.typeExpr ⟨.ofFiles files, file⟩ type = .ok e) (around : List String)
    {n : TypeName} (hn : n ∈ e.names) (own : n.qualifier = none) :
    file.Leads ⟨.ofFiles files, file⟩ ds around false
      (Scope.namedTypes ⟨.ofFiles files, file⟩ f) n := by
  obtain ⟨t, ht, rfl, path, found⟩ :=
    File.exists_of_typeExpr orderly.unique orderly.named ok hn own
  have noMap := File.isMapEntry_of_namedTypes orderly.maps ht named found
  exact orderly.leads h ht noMap named path around

/-- In plain objects they lead to its object type, if it is a message. -/
theorem File.Orderly.leads_plainName {ds : List Declaration}
    (h : file.declarations (.ofFiles files) = .ok ds) {f : Field} {type : FieldType}
    (named : type ∈ Scope.namedTypes ⟨.ofFiles files, file⟩ f) {e : TypeExpr}
    (ok : Scope.typeExpr ⟨.ofFiles files, file⟩ type = .ok e) (around : List String)
    {n : TypeName} (hn : n ∈ e.names) (own : n.qualifier = none) :
    file.Leads ⟨.ofFiles files, file⟩ ds around true
      (Scope.namedTypes ⟨.ofFiles files, file⟩ f) (ExposedField.plainName type n) := by
  obtain ⟨t, ht, rfl, path, found⟩ :=
    File.exists_of_typeExpr orderly.unique orderly.named ok hn own
  have noMap := File.isMapEntry_of_namedTypes orderly.maps ht named found
  exact orderly.leads h ht noMap named (TypeDecl.path_plainName path) around

/-- Take a file whose names and maps are in order and that has typings. Every message that is shown
has its class and its object type in the namespaces of the messages around it, and what its fields
become, in the class and in the object type, names types of the file only by paths of the types that
the fields name. These paths lead to the types unless they are captured. The same is true of
extensions. -/
theorem paths_lead_to_types {settings : Settings} {m : Module}
    (printed : file.typings settings (.ofFiles files) = .ok m) :
    (∀ outer k, ⟨outer, .message k⟩ ∈ file.typeDecls →
      (TypeDecl.mk outer (.message k)).isShown → ∃ exposed,
        ⟨outer.map (·.name), .classDecl k.name (k.members exposed)⟩ ∈ placedIn [] m.body ∧
        ⟨outer.map (·.name) ++ [k.name], .objectType (exposed.map (·.property))⟩ ∈
          placedIn [] m.body ∧
        List.Forall₂ (file.FieldLeads ⟨.ofFiles files, file⟩ m.body (outer.map (·.name)) k.name)
          k.fields exposed) ∧
    ∀ f ∈ file.extensions, ∃ type, Scope.typeExpr ⟨.ofFiles files, file⟩ f.type = .ok type ∧
      ⟨[], .constDecl f.camelName (.generic "jspb.ExtensionFieldInfo" type)⟩ ∈ placedIn [] m.body ∧
      ∀ n ∈ type.names, n.qualifier = none →
        file.Leads ⟨.ofFiles files, file⟩ m.body [] false [f.type] n := by
  obtain ⟨ds, h, rfl⟩ := Check.map_eq_ok.1 printed
  constructor
  · intro outer k ht shown
    obtain ⟨x, exposed, inner, he, hi, -⟩ := File.exists_declares h ht shown false
    have puts : ∀ p ∈ k.placements (outer.map (·.name)) exposed inner, p ∈ placedIn [] ds := by
      intro p hp
      exact (File.mem_placedIn h).2 (.inl ⟨_, ht, shown, (TypeDecl.puts_message he hi).2 hp⟩)
    refine ⟨exposed, puts _ (by simp [Message.placements]), puts _ (by simp [Message.placements]),
      (each_eq_ok_iff_forall₂.1 he).imp fun f e ok => ?_⟩
    refine ⟨ok, fun a ha n hn own => ?_, fun n hn own => ?_⟩
    · obtain ⟨type, named, t, ht, hn⟩ := ExposedField.names_accessors ok ha hn
      exact orderly.leads_typeExpr h named ht _ hn own
    · obtain ⟨type, named, t, ht, c, hc, rfl⟩ := ExposedField.names_property ok hn
      exact orderly.leads_plainName h named ht _ hc (by simpa using own)
  · intro f hf
    obtain ⟨messages, extensions, hm, hx, -⟩ := File.declarations_eq_ok.1 h
    obtain ⟨d, -, hd⟩ := forall_of_each hx hf
    obtain ⟨type, ok, -⟩ := Check.map_eq_ok.1 hd
    refine ⟨type, ok, (File.mem_placedIn h).2 (.inr ⟨f, hf, type, ok, rfl⟩), ?_⟩
    intro n hn own
    obtain ⟨t, ht, ref, path, found⟩ :=
      File.exists_of_typeExpr orderly.unique orderly.named ok hn own
    have noMap : t.definition.isMapEntry = false := by
      rw [← Bool.not_eq_true]
      exact fun isMap => orderly.maps.extensions f hf ⟨t, ht, isMap, ref⟩
    exact orderly.leads h ht noMap (by simp [ref]) path []

end Orderly

end Proto

namespace Sample

open Proto

def messageOf (name : String) (fields : List Field) (nested : List Message) : Message :=
  { name, isMapEntry := false, fields, oneofs := [], nested, enums := [] }

/-- A file without a package that imports nothing. -/
def fileOf (messages : List Message) : File :=
  { name := "lone.proto", package := none, dialect := .proto3, dependencies := [], messages,
    enums := [], extensions := [] }

/-- A message and one nested in it, which is the type of a field and of the values of a map. -/
def nestingA : Message :=
  messageOf "A" [.plain "b" 1 (.message "A.B"), .plain "c" 2 (.message "A.CEntry")]
    [messageOf "B" [] [], .forMap "CEntry" (.scalar .int32) (.message "A.B")]

def nesting : File := fileOf [nestingA]

end Sample

open Proto Sample in
theorem sample_paths_lead_to_types :
    ∃ m, nesting.typings {} (.ofFiles [nesting]) = .ok m ∧ ∃ t ∈ nesting.typeDecls,
      t.path = ["A", "B"] ∧
        t.DenotedBy ⟨.ofFiles [nesting], nesting⟩ m.body ["A"] true "A.B.AsObject" := by
  have orderly : nesting.Orderly [nesting] :=
    { unique := by
        intro G hG _
        exact List.mem_singleton.1 hG
      distinct := by decide
      named := by
        have names : ∀ t ∈ nesting.typeDecls, t.definition.name ≠ "" := by decide
        intro t ht m hm
        simpa [hm, TypeDefinition.name] using names t ht
      undotted := by decide
      maps :=
        { entries := by decide
          flat := by decide
          extensions := by decide
          inner := by decide } }
  obtain ⟨messages, -⟩ := paths_lead_to_types orderly
    (show nesting.typings {} (.ofFiles [nesting]) = .ok _ from rfl)
  obtain ⟨exposed, -, -, fields⟩ := messages [] nestingA (List.mem_of_getElem? (i := 2) rfl) rfl
  cases fields with
  | cons first _ =>
    have property : ExposedField.property _ = _ :=
      congrArg _ (Except.ok.inj (first.exposed.symm.trans rfl))
    obtain ⟨t, ht, -, named, path, -, denoted⟩ := first.property ⟨none, "A.B.AsObject"⟩
      (by rw [property]; exact .head _) rfl
    refine ⟨_, rfl, t, ht, ?_⟩
    have types : nesting.typeDecls = [_, _, _] := rfl
    rw [types] at ht
    simp only [List.mem_cons, List.not_mem_nil, or_false] at ht
    rcases ht with rfl | rfl | rfl
    · exact ⟨rfl, (denoted (by decide +kernel)).2 (by decide +kernel)⟩
    · exact absurd path (by decide)
    · exact absurd path (by decide)

/-! ## Paths that mislead -/

namespace Proto

theorem TypeDecl.not_denotedBy_of_empty {t : TypeDecl} {s : Scope} {ds : List Declaration}
    {around : List String} {plain : Bool} {path : String}
    (empty : ∀ place ∈ leadsTo? ds around (pathNames path), declarationsAt ds place = []) :
    ¬ t.DenotedBy s ds around plain path :=
  fun denoted => denoted.declared (empty _ denoted.leads)

theorem TypeDecl.not_denotedBy_of_mem {t : TypeDecl} {s : Scope} {ds : List Declaration}
    {around : List String} {plain : Bool} {path : String} {x : Declaration}
    (hx : x ∈ declarationsAt ds (t.place plain)) (other : ¬ t.definition.Declares s plain x) :
    ¬ t.DenotedBy s ds around plain path :=
  fun denoted => other (denoted.only x hx)

/-- A property of an object type has a type that a field names, and its path does not denote this
type. Yet types have distinct full names, maps have keys and values, no extension refers to one. -/
structure Misled (files : List File) (file : File) : Prop where
  distinct : (file.typeDecls.map (·.qualified file)).Nodup
  entries : ∀ t ∈ file.typeDecls, t.definition.isMapEntry → (t.symbol file).mapEntry ≠ none
  extensions : ∀ f ∈ file.extensions, ¬ file.NamesMapEntry f.type
  misled : ∃ typings, file.typings {} (.ofFiles files) = .ok typings ∧
    ∃ m ∈ file.messages, ∃ f ∈ m.fields, ∃ e, Scope.expose ⟨.ofFiles files, file⟩ f = .ok e ∧
      ⟨[m.name], .objectType [e.property]⟩ ∈ placedIn [] typings.body ∧
      ∃ n ∈ e.property.type.names, n.qualifier = none ∧
        ∀ t ∈ file.typeDecls,
          t.definition.reference (t.qualified file) ∈ Scope.namedTypes ⟨.ofFiles files, file⟩ f →
            ¬ t.DenotedBy ⟨.ofFiles files, file⟩ typings.body [m.name] true n.path

end Proto

namespace Sample

open Proto

/-- In the namespace of `A`, its name is that of a message nested in it. -/
def capturing : File :=
  fileOf [messageOf "A" [.plain "b" 1 (.message "A.B")]
    [messageOf "A" [] [], messageOf "B" [] []]]

/-- What is nested in a message behind map fields is not shown. -/
def unshown : File :=
  fileOf [messageOf "A" [.plain "b" 1 (.message "A.MEntry.B")]
    [{ Message.forMap "MEntry" (.scalar .int32) (.scalar .int32) with
        nested := [messageOf "B" [] []] }]]

/-- A map whose values are of the message behind it, which is not shown. -/
def mapOfMaps : File :=
  fileOf [messageOf "A" [.plain "b" 1 (.message "A.BEntry")]
    [.forMap "BEntry" (.scalar .int32) (.message "A.BEntry")]]

/-- A name that reads as a path. -/
def dottedName : File := fileOf [messageOf "A.B" [.plain "b" 1 (.message "A.B")] []]

/-- A message that refers to one that is declared elsewhere. -/
def client : Message := messageOf "A" [.plain "b" 1 (.message "B")] []

/-- The message around `B` has no name, so `B` is its full name. -/
def unnamed : File := fileOf [client, messageOf "" [] [messageOf "B" [] []]]

/-- The object type of `A` has the name of the nested message. -/
def overlapping : File :=
  fileOf [messageOf "A" [.plain "b" 1 (.message "A")] [messageOf "AsObject" [] []]]

/-- The enumeration of the cases of the oneof has the name of the nested enum. -/
def sharing : File :=
  fileOf [{ messageOf "A" [.plain "b" 1 (.enumeration "A.CCase")] [] with
    oneofs := ["c"], enums := [⟨"CCase", [⟨"NONE", 0⟩]⟩] }]

end Sample

open Proto Sample in
/-- A path leads astray if a namespace captures its first name, if the type is not shown, if a name
has a dot, if a message around the type has no name, or if another file of the same name declares
the type. If types share a place, a path leads to all of them. -/
theorem paths_misled :
    (∀ file ∈ [capturing, unshown, mapOfMaps, dottedName, unnamed], Misled [file] file) ∧
      Misled [fileOf [client], fileOf [messageOf "B" [] []]] (fileOf [client]) ∧
      Misled [overlapping] overlapping ∧ Misled [sharing] sharing := by
  refine ⟨?_, ?_, ?_, ?_⟩
  · intro file hfile
    simp only [List.mem_cons, List.not_mem_nil, or_false] at hfile
    rcases hfile with rfl | rfl | rfl | rfl | rfl
    all_goals exact
      { distinct := by decide
        entries := by decide
        extensions := by decide
        misled := ⟨_, rfl, _, .head _, _, .head _, _, rfl, List.mem_of_getElem? (i := 2) rfl, _,
          .head _, rfl, fun _ _ _ => TypeDecl.not_denotedBy_of_empty (by decide +kernel)⟩ }
  · exact
      { distinct := by decide
        entries := by decide
        extensions := by decide
        misled := ⟨_, rfl, _, .head _, _, .head _, _, rfl, List.mem_of_getElem? (i := 2) rfl, _,
          .head _, rfl, fun _ _ _ => TypeDecl.not_denotedBy_of_empty (by decide +kernel)⟩ }
  · refine
      { distinct := by decide
        entries := by decide
        extensions := by decide
        misled := ⟨_, rfl, _, .head _, _, .head _, _, rfl, List.mem_of_getElem? (i := 2) rfl, _,
          .head _, rfl, fun t ht named => ?_⟩ }
    obtain rfl | rfl := List.mem_pair.1 (show t ∈ [_, _] from ht)
    · exact absurd named (by decide)
    · refine TypeDecl.not_denotedBy_of_mem (mem_declarationsAt.2
        ⟨_, List.mem_of_getElem? (i := 3) rfl, rfl, rfl⟩) ?_
      rintro ⟨exposed, inner, -, -, h⟩
      cases h
  · refine
      { distinct := by decide
        entries := by decide
        extensions := by decide
        misled := ⟨_, rfl, _, .head _, _, .head _, _, rfl, List.mem_of_getElem? (i := 2) rfl, _,
          .head _, rfl, fun t ht named => ?_⟩ }
    obtain rfl | rfl := List.mem_pair.1 (show t ∈ [_, _] from ht)
    · refine TypeDecl.not_denotedBy_of_mem (mem_declarationsAt.2
        ⟨_, List.mem_of_getElem? (i := 4) rfl, rfl, rfl⟩) ?_
      intro h
      exact absurd (Declaration.enumDecl.inj h) (by decide +kernel)
    · exact absurd named (by decide)

end ProtoTypings
