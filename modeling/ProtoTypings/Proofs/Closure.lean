import ProtoTypings.Proofs.Declared
import ProtoTypings.Proofs.Reference
import ProtoTypings.Proofs.Response

/-!
# Proofs.Closure

Files that refer to nothing but what they declare are served without an error, whatever their order
and whichever of them are asked for.

* `Resolvable`, `Closed` — references to declared types, and files that hold no others.
* `Closed.text` — every file among closed files has a text.
* `respond_of_closed` — the response to a request that sends such files.
-/

namespace ProtoTypings
namespace Proto

open SymbolTable TypeScript

/-- A scalar type, or a reference to a type that one of the files declares. -/
def Resolvable (files : List File) (type : FieldType) : Prop :=
  (∃ scalar, type = .scalar scalar) ∨
    ∃ G ∈ files, ∃ t ∈ G.typeDecls, type = t.definition.reference (G.fullName t.path)

/-- Files with distinct full names whose fields and extensions refer to their own types only. -/
structure Closed (files : List File) : Prop where
  named : ∀ file ∈ files, MessagesNamed file.typeDecls
  distinct : (fullNames files).Nodup
  fields : ∀ file ∈ files, ∀ t ∈ file.typeDecls, ∀ m, t.definition = .message m →
    ∀ f ∈ m.fields, Resolvable files f.type
  extensions : ∀ file ∈ files, ∀ f ∈ file.extensions, Resolvable files f.type

theorem exists_messageDeclarations {s : Scope} {ms : List Message}
    (h : ∀ m ∈ ms, ∃ ds, m.declarations s = .ok ds) :
    ∃ ds, messageDeclarations s ms = .ok ds := by
  induction ms with
  | nil => exact ⟨[], rfl⟩
  | cons m ms ih =>
    obtain ⟨first, hf⟩ := h m (by simp)
    obtain ⟨rest, hr⟩ := ih fun n hn => h n (List.mem_cons_of_mem _ hn)
    exact ⟨_, messageDeclarations_cons_eq_ok.2 ⟨first, rest, hf, hr, rfl⟩⟩

namespace Closed

variable {files : List File}

theorem typeExpr (closed : Closed files) (F : File) {type : FieldType}
    (h : Resolvable files type) : ∃ t, Scope.typeExpr ⟨ofFiles files, F⟩ type = .ok t := by
  rcases h with ⟨scalar, rfl⟩ | ⟨G, hG, t, ht, rfl⟩
  · exact ⟨_, rfl⟩
  · exact ⟨_, Scope.typeExpr_reference closed.named closed.distinct hG ht F⟩

/-- The key and the value of a map are fields of a declared message, so their types are known. -/
theorem mapEntry (closed : Closed files) {name : String} {symbol : Symbol} {entry : MapEntry}
    (h : (ofFiles files).get? name = some symbol) (he : symbol.mapEntry = some entry) :
    Resolvable files entry.key.type ∧ Resolvable files entry.value.type := by
  obtain ⟨G, hG, t, ht, -, rfl⟩ := get?_ofFiles_eq_some closed.named h
  cases hd : t.definition with
  | message m =>
    have fields : m.mapFields = some entry := by
      simpa [Symbol.mapEntry, TypeDecl.symbol, TypeDefinition.symbolKind, hd] using he
    obtain ⟨-, key, value⟩ := mem_fields_of_mapFields fields
    exact ⟨closed.fields G hG t ht m hd _ key, closed.fields G hG t ht m hd _ value⟩
  | enumeration e => simp [Symbol.mapEntry, TypeDecl.symbol, TypeDefinition.symbolKind, hd] at he

theorem entryView (closed : Closed files) (F : File) {entry : MapEntry}
    (key : Resolvable files entry.key.type) (value : Resolvable files entry.value.type) :
    ∃ view, Scope.entryView ⟨ofFiles files, F⟩ entry = .ok view := by
  obtain ⟨k, hk⟩ := closed.typeExpr F key
  obtain ⟨v, hv⟩ := closed.typeExpr F value
  by_cases h : entry.value.isBytes
  · refine ⟨⟨entry.key.type, k, entry.value.type, .bytesOrText⟩,
      Check.bind_eq_ok.2 ⟨k, hk, ?_⟩⟩
    simp only [if_pos h]
    rfl
  · refine ⟨⟨entry.key.type, k, entry.value.type, v⟩, Check.bind_eq_ok.2 ⟨k, hk, ?_⟩⟩
    simp only [if_neg h, hv]
    rfl

theorem exposure (closed : Closed files) (F : File) {f : Field} (h : Resolvable files f.type) :
    ∃ e, Scope.exposure ⟨ofFiles files, F⟩ f = .ok e := by
  obtain ⟨type, ht⟩ := closed.typeExpr F h
  unfold Scope.exposure
  split
  · exact ⟨_, rfl⟩
  · exact ⟨_, rfl⟩
  · exact ⟨_, Check.map_eq_ok.2 ⟨type, ht, rfl⟩⟩
  · rename_i name hf
    rw [hf] at ht
    obtain ⟨symbol, hs, -⟩ := Check.map_eq_ok.1 ht
    -- A map is followed once more, to its key and value, whose types another file may declare.
    cases he : symbol.mapEntry with
    | none => exact ⟨_, Check.bind_eq_ok.2 ⟨symbol, hs, by rw [he]⟩⟩
    | some entry =>
      obtain ⟨key, value⟩ := closed.mapEntry (Scope.get?_of_message hs) he
      obtain ⟨view, hv⟩ := closed.entryView F key value
      exact ⟨.map view, Check.bind_eq_ok.2
        ⟨symbol, hs, by rw [he]; exact Check.map_eq_ok.2 ⟨view, hv, rfl⟩⟩⟩

theorem expose (closed : Closed files) (F : File) {fs : List Field}
    (h : ∀ f ∈ fs, Resolvable files f.type) :
    ∃ exposed, each (Scope.expose ⟨ofFiles files, F⟩) fs = .ok exposed :=
  each_eq_ok_of_forall fun f hf => by
    obtain ⟨e, he⟩ := closed.exposure F (h f hf)
    exact ⟨_, Check.map_eq_ok.2 ⟨e, he, rfl⟩⟩

theorem declarations (closed : Closed files) (F : File) (m : Message) :
    (∀ t ∈ m.typeDecls, ∀ k, t.definition = .message k → ∀ f ∈ k.fields,
      Resolvable files f.type) → ∃ ds, m.declarations ⟨ofFiles files, F⟩ = .ok ds := by
  induction m using Message.nested_induction with
  | step m ih =>
    intro h
    cases hm : m.isMapEntry with
    | true => exact ⟨[], Message.declarations_eq_ok.2 (.inl ⟨hm, rfl⟩)⟩
    | false =>
      obtain ⟨exposed, he⟩ := closed.expose F
        (h ⟨[], .message m⟩ (Message.mem_typeDecls.2 (.inr (.inr rfl))) m rfl)
      obtain ⟨inner, hi⟩ := exists_messageDeclarations fun n hn => ih n hn fun t ht k hk =>
        h (t.inside m) (Message.mem_typeDecls.2 (.inl ⟨n, hn, t, ht, rfl⟩)) k hk
      exact ⟨_, Message.declarations_eq_ok.2 (.inr ⟨hm, exposed, inner, he, hi, rfl⟩)⟩

theorem text (closed : Closed files) {F : File} (hF : F ∈ files) (settings : Settings) :
    ∃ text, F.text settings (ofFiles files) = .ok text := by
  obtain ⟨messages, hm⟩ := exists_messageDeclarations (s := ⟨ofFiles files, F⟩) fun m hm =>
    closed.declarations F m fun t ht k hk =>
      closed.fields F hF t (List.mem_append_left _ (List.mem_flatMap.2 ⟨m, hm, ht⟩)) k hk
  have extension : ∀ f ∈ F.extensions,
      ∃ d, Field.extensionDeclaration ⟨ofFiles files, F⟩ f = .ok d := by
    intro f hf
    obtain ⟨type, ht⟩ := closed.typeExpr F (closed.extensions F hF f hf)
    exact ⟨_, Check.map_eq_ok.2 ⟨type, ht, rfl⟩⟩
  obtain ⟨extensions, hx⟩ := each_eq_ok_of_forall extension
  have body : F.declarations (ofFiles files) = .ok _ :=
    File.declarations_eq_ok.2 ⟨messages, extensions, hm, hx, rfl⟩
  exact ⟨_, Check.map_eq_ok.2 ⟨_, Check.map_eq_ok.2 ⟨_, body, rfl⟩, rfl⟩⟩

end Closed

/-! ## From descriptors -/

section Descriptors

variable {descriptors : List Descriptor.File} {files : List File}

theorem exists_of_mem_declared (ok : each File.ofDescriptor descriptors = .ok files)
    {t : Descriptor.DeclaredType} (h : t ∈ descriptors.flatMap (·.declared)) :
    ∃ G ∈ files, ∃ u ∈ G.typeDecls, u.declared (packagePath G.package) = t := by
  obtain ⟨d, hd, ht⟩ := List.mem_flatMap.1 h
  obtain ⟨G, hG, hd⟩ := forall_of_each ok hd
  rw [File.declared_eq hd] at ht
  obtain ⟨u, hu, rfl⟩ := List.mem_map.1 ht
  exact ⟨G, hG, u, hu, rfl⟩

theorem resolvable_of_refersInto (ok : each File.ofDescriptor descriptors = .ok files)
    {type : FieldType} (h : type.RefersInto (descriptors.flatMap (·.declared))) :
    Resolvable files type := by
  cases type with
  | scalar scalar => exact .inl ⟨scalar, rfl⟩
  | message name =>
    obtain ⟨t, ht, kind, rfl⟩ := h
    obtain ⟨G, hG, u, hu, rfl⟩ := exists_of_mem_declared ok ht
    refine .inr ⟨G, hG, u, hu, ?_⟩
    cases hd : u.definition with
    | message m => rfl
    | enumeration e => simp [TypeDecl.declared, TypeDefinition.kind, hd] at kind
  | enumeration name =>
    obtain ⟨t, ht, kind, rfl⟩ := h
    obtain ⟨G, hG, u, hu, rfl⟩ := exists_of_mem_declared ok ht
    refine .inr ⟨G, hG, u, hu, ?_⟩
    cases hd : u.definition with
    | message m => simp [TypeDecl.declared, TypeDefinition.kind, hd] at kind
    | enumeration e => rfl

theorem fullNames_eq (ok : each File.ofDescriptor descriptors = .ok files) :
    fullNames files = (descriptors.flatMap (·.declared)).map (·.fullName) := by
  rw [List.map_flatMap, fullNames]
  refine (flatMap_of_each ok fun d _ file hd => ?_).symm
  rw [File.declared_eq hd, List.map_map]
  rfl

theorem messagesNamed_of_declared (ok : each File.ofDescriptor descriptors = .ok files)
    (named : ∀ t ∈ descriptors.flatMap (·.declared), t.kind = .message →
      t.names.getLast? ≠ some "") : ∀ file ∈ files, MessagesNamed file.typeDecls := by
  intro file hf t ht m hm
  obtain ⟨d, hd, ok⟩ := exists_of_mem_each ok hf
  have declared : t.declared (packagePath file.package) ∈ d.declared := by
    rw [File.declared_eq ok]
    exact List.mem_map.2 ⟨t, ht, rfl⟩
  have last := named _ (List.mem_flatMap.2 ⟨d, hd, declared⟩)
    (by simp [TypeDecl.declared, TypeDefinition.kind, hm])
  intro empty
  apply last
  simp [TypeDecl.declared, TypeDecl.path, TypeDefinition.name, hm, empty]

theorem closed_of_descriptors (ok : each File.ofDescriptor descriptors = .ok files)
    (distinct : ((descriptors.flatMap (·.declared)).map (·.fullName)).Nodup)
    (named : ∀ t ∈ descriptors.flatMap (·.declared), t.kind = .message →
      t.names.getLast? ≠ some "")
    (closed : ∀ d ∈ descriptors, ∀ f ∈ d.allFields,
      f.RefersInto (descriptors.flatMap (·.declared))) : Closed files where
  named := messagesNamed_of_declared ok named
  distinct := by rwa [fullNames_eq ok]
  fields file hf t ht m hm f hfield := by
    obtain ⟨d, hd, conv⟩ := exists_of_mem_each ok hf
    exact resolvable_of_refersInto ok ((File.closedFields conv (closed d hd)).1 t ht m hm f hfield)
  extensions file hf f hfield := by
    obtain ⟨d, hd, conv⟩ := exists_of_mem_each ok hf
    exact resolvable_of_refersInto ok ((File.closedFields conv (closed d hd)).2 f hfield)

end Descriptors

end Proto

/-! ## Requests -/

namespace Plugin

open Proto

/-- A request is served if its parameter is valid and all files it sends pass their checks and refer
to nothing but the types they declare. -/
theorem generate_of_closed {q : Request} {settings : Settings} {files : List File}
    (parameter : Settings.parse (q.parameter.getD "") = .ok settings)
    (ok : each File.ofDescriptor q.files = .ok files) (closed : Closed files) :
    ∃ out, q.generate = .ok out := by
  have target : ∀ file ∈ q.filesToGenerate.filterMap (firstNamed? q.files),
      ∃ out, generateFile settings (.ofFiles files) file = .ok out := by
    intro file hf
    obtain ⟨name, -, hn⟩ := List.mem_filterMap.1 hf
    rw [← find?_of_each ok] at hn
    exact exists_generateFile.2 (closed.text (List.mem_of_find?_eq_some hn) settings)
  obtain ⟨out, h⟩ := each_eq_ok_of_forall target
  exact ⟨out, generate_eq_ok.2 ⟨settings, files, parameter, ok, h⟩⟩

/-- Take files that pass their checks and declare types of distinct full names, every message with a
name that is not empty. If every field that refers to a message or an enum gives a dot and the full
name of one that is declared in these files, a request with a valid parameter that sends them, in
any order and with any targets, is answered without an error. -/
theorem respond_of_closed {descriptors : List Descriptor.File}
    (converts : ∀ d ∈ descriptors, ∃ file, File.ofDescriptor d = .ok file)
    (distinct : ((descriptors.flatMap (·.declared)).map (·.fullName)).Nodup)
    (named : ∀ t ∈ descriptors.flatMap (·.declared), t.kind = .message →
      t.names.getLast? ≠ some "")
    (closed : ∀ d ∈ descriptors, ∀ f ∈ d.allFields,
      f.RefersInto (descriptors.flatMap (·.declared)))
    {q : Request} (sent : q.files.Perm descriptors) {settings : Settings}
    (parameter : Settings.parse (q.parameter.getD "") = .ok settings) :
    (respond q).error = none := by
  have declared : (q.files.flatMap (·.declared)).Perm (descriptors.flatMap (·.declared)) :=
    sent.flatMap_right _
  obtain ⟨files, ok⟩ := each_eq_ok_of_forall fun d hd => converts d (sent.mem_iff.1 hd)
  have closedFiles : Closed files := by
    refine closed_of_descriptors ok ?_ ?_ ?_
    · rwa [(declared.map _).nodup_iff]
    · intro t ht
      exact named t (declared.mem_iff.1 ht)
    · intro d hd f hf kind hk
      obtain ⟨t, ht, h⟩ := closed d (sent.mem_iff.1 hd) f hf kind hk
      exact ⟨t, declared.mem_iff.2 ht, h⟩
  obtain ⟨out, h⟩ := generate_of_closed parameter ok closedFiles
  rw [respond, h]

end Plugin

namespace Sample

def fieldDescriptor (name : String) (number type : Int32) (typeName : Option String) :
    Descriptor.Field :=
  { name := some name, number := some number, label := none, type := some type, typeName,
    oneofIndex := none, proto3Optional := none }

/-- A file with a map whose values are messages of `shelfDescriptor`. -/
def storeDescriptor : Descriptor.File :=
  { name := some "store.proto", package := some "store", dependencies := ["shelf.proto"],
    messages := [
      { name := some "Store",
        fields := [fieldDescriptor "shelves" 1 11 (some ".store.Store.Entry")],
        nested := [
          { name := some "Entry",
            fields := [fieldDescriptor "key" 1 9 none,
              fieldDescriptor "value" 2 11 (some ".Shelf")],
            nested := [], enums := [], oneofs := [], options := some ⟨some true⟩ }],
        enums := [⟨some "Kind", []⟩], oneofs := [], options := none }],
    enums := [], extensions := [], syntaxName := none }

/-- A file without a package that refers back to `storeDescriptor`. -/
def shelfDescriptor : Descriptor.File :=
  { name := some "shelf.proto", package := none, dependencies := ["store.proto"],
    messages := [
      { name := some "Shelf", fields := [fieldDescriptor "kind" 1 14 (some ".store.Store.Kind")],
        nested := [], enums := [], oneofs := [], options := none }],
    enums := [], extensions := [fieldDescriptor "store" 100 11 (some ".store.Store")],
    syntaxName := none }

end Sample

open Sample in
theorem sample_respond_of_closed :
    (Plugin.respond ⟨["shelf.proto", "store.proto", "none.proto"], some "output_suffix=.ts",
      [shelfDescriptor, storeDescriptor]⟩).error = none := by
  have converts : ∀ d ∈ [storeDescriptor, shelfDescriptor],
      ∃ file, Proto.File.ofDescriptor d = .ok file := by
    simp only [List.forall_mem_cons]
    exact ⟨⟨_, rfl⟩, ⟨_, rfl⟩, fun _ h => absurd h List.not_mem_nil⟩
  have parameter : Settings.parse "output_suffix=.ts" = .ok ⟨"google-protobuf", ".ts"⟩ := rfl
  exact Plugin.respond_of_closed converts (by decide) (by decide) (by decide) (.swap _ _ _)
    parameter

end ProtoTypings
