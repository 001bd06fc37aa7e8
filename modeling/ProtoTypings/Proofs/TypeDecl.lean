import Mathlib.Data.List.Basic
import ProtoTypings.SymbolTable

/-!
# Proofs.TypeDecl

The types that a file declares, each with the messages it is nested in, and their full names.

* `Message.typeDecls`, `File.typeDecls` — the messages and enums of a file at every depth, in the
  order in which their symbols are declared.
* `File.fullName` — package, enclosing messages and own name, joined by dots.
* `File.symbols_eq_map` — the symbols of a file are its type declarations under their names, package
  and enclosing messages put before them one by one.
* `File.symbols_eq` — if messages have names, these are the full names.
* `Symbol.localName_fullName` — the local name of a type is its path.
-/

namespace ProtoTypings

def dotted (names : List String) : String := ".".intercalate names

/-- The package as the start of a full name; an empty package is none. -/
def packagePath (package : Option String) : List String := (package.filter (· ≠ "")).toList

namespace Proto

/-- A property that a message has once all messages nested in it have it holds of every message. -/
@[elab_as_elim]
theorem Message.nested_induction {P : Message → Prop}
    (step : ∀ m : Message, (∀ n ∈ m.nested, P n) → P m) : ∀ m, P m
  | ⟨name, isMapEntry, fields, oneofs, nested, enums⟩ =>
    step _ fun n (_hn : n ∈ nested) => nested_induction step n
termination_by m => sizeOf m
decreasing_by
  have := List.sizeOf_lt_of_mem _hn
  simp only [Message.mk.sizeOf_spec]
  omega

theorem mem_fields_of_mapFields {m : Message} {entry : MapEntry} (h : m.mapFields = some entry) :
    m.isMapEntry ∧ entry.key ∈ m.fields ∧ entry.value ∈ m.fields := by
  unfold Message.mapFields at h
  split at h
  · rename_i isMap
    split at h
    · rename_i key value hk hv
      cases h
      exact ⟨isMap, List.mem_of_find?_eq_some hk, List.mem_of_find?_eq_some hv⟩
    · cases h
  · cases h

/-! ## Declarations of types -/

inductive TypeDefinition where
  | message (message : Message)
  | enumeration (enum : Enum)

namespace TypeDefinition

def name : TypeDefinition → String
  | message m => m.name
  | enumeration e => e.name

/-- The reference to a type of this kind by its full name. -/
def reference (fullName : String) : TypeDefinition → FieldType
  | message _ => .message fullName
  | enumeration _ => .enumeration fullName

def symbolKind : TypeDefinition → SymbolKind
  | message m => .message m.mapFields
  | enumeration _ => .enumeration

def isMapEntry : TypeDefinition → Bool
  | message m => m.isMapEntry
  | enumeration _ => false

end TypeDefinition

/-- A message or an enum with the messages around it, outermost first. -/
structure TypeDecl where
  outer : List Message
  definition : TypeDefinition

namespace TypeDecl

/-- The names from the outermost message down to the type itself. -/
def path (t : TypeDecl) : List String := t.outer.map (·.name) ++ [t.definition.name]

/-- The declaration seen from around the message `m` that it stands in. -/
def inside (m : Message) (t : TypeDecl) : TypeDecl := { t with outer := m :: t.outer }

/-- Whether neither the type nor a message around it stands behind a map field. -/
def isShown (t : TypeDecl) : Bool :=
  !(t.outer.any (·.isMapEntry) || t.definition.isMapEntry)

def symbol (file : File) (t : TypeDecl) : Symbol :=
  { fileName := file.name, package := file.package, kind := t.definition.symbolKind }

@[simp] theorem path_inside (m : Message) (t : TypeDecl) :
    (t.inside m).path = m.name :: t.path := rfl

@[simp] theorem definition_inside (m : Message) (t : TypeDecl) :
    (t.inside m).definition = t.definition := rfl

@[simp] theorem outer_inside (m : Message) (t : TypeDecl) :
    (t.inside m).outer = m :: t.outer := rfl

@[simp] theorem isShown_inside (m : Message) (t : TypeDecl) :
    (t.inside m).isShown = (!m.isMapEntry && t.isShown) := by
  simp [isShown, Bool.or_assoc]

theorem path_ne_nil (t : TypeDecl) : t.path ≠ [] := by simp [path]

end TypeDecl

mutual

/-- The types that a message declares: those nested in it, then itself. -/
def Message.typeDecls : Message → List TypeDecl
  | ⟨name, isMapEntry, fields, oneofs, nested, enums⟩ =>
    let m : Message := ⟨name, isMapEntry, fields, oneofs, nested, enums⟩
    (messageTypeDecls nested).map (.inside m) ++
      enums.map (fun e => ⟨[m], .enumeration e⟩) ++ [⟨[], .message m⟩]

def messageTypeDecls : List Message → List TypeDecl
  | [] => []
  | m :: ms => m.typeDecls ++ messageTypeDecls ms

end

theorem messageTypeDecls_eq_flatMap (ms : List Message) :
    messageTypeDecls ms = ms.flatMap (·.typeDecls) := by
  induction ms with
  | nil => rfl
  | cons m ms ih => rw [messageTypeDecls, List.flatMap_cons, ih]

theorem Message.typeDecls_eq (m : Message) :
    m.typeDecls = (m.nested.flatMap (·.typeDecls)).map (.inside m) ++
      m.enums.map (fun e => ⟨[m], .enumeration e⟩) ++ [⟨[], .message m⟩] := by
  rw [← messageTypeDecls_eq_flatMap]
  cases m
  rfl

theorem Message.mem_typeDecls {m : Message} {t : TypeDecl} :
    t ∈ m.typeDecls ↔
      (∃ n ∈ m.nested, ∃ u ∈ n.typeDecls, t = u.inside m) ∨
        (∃ e ∈ m.enums, t = ⟨[m], .enumeration e⟩) ∨ t = ⟨[], .message m⟩ := by
  rw [Message.typeDecls_eq]
  simp only [List.mem_append, List.mem_map, List.mem_flatMap, List.mem_singleton, or_assoc]
  constructor
  · rintro (⟨u, ⟨n, hn, hu⟩, rfl⟩ | ⟨e, he, rfl⟩ | h)
    · exact .inl ⟨n, hn, u, hu, rfl⟩
    · exact .inr (.inl ⟨e, he, rfl⟩)
    · exact .inr (.inr h)
  · rintro (⟨n, hn, u, hu, rfl⟩ | ⟨e, he, rfl⟩ | h)
    · exact .inl ⟨u, ⟨n, hn, hu⟩, rfl⟩
    · exact .inr (.inl ⟨e, he, rfl⟩)
    · exact .inr (.inr h)

/-- The types that a file declares: those of its messages, then its enums. -/
def File.typeDecls (file : File) : List TypeDecl :=
  file.messages.flatMap (·.typeDecls) ++ file.enums.map fun e => ⟨[], .enumeration e⟩

/-- The full name of a type at a path in a file. -/
def File.fullName (file : File) (path : List String) : String :=
  dotted (packagePath file.package ++ path)

end Proto

/-! ## Full names -/

theorem dotted_cons_cons (a b : String) (names : List String) :
    dotted (a :: b :: names) = a ++ "." ++ dotted (b :: names) := by
  simp [dotted, String.intercalate_cons_cons]

theorem dotted_cons (a : String) {names : List String} (h : names ≠ []) :
    dotted (a :: names) = a ++ "." ++ dotted names := by
  obtain ⟨b, rest, rfl⟩ := List.exists_cons_of_ne_nil h
  exact dotted_cons_cons a b rest

theorem dotted_append {names rest : List String} (h : names ≠ []) (h' : rest ≠ []) :
    dotted (names ++ rest) = dotted names ++ "." ++ dotted rest := by
  induction names with
  | nil => exact absurd rfl h
  | cons a names ih =>
    by_cases hn : names = []
    · subst hn
      rw [List.singleton_append, dotted_cons a h']
      simp [dotted]
    · rw [List.cons_append, dotted_cons a (by simp [hn]), ih hn, dotted_cons a hn]
      simp [String.append_assoc]

theorem dotted_ne_empty {names : List String} (h : names ≠ []) (hs : ∀ n ∈ names, n ≠ "") :
    dotted names ≠ "" := by
  obtain ⟨a, rest, rfl⟩ := List.exists_cons_of_ne_nil h
  by_cases hr : rest = []
  · subst hr
    simpa [dotted] using hs a (by simp)
  · rw [dotted_cons a hr]
    simp

/-- Qualifying a name puts it after the names of its scope. -/
theorem qualify_dotted {scope : List String} (hs : ∀ s ∈ scope, s ≠ "") (name : String) :
    qualify (dotted scope) name = dotted (scope ++ [name]) := by
  by_cases h : scope = []
  · subst h
    simp [qualify, dotted]
  · rw [qualify, if_neg (dotted_ne_empty h hs), dotted_append h (by simp)]
    simp [dotted]

/-- Qualifying a path name by name puts it after the names of its scope. -/
theorem foldl_qualify_dotted {scope path : List String} (hs : ∀ s ∈ scope, s ≠ "")
    (hp : ∀ s ∈ path, s ≠ "") : path.foldl qualify (dotted scope) = dotted (scope ++ path) := by
  induction path generalizing scope with
  | nil => rw [List.foldl_nil, List.append_nil]
  | cons name path ih =>
    have hs' : ∀ s ∈ scope ++ [name], s ≠ "" :=
      List.forall_mem_append.2 ⟨hs, by simpa using hp name (by simp)⟩
    rw [List.foldl_cons, qualify_dotted hs, ih hs' fun s h => hp s (List.mem_cons_of_mem _ h),
      List.append_assoc, List.singleton_append]

theorem packagePath_ne_empty {package : Option String} : ∀ s ∈ packagePath package, s ≠ "" := by
  intro s hs
  simp only [packagePath, Option.mem_toList, Option.filter_eq_some_iff, decide_eq_true_eq] at hs
  exact hs.2

theorem dotted_packagePath (package : Option String) :
    dotted (packagePath package) = package.getD "" := by
  cases package with
  | none => rfl
  | some p =>
    by_cases h : p = ""
    · subst h
      rfl
    · simp [packagePath, Option.filter, h, dotted]

/-! ## Symbols -/

namespace Proto

def MessagesNamed (ts : List TypeDecl) : Prop :=
  ∀ t ∈ ts, ∀ m, t.definition = .message m → m.name ≠ ""

theorem MessagesNamed.own {m : Message} (h : MessagesNamed m.typeDecls) : m.name ≠ "" :=
  h ⟨[], .message m⟩ (Message.mem_typeDecls.2 (.inr (.inr rfl))) m rfl

theorem MessagesNamed.nested {m n : Message} (h : MessagesNamed m.typeDecls) (hn : n ∈ m.nested) :
    MessagesNamed n.typeDecls := by
  intro t ht k hk
  exact h (t.inside m) (Message.mem_typeDecls.2 (.inl ⟨n, hn, t, ht, rfl⟩)) k hk

/-- The messages around a declared type have names if all declared messages have. -/
theorem MessagesNamed.outer {m : Message} (h : MessagesNamed m.typeDecls) :
    ∀ t ∈ m.typeDecls, ∀ o ∈ t.outer, o.name ≠ "" := by
  induction m using Message.nested_induction with
  | step m ih =>
    intro t ht o ho
    rcases Message.mem_typeDecls.1 ht with ⟨n, hn, u, hu, rfl⟩ | ⟨e, -, rfl⟩ | rfl
    · rcases List.mem_cons.1 ho with rfl | ho
      · exact h.own
      · exact ih n hn (h.nested hn) u hu o ho
    · rw [List.mem_singleton.1 ho]
      exact h.own
    · cases ho

/-- The name of a type with the package of its file and the messages around it put before it, each
qualifying what comes next. -/
def TypeDecl.qualified (file : File) (t : TypeDecl) : String :=
  t.path.foldl qualify (file.package.getD "")

/-- The symbols of a message are the types it declares, in the same order. -/
theorem Message.symbols_eq_map (file : File) (m : Message) : ∀ scope,
    m.symbols file scope =
      m.typeDecls.map fun t => (t.path.foldl qualify scope, t.symbol file) := by
  induction m using Message.nested_induction with
  | step m ih =>
    intro scope
    have nested : m.nested.flatMap (·.symbols file (qualify scope m.name)) =
        (m.nested.flatMap (·.typeDecls)).map
          fun t => (t.path.foldl qualify (qualify scope m.name), t.symbol file) := by
      rw [List.map_flatMap]
      exact List.flatMap_congr fun n hn => ih n hn _
    rw [Message.symbols_eq, Message.typeDecls_eq, messageSymbols_eq_flatMap, nested]
    simp [Enum.symbol, TypeDecl.path, TypeDecl.symbol, TypeDefinition.name,
      TypeDefinition.symbolKind, Function.comp_def]

/-- The symbols of a file are the types it declares, in the same order. -/
theorem File.symbols_eq_map (file : File) :
    file.symbols = file.typeDecls.map fun t => (t.qualified file, t.symbol file) := by
  have messages : messageSymbols file (file.package.getD "") file.messages =
      (file.messages.flatMap (·.typeDecls)).map fun t => (t.qualified file, t.symbol file) := by
    rw [messageSymbols_eq_flatMap, List.map_flatMap]
    exact List.flatMap_congr fun m _ => m.symbols_eq_map file _
  rw [File.symbols, File.typeDecls, List.map_append, ← messages]
  simp [Enum.symbol, TypeDecl.qualified, TypeDecl.path, TypeDecl.symbol, TypeDefinition.name,
    TypeDefinition.symbolKind]

/-- If messages have names, the full name of a type is its path joined by dots. -/
theorem File.qualified_eq {file : File} (h : MessagesNamed file.typeDecls) {t : TypeDecl}
    (ht : t ∈ file.typeDecls) : t.qualified file = file.fullName t.path := by
  have outer : ∀ s ∈ t.outer.map (·.name), s ≠ "" := by
    rw [List.forall_mem_map]
    rcases List.mem_append.1 ht with ht | ht
    · obtain ⟨m, hm, ht⟩ := List.mem_flatMap.1 ht
      refine MessagesNamed.outer (fun u hu => ?_) t ht
      exact h u (List.mem_append_left _ (List.mem_flatMap.2 ⟨m, hm, hu⟩))
    · obtain ⟨e, -, rfl⟩ := List.mem_map.1 ht
      simp
  rw [TypeDecl.qualified, TypeDecl.path, ← dotted_packagePath, List.foldl_append,
    foldl_qualify_dotted packagePath_ne_empty outer, List.foldl_cons, List.foldl_nil,
    qualify_dotted (List.forall_mem_append.2 ⟨packagePath_ne_empty, outer⟩), File.fullName,
    List.append_assoc]

/-- The symbols of a file are the types it declares under their full names, in the same order. -/
theorem File.symbols_eq {file : File} (h : MessagesNamed file.typeDecls) :
    file.symbols = file.typeDecls.map fun t => (file.fullName t.path, t.symbol file) := by
  rw [File.symbols_eq_map]
  refine List.map_congr_left fun t ht => ?_
  rw [File.qualified_eq h ht]

end Proto

/-! ## Local names -/

theorem Symbol.localName_append {s : Symbol} {package : String} (h : s.package = some package)
    (ne : package ≠ "") (rest : String) : s.localName (package ++ "." ++ rest) = rest := by
  have cut : Text.dropPrefix? (package.toList ++ ['.']) (package ++ "." ++ rest).toList =
      some rest.toList := by
    rw [Text.dropPrefix?_eq_some_iff]
    simp
  simp only [Symbol.localName, h, if_neg ne, cut, String.ofList_toList]

/-- A symbol's package is cut off its full name again, whatever the package. -/
theorem Symbol.localName_dotted (s : Symbol) {path : List String} (h : path ≠ []) :
    s.localName (dotted (packagePath s.package ++ path)) = dotted path := by
  obtain ⟨fileName, package, kind⟩ := s
  cases package with
  | none => rfl
  | some p =>
    by_cases hp : p = ""
    · subst hp
      rfl
    · have full : dotted (packagePath (some p) ++ path) = p ++ "." ++ dotted path := by
        simp [packagePath, Option.filter, hp, dotted_cons p h]
      rw [full, Symbol.localName_append rfl hp]

end ProtoTypings
