import Mathlib.Data.List.Dedup
import ProtoTypings.Proofs.Lookup

/-!
# Proofs.TableHistory

What a symbol table knows after any history of files, whatever they declare: the same name twice,
the same file twice, names that come about in several ways from packages and enclosing messages.

* `listing` — all declarations of some files, in the order in which their symbols are declared.
* `Listed.HasSymbol` — the symbol of a declaration, map fields included.
* `foldl_addFile_records` — every name has the symbol of its last declaration.
-/

namespace ProtoTypings

open Proto

/-! ## Map fields -/

namespace Proto

/-- The first field of a message that has a number. -/
def Message.FirstNumbered (m : Message) (number : Int32) (f : Field) : Prop :=
  ∃ before after, m.fields = before ++ f :: after ∧ f.number = number ∧
    ∀ g ∈ before, g.number ≠ number

/-- Map fields that a message has to have: none, unless it is marked as a map entry and has fields
numbered 1 and 2; then the first such fields. -/
structure Message.HasMapFields (m : Message) (entry : Option MapEntry) : Prop where
  isSome : entry.isSome ↔
    m.isMapEntry ∧ (∃ f ∈ m.fields, f.number = 1) ∧ ∃ f ∈ m.fields, f.number = 2
  first : ∀ e, entry = some e → m.FirstNumbered 1 e.key ∧ m.FirstNumbered 2 e.value

theorem Message.find?_number {m : Message} {number : Int32} {f : Field} :
    m.fields.find? (·.number == number) = some f ↔ m.FirstNumbered number f := by
  rw [List.find?_eq_some_iff_append, FirstNumbered]
  simp only [beq_iff_eq, Bool.not_eq_true', beq_eq_false_iff_ne]
  constructor
  · rintro ⟨own, before, after, e, others⟩
    exact ⟨before, after, e, own, others⟩
  · rintro ⟨before, after, e, own, others⟩
    exact ⟨own, before, after, e, others⟩

theorem Message.mapFields_eq_some {m : Message} {e : MapEntry} :
    m.mapFields = some e ↔
      m.isMapEntry ∧ m.FirstNumbered 1 e.key ∧ m.FirstNumbered 2 e.value := by
  obtain ⟨key, value⟩ := e
  rw [mapFields, ← Message.find?_number, ← Message.find?_number]
  cases m.isMapEntry with
  | false => simp
  | true =>
    cases m.fields.find? (·.number == 1) with
    | none => simp
    | some f => cases m.fields.find? (·.number == 2) <;> simp

theorem Message.isSome_mapFields (m : Message) :
    m.mapFields.isSome ↔
      m.isMapEntry ∧ (∃ f ∈ m.fields, f.number = 1) ∧ ∃ f ∈ m.fields, f.number = 2 := by
  have found : ∀ number, (∃ f ∈ m.fields, f.number = number) ↔
      (m.fields.find? (·.number == number)).isSome := fun number => by
    simp [List.find?_isSome]
  rw [found, found, mapFields]
  cases m.isMapEntry with
  | false => simp
  | true =>
    cases m.fields.find? (·.number == 1) with
    | none => simp
    | some f => cases m.fields.find? (·.number == 2) <;> simp

theorem Message.hasMapFields_iff {m : Message} {entry : Option MapEntry} :
    m.HasMapFields entry ↔ entry = m.mapFields := by
  constructor
  · rintro ⟨isSome, first⟩
    rw [← m.isSome_mapFields] at isSome
    cases entry with
    | none =>
      have unset : m.mapFields = none := by simpa using isSome
      exact unset.symm
    | some e =>
      have marked := (m.isSome_mapFields.1 (isSome.1 rfl)).1
      exact (Message.mapFields_eq_some.2 ⟨marked, first e rfl⟩).symm
  · rintro rfl
    exact ⟨m.isSome_mapFields, fun e he => (Message.mapFields_eq_some.1 he).2⟩

end Proto

/-! ## Listing declarations -/

/-- A declared type and the file that declares it. -/
structure Listed where
  file : File
  type : TypeDecl

namespace Listed

def fullName (d : Listed) : String := d.type.qualified d.file

/-- The symbol of a declaration. -/
def HasSymbol (d : Listed) (s : Symbol) : Prop :=
  s.fileName = d.file.name ∧ s.package = d.file.package ∧
    match d.type.definition with
    | .message m => ∃ entry, s.kind = .message entry ∧ m.HasMapFields entry
    | .enumeration _ => s.kind = .enumeration

theorem hasSymbol_iff {d : Listed} {s : Symbol} : d.HasSymbol s ↔ d.type.symbol d.file = s := by
  obtain ⟨file, outer, definition⟩ := d
  obtain ⟨fileName, package, kind⟩ := s
  cases definition with
  | message m =>
    simp only [HasSymbol, Message.hasMapFields_iff, TypeDecl.symbol, TypeDefinition.symbolKind,
      exists_eq_right, Symbol.mk.injEq, eq_comm]
  | enumeration e =>
    simp only [HasSymbol, TypeDecl.symbol, TypeDefinition.symbolKind, Symbol.mk.injEq, eq_comm]

end Listed

/-- The declarations of some files: file by file, in a file its messages and then its enums, and
each message after the messages and the enums nested in it. -/
def listing (files : List File) : List Listed :=
  files.flatMap fun file => file.typeDecls.map (⟨file, ·⟩)

theorem flatMap_symbols_eq (files : List File) :
    files.flatMap (·.symbols) =
      (listing files).map fun d => (d.fullName, d.type.symbol d.file) := by
  rw [listing, List.map_flatMap]
  refine List.flatMap_congr fun file _ => ?_
  rw [File.symbols_eq_map, List.map_map]
  rfl

/-! ## Names -/

/-- With a scope that has a name, all that is qualified in it begins with that and a dot. -/
theorem exists_foldl_qualify {scope : String} (h : scope ≠ "") {path : List String}
    (hp : path ≠ []) : ∃ rest, path.foldl qualify scope = scope ++ "." ++ rest := by
  induction path generalizing scope with
  | nil => exact absurd rfl hp
  | cons name path ih =>
    rw [List.foldl_cons, qualify, if_neg h]
    by_cases hn : path = []
    · subst hn
      exact ⟨name, rfl⟩
    · have named : scope ++ "." ++ name ≠ "" := by simp
      obtain ⟨rest, e⟩ := ih named hn
      exact ⟨name ++ "." ++ rest, by rw [e]; simp [String.append_assoc]⟩

/-- The local name of a symbol, put into its package again, is its full name. -/
theorem Proto.TypeDecl.qualify_localName (file : File) (t : TypeDecl) :
    qualify ((t.symbol file).package.getD "") ((t.symbol file).localName (t.qualified file)) =
      t.qualified file := by
  rw [TypeDecl.qualified]
  generalize hs : t.symbol file = s
  have package : s.package = file.package := by rw [← hs]; rfl
  rw [← package]
  cases hp : s.package with
  | none => simp [qualify, Symbol.localName, hp]
  | some p =>
    rw [Option.getD_some]
    by_cases ne : p = ""
    · simp [qualify, Symbol.localName, hp, ne]
    · obtain ⟨rest, e⟩ := exists_foldl_qualify ne t.path_ne_nil
      rw [e, Symbol.localName_append hp ne, qualify, if_neg ne]

/-! ## Tables -/

namespace SymbolTable

/-- What is known under the names of some declarations: for every name the symbol of its last
declaration. -/
structure Records (t : SymbolTable) (listed : List Listed) : Prop where
  absent : ∀ name, t.get? name = none ↔ ∀ d ∈ listed, d.fullName ≠ name
  last : ∀ name s, t.get? name = some s ↔
    ∃ before d after, listed = before ++ d :: after ∧ d.fullName = name ∧
      (∀ e ∈ after, e.fullName ≠ name) ∧ d.HasSymbol s
  size : t.size = (listed.map (·.fullName)).dedup.length
  /-- A name is that of a message or that of an enum, and not of both. -/
  kinds : ∀ name s, t.get? name = some s →
    (t.message? name = some s ∧ t.enum? name = none) ∨
      (t.message? name = none ∧ t.enum? name = some s)
  /-- The local name of a symbol, put into its package, is its full name. -/
  qualified : ∀ name s, t.get? name = some s →
    qualify (s.package.getD "") (s.localName name) = name

theorem message?_or_enum? {t : SymbolTable} {name : String} {s : Symbol}
    (h : t.get? name = some s) :
    (t.message? name = some s ∧ t.enum? name = none) ∨
      (t.message? name = none ∧ t.enum? name = some s) := by
  rw [message?, enum?, h]
  cases hm : s.isMessage <;> simp [Option.filter, hm]

/-- The size of a table is the number of the names that it knows. -/
theorem size_eq {t : SymbolTable} {names : List String}
    (known : ∀ name, t.get? name = none ↔ name ∉ names) : t.size = names.dedup.length := by
  have mem : ∀ name, name ∈ t.entries.keys ↔ name ∈ names.dedup := fun name => by
    rw [Std.TreeMap.mem_keys, Std.TreeMap.mem_iff_isSome_getElem?, List.mem_dedup,
      ← not_iff_not, ← known, get?, Option.not_isSome_iff_eq_none]
  rw [size, ← Std.TreeMap.length_keys]
  exact ((List.perm_ext_iff_of_nodup Std.TreeMap.nodup_keys (List.nodup_dedup _)).2 mem).length_eq

/-- Looked up from the end, the symbols of declarations give that of the last one of a name. -/
theorem lookup_reverse_eq_some_iff {listed : List Listed} {name : String} {s : Symbol} :
    (listed.map fun d => (d.fullName, d.type.symbol d.file)).reverse.lookup name = some s ↔
      ∃ before d after, listed = before ++ d :: after ∧ d.fullName = name ∧
        (∀ e ∈ after, e.fullName ≠ name) ∧ d.HasSymbol s := by
  rw [List.lookup_eq_some_iff]
  constructor
  · rintro ⟨l₁, l₂, e, others⟩
    rw [List.reverse_eq_iff, List.reverse_append, List.reverse_cons, List.append_assoc,
      List.singleton_append, List.map_eq_append_iff] at e
    obtain ⟨before, rest, rfl, -, hr⟩ := e
    obtain ⟨d, after, rfl, hd, ha⟩ := List.map_eq_cons_iff.1 hr
    refine ⟨before, d, after, rfl, congrArg Prod.fst hd, fun e he => ?_,
      Listed.hasSymbol_iff.2 (congrArg Prod.snd hd)⟩
    have listed : (e.fullName, e.type.symbol e.file) ∈ l₁ := by
      rw [← List.mem_reverse, ← ha]
      exact List.mem_map.2 ⟨e, he, rfl⟩
    exact (bne_iff_ne.1 (others _ listed)).symm
  · rintro ⟨before, d, after, rfl, rfl, others, symbol⟩
    refine ⟨(after.map fun d => (d.fullName, d.type.symbol d.file)).reverse,
      (before.map fun d => (d.fullName, d.type.symbol d.file)).reverse, ?_, ?_⟩
    · simp [Listed.hasSymbol_iff.1 symbol]
    · intro p hp
      obtain ⟨e, he, rfl⟩ := List.mem_map.1 (List.mem_reverse.1 hp)
      simpa using (others e he).symm

/-- Whatever files a table is made from, it answers for every name with the symbol of the last
declaration of that name, and for no other names. -/
theorem foldl_addFile_records (files : List File) :
    (files.foldl addFile empty).Records (listing files) := by
  have lookup : ∀ name, (files.foldl addFile empty).get? name = ((listing files).map
      fun d => (d.fullName, d.type.symbol d.file)).reverse.lookup name := fun name => by
    rw [← flatMap_symbols_eq]
    exact get?_ofFiles files name
  have last : ∀ name s, (files.foldl addFile empty).get? name = some s ↔
      ∃ before d after, listing files = before ++ d :: after ∧ d.fullName = name ∧
        (∀ e ∈ after, e.fullName ≠ name) ∧ d.HasSymbol s := fun name s => by
    rw [lookup, lookup_reverse_eq_some_iff]
  have absent : ∀ name, (files.foldl addFile empty).get? name = none ↔
      ∀ d ∈ listing files, d.fullName ≠ name := fun name => by
    rw [lookup, List.lookup_eq_none_iff]
    simp only [List.mem_reverse, List.forall_mem_map]
    exact forall₂_congr fun d _ => bne_iff_ne.trans ne_comm
  refine ⟨absent, last, ?_, fun name s => message?_or_enum?, fun name s h => ?_⟩
  · refine size_eq fun name => ?_
    rw [absent]
    simp
  · obtain ⟨before, d, after, -, rfl, -, symbol⟩ := (last name s).1 h
    rw [← Listed.hasSymbol_iff.1 symbol]
    exact d.type.qualify_localName d.file

end SymbolTable

namespace Sample

def leafMessage (name : String) (nested : List Message) : Message :=
  { name, isMapEntry := false, fields := [], oneofs := [], nested, enums := [] }

/-- A file of package `a` with a message `B.C`. -/
def nestedFile : File :=
  { name := "nested.proto", package := some "a", dialect := .proto3, dependencies := [],
    messages := [leafMessage "B" [leafMessage "C" []]], enums := [], extensions := [] }

/-- A file of package `a.B` with a message `C`. -/
def packagedFile : File :=
  { name := "packaged.proto", package := some "a.B", dialect := .proto3, dependencies := [],
    messages := [leafMessage "C" []], enums := [], extensions := [] }

end Sample

open SymbolTable Sample in
/-- Both files declare `a.B.C`, and the later one counts with its own package. -/
example : (ofFiles [nestedFile, packagedFile]).get? "a.B.C" =
    some ⟨"packaged.proto", some "a.B", .message none⟩ := rfl

end ProtoTypings
