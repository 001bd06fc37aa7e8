import Mathlib.Data.List.Nodup
import ProtoTypings.Proofs.TypeDecl

/-!
# Proofs.Lookup

What a symbol table answers, in terms of the declarations that it was made from.

* `SymbolTable.get?_ofFiles` — the last symbol listed under a name.
* `SymbolTable.get?_fullName` — if full names are distinct, the symbol of each declared type.
* `SymbolTable.get?_ofFiles_eq_some` — every symbol of a table is that of a declared type.
-/

namespace ProtoTypings

/-! ## Association lists -/

theorem lookup_of_mem {α β : Type} [BEq α] [LawfulBEq α] {l : List (α × β)}
    (distinct : (l.map Prod.fst).Nodup) {k : α} {v : β} (h : (k, v) ∈ l) :
    l.lookup k = some v := by
  induction l with
  | nil => cases h
  | cons p l ih =>
    obtain ⟨k', v'⟩ := p
    rw [List.map_cons, List.nodup_cons] at distinct
    rcases List.mem_cons.1 h with h | h
    · cases h
      simp
    · have other : (k == k') = false := by
        rw [beq_eq_false_iff_ne]
        intro e
        exact distinct.1 (List.mem_map.2 ⟨(k, v), h, e⟩)
      rw [List.lookup_cons, other]
      exact ih distinct.2 h

theorem mem_of_lookup {α β : Type} [BEq α] [LawfulBEq α] {l : List (α × β)} {k : α} {v : β}
    (h : l.lookup k = some v) : (k, v) ∈ l := by
  obtain ⟨before, after, rfl, -⟩ := List.lookup_eq_some_iff.1 h
  simp

/-! ## Tables -/

namespace SymbolTable

open Proto

theorem get?_foldl_insert (l : List (String × Symbol)) (t : SymbolTable) (fullName : String) :
    (l.foldl insert t).get? fullName = (l.reverse.lookup fullName).or (t.get? fullName) := by
  induction l generalizing t with
  | nil => simp
  | cons p l ih =>
    rw [List.foldl_cons, ih, get?_insert, List.reverse_cons, List.lookup_append, Option.or_assoc]
    congr 1
    obtain ⟨k, v⟩ := p
    by_cases h : k = fullName
    · simp [h]
    · have other : (fullName == k) = false := beq_eq_false_iff_ne.2 (Ne.symm h)
      simp [h, other, List.lookup_cons]

/-- A table answers with the symbol that was declared last under a name. -/
theorem get?_ofFiles (files : List File) (fullName : String) :
    (ofFiles files).get? fullName = (files.flatMap (·.symbols)).reverse.lookup fullName := by
  rw [ofFiles, addFile_eq_foldl, get?_foldl_insert, get?_empty, Option.or_none]

/-- What the table knows under a name is the symbol of a type, put into its package and the messages
around it. -/
theorem exists_of_get?_ofFiles {files : List File} {fullName : String} {s : Symbol}
    (h : (ofFiles files).get? fullName = some s) :
    ∃ file ∈ files, ∃ t ∈ file.typeDecls, t.qualified file = fullName ∧ t.symbol file = s := by
  rw [get?_ofFiles] at h
  obtain ⟨file, hf, hm⟩ := List.mem_flatMap.1 (List.mem_reverse.1 (mem_of_lookup h))
  rw [File.symbols_eq_map] at hm
  obtain ⟨t, ht, e⟩ := List.mem_map.1 hm
  exact ⟨file, hf, t, ht, congrArg Prod.fst e, congrArg Prod.snd e⟩

/-- The full names of the types that some files declare. -/
def fullNames (files : List File) : List String :=
  files.flatMap fun file => file.typeDecls.map fun t => file.fullName t.path

section Named

variable {files : List File}

theorem map_fst_symbols (named : ∀ file ∈ files, MessagesNamed file.typeDecls) :
    (files.flatMap (·.symbols)).map Prod.fst = fullNames files := by
  rw [List.map_flatMap, fullNames]
  refine List.flatMap_congr fun file hf => ?_
  rw [File.symbols_eq (named file hf), List.map_map]
  rfl

/-- With distinct full names the table knows every declared type. -/
theorem get?_fullName (named : ∀ file ∈ files, MessagesNamed file.typeDecls)
    (distinct : (fullNames files).Nodup) {file : File} (hf : file ∈ files) {t : TypeDecl}
    (ht : t ∈ file.typeDecls) :
    (ofFiles files).get? (file.fullName t.path) = some (t.symbol file) := by
  rw [get?_ofFiles]
  apply lookup_of_mem
  · rw [List.map_reverse, List.nodup_reverse, map_fst_symbols named]
    exact distinct
  · rw [List.mem_reverse, List.mem_flatMap]
    refine ⟨file, hf, ?_⟩
    rw [File.symbols_eq (named file hf)]
    exact List.mem_map.2 ⟨t, ht, rfl⟩

/-- What the table knows under a name is a declared type. -/
theorem get?_ofFiles_eq_some (named : ∀ file ∈ files, MessagesNamed file.typeDecls)
    {fullName : String} {s : Symbol} (h : (ofFiles files).get? fullName = some s) :
    ∃ file ∈ files, ∃ t ∈ file.typeDecls, file.fullName t.path = fullName ∧ t.symbol file = s := by
  obtain ⟨file, hf, t, ht, rfl, rfl⟩ := exists_of_get?_ofFiles h
  exact ⟨file, hf, t, ht, (File.qualified_eq (named file hf) ht).symm, rfl⟩

end Named

end SymbolTable

end ProtoTypings
