import Mathlib.Data.List.Find
import Mathlib.Data.List.Perm.Basic
import ProtoTypings.Proofs.Closure
import ProtoTypings.Proofs.TableAgreement

/-!
# Proofs.FileOrder

Neither the order in which files are sent nor files that nobody asks for make a difference.

* `Descriptor.File.typeNames` — the full names of the types that a file declares.
* `SymbolTable.get?_ofFiles_perm`, `SymbolTable.extendedBy_ofFiles` — tables of files in another
  order, and with a file more.
* `respond_of_files` — the response to the same request with other files.
-/

namespace ProtoTypings

/-! ## Names of types -/

instance decidableDisjoint (names rest : List String) : Decidable (names.Disjoint rest) :=
  decidable_of_iff (∀ name ∈ names, name ∉ rest) List.disjoint_left.symm

/-- The full names of the types that a file declares, in order: every name is qualified by those
around it, from the package inwards. -/
def Descriptor.File.typeNames (d : Descriptor.File) : List String :=
  d.declared.map fun t => t.names.foldl qualify ""

namespace Proto

/-- The full names of the types that a file declares, in order. -/
def File.typeNames (file : File) : List String := file.typeDecls.map (·.qualified file)

theorem foldl_qualify_packagePath (package : Option String) :
    (packagePath package).foldl qualify "" = package.getD "" := by
  cases package with
  | none => rfl
  | some p => by_cases h : p = "" <;> simp [packagePath, Option.filter, h, qualify]

theorem File.typeNames_of_descriptor {d : Descriptor.File} {file : File}
    (h : File.ofDescriptor d = .ok file) : d.typeNames = file.typeNames := by
  rw [Descriptor.File.typeNames, File.declared_eq h, List.map_map]
  refine List.map_congr_left fun t _ => ?_
  simp only [Function.comp_apply, TypeDecl.declared, List.foldl_append, foldl_qualify_packagePath,
    TypeDecl.qualified]

theorem File.map_fst_symbols (file : File) : file.symbols.map Prod.fst = file.typeNames := by
  rw [File.symbols_eq_map, List.map_map]
  rfl

end Proto

/-! ## Tables -/

namespace SymbolTable

open Proto

/-- A file has no symbols under names that it does not declare. -/
theorem lookup_symbols_eq_none {file : File} {name : String} (h : name ∉ file.typeNames) :
    file.symbols.reverse.lookup name = none := by
  rw [List.lookup_eq_none_iff]
  intro p hp
  rw [bne_iff_ne]
  rintro rfl
  rw [← File.map_fst_symbols] at h
  exact h (List.mem_map_of_mem (List.mem_reverse.1 hp))

theorem get?_ofFiles_append (files rest : List File) (name : String) :
    (ofFiles (files ++ rest)).get? name =
      ((ofFiles rest).get? name).or ((ofFiles files).get? name) := by
  simp only [get?_ofFiles, List.flatMap_append, List.reverse_append, List.lookup_append]

theorem get?_ofFiles_cons (file : File) (files : List File) (name : String) :
    (ofFiles (file :: files)).get? name =
      ((ofFiles files).get? name).or (file.symbols.reverse.lookup name) := by
  simp only [get?_ofFiles, List.flatMap_cons, List.reverse_append, List.lookup_append]

/-- In another order files that share no names make a table with the same answers. -/
theorem get?_ofFiles_perm {files sent : List File} (h : sent.Perm files)
    (apart : files.Pairwise fun f g => f.typeNames.Disjoint g.typeNames) (name : String) :
    (ofFiles sent).get? name = (ofFiles files).get? name := by
  have symm : ∀ {f g : File}, f.typeNames.Disjoint g.typeNames →
      g.typeNames.Disjoint f.typeNames := fun h => List.disjoint_symm h
  induction h with
  | nil => rfl
  | cons file _ ih =>
    rw [get?_ofFiles_cons, get?_ofFiles_cons, ih (List.pairwise_cons.1 apart).2]
  | swap f g rest =>
    have disjoint := (List.pairwise_cons.1 apart).1 g (by simp)
    rw [get?_ofFiles_cons, get?_ofFiles_cons, get?_ofFiles_cons, get?_ofFiles_cons, Option.or_assoc,
      Option.or_assoc]
    congr 1
    -- At most one of the two files has a symbol of this name, so their order does not matter.
    by_cases hf : name ∈ f.typeNames
    · rw [lookup_symbols_eq_none (disjoint hf), Option.or_none, Option.none_or]
    · rw [lookup_symbols_eq_none hf, Option.or_none, Option.none_or]
  | trans _ h ih₁ ih₂ => rw [ih₁ ((h.pairwise_iff symm).2 apart), ih₂ apart]

/-- A file whose names are new adds to a table wherever it stands among the files. -/
theorem extendedBy_ofFiles {before after : List File} {file : File}
    (new : ∀ f ∈ before ++ after, file.typeNames.Disjoint f.typeNames) :
    (ofFiles (before ++ after)).ExtendedBy (ofFiles (before ++ file :: after)) := by
  intro name s h
  obtain ⟨f, hf, t, ht, named, -⟩ := exists_of_get?_ofFiles h
  have fresh : name ∉ file.typeNames := fun own =>
    new f hf own (List.mem_map.2 ⟨t, ht, named⟩)
  rw [get?_ofFiles_append] at h ⊢
  rw [get?_ofFiles_cons, lookup_symbols_eq_none fresh, Option.or_none]
  exact h

end SymbolTable

/-! ## Responses -/

namespace Plugin

open Proto SymbolTable

/-- A request whose files have names of their own, and of which no two declare types of one name. -/
structure Request.Separate (q : Request) : Prop where
  fileNames : (q.files.map (·.name)).Nodup
  typeNames : q.files.Pairwise fun d e => d.typeNames.Disjoint e.typeNames

section Files

variable {descriptors : List Descriptor.File} {files : List File}

/-- Files that are sent in another order pass their checks in that order. -/
theorem each_of_perm (ok : each File.ofDescriptor descriptors = .ok files)
    {sent : List Descriptor.File} (h : sent.Perm descriptors) :
    ∃ files', each File.ofDescriptor sent = .ok files' ∧ files'.Perm files := by
  obtain ⟨files', made, perm⟩ := List.perm_comp_forall₂ h (each_eq_ok_iff_forall₂.1 ok)
  exact ⟨files', each_eq_ok_iff_forall₂.2 made, perm⟩

theorem pairwise_typeNames (ok : each File.ofDescriptor descriptors = .ok files)
    (apart : descriptors.Pairwise fun d e => d.typeNames.Disjoint e.typeNames) :
    files.Pairwise fun f g => f.typeNames.Disjoint g.typeNames := by
  rw [← List.pairwise_map (f := Descriptor.File.typeNames) (R := List.Disjoint)] at apart
  rw [← List.pairwise_map (f := File.typeNames) (R := List.Disjoint)]
  rwa [← map_of_each ok fun d _ file hd => File.typeNames_of_descriptor hd]

theorem targets_perm (ok : each File.ofDescriptor descriptors = .ok files)
    (distinct : (descriptors.map (·.name)).Nodup) {files' : List File} (h : files'.Perm files)
    (names : List String) : targets names files' = targets names files := by
  have named : descriptors.map (·.name) = files.map fun file => some file.name :=
    map_of_each ok fun d _ file hd => File.ofDescriptor_name hd
  rw [named] at distinct
  rw [targets, targets]
  congr 1
  funext name
  refine (List.find?_eq_find?_of_perm h.symm ?_).symm
  rintro f ⟨hf, nf⟩ g ⟨hg, ng⟩
  refine List.inj_on_of_nodup_map distinct hf hg ?_
  rw [beq_iff_eq.1 nf, beq_iff_eq.1 ng]

theorem targets_insert {before after : List File} {file : File} {names : List String}
    (h : file.name ∉ names) : targets names (before ++ file :: after) =
      targets names (before ++ after) := by
  refine List.filterMap_congr fun name hn => ?_
  have other : (file.name == name) = false := by
    rw [beq_eq_false_iff_ne]
    rintro rfl
    exact h hn
  rw [List.find?_append, List.find?_append, List.find?_cons, other]

end Files

theorem generate_of_each {q : Request} {files : List File}
    (ok : each File.ofDescriptor q.files = .ok files) :
    q.generate = (do
      let settings ← (Settings.parse (q.parameter.getD "")).mapError .settings
      (ProtoTypings.generate settings (.ofFiles files)
        (targets q.filesToGenerate files)).mapError .reference) := by
  rw [Request.generate, ok]
  rfl

theorem generate_perm {q : Request} (separate : q.Separate) {files : List File}
    (ok : each File.ofDescriptor q.files = .ok files) {sent : List Descriptor.File}
    (h : sent.Perm q.files) : Request.generate { q with files := sent } = q.generate := by
  obtain ⟨files', ok', perm⟩ := each_of_perm ok h
  have same : ∀ name, (ofFiles files).get? name = (ofFiles files').get? name := fun name =>
    (get?_ofFiles_perm perm (pairwise_typeNames ok separate.typeNames) name).symm
  have extended : (ofFiles files).ExtendedBy (ofFiles files') := fun name s h => by
    rw [← same, h]
  rw [generate_of_each ok, generate_of_each ok', targets_perm ok separate.fileNames perm]
  congr 1
  funext settings
  rw [(keeps_generate extended settings _).eq_of_same same]

theorem generate_insert {q : Request} {out : List GeneratedFile} (h : q.generate = .ok out)
    {before after : List Descriptor.File} (sent : q.files = before ++ after) {d : Descriptor.File}
    {file : File} (converts : File.ofDescriptor d = .ok file)
    (notAsked : file.name ∉ q.filesToGenerate)
    (new : ∀ e ∈ q.files, d.typeNames.Disjoint e.typeNames) :
    Request.generate { q with files := before ++ d :: after } = .ok out := by
  obtain ⟨-, files, -, ok, -⟩ := generate_eq_ok.1 h
  have apart : ∀ f ∈ files, file.typeNames.Disjoint f.typeNames := by
    intro f hf
    obtain ⟨e, he, hc⟩ := exists_of_mem_each ok hf
    rw [← File.typeNames_of_descriptor converts, ← File.typeNames_of_descriptor hc]
    exact new e he
  rw [generate_of_each ok, Check.bind_eq_ok] at h
  obtain ⟨settings, hs, hg⟩ := h
  rw [Check.mapError_eq_ok] at hg
  rw [sent, each_append_eq_ok] at ok
  obtain ⟨first, last, hf, hl, rfl⟩ := ok
  have ok' : each File.ofDescriptor (before ++ d :: after) = .ok (first ++ file :: last) :=
    each_append_eq_ok.2 ⟨first, file :: last, hf, each_cons_eq_ok.2 ⟨file, last, converts, hl, rfl⟩,
      rfl⟩
  -- The targets are those of the files as they were, and succeeded in the smaller table.
  rw [generate_of_each ok', targets_insert notAsked]
  refine Check.bind_eq_ok.2 ⟨settings, hs, Check.mapError_eq_ok.2 ?_⟩
  rw [(keeps_generate (extendedBy_ofFiles apart) settings _).eq_of_ok hg, hg]

theorem error_eq_none_iff {q : Request} :
    (respond q).error = none ↔ ∃ out, q.generate = .ok out := by
  rw [respond]
  cases q.generate <;> simp

/-- The order in which the files of a request are sent makes no difference if they pass their
checks, have names of their own and no two of them declare types of one name. If one does not pass
its check, the response is an error in every order. A request that is answered without an error is
answered in the same way if it sends one more file, anywhere among the others, that passes its
check, is not asked for and declares no type of a name that is declared already. -/
theorem respond_of_files (q : Request) :
    (∀ sent, sent.Perm q.files →
      (q.Separate → (∀ d ∈ q.files, ∃ file, File.ofDescriptor d = .ok file) →
        respond { q with files := sent } = respond q) ∧
      ((∃ d ∈ q.files, ∀ file, File.ofDescriptor d ≠ .ok file) →
        (respond { q with files := sent }).error ≠ none)) ∧
    ∀ before after d file, q.files = before ++ after → File.ofDescriptor d = .ok file →
      file.name ∉ q.filesToGenerate → (∀ e ∈ q.files, d.typeNames.Disjoint e.typeNames) →
      (respond q).error = none → respond { q with files := before ++ d :: after } = respond q := by
  refine ⟨fun sent perm => ⟨fun separate converts => ?_, ?_⟩, ?_⟩
  · obtain ⟨files, ok⟩ := each_eq_ok_of_forall converts
    rw [respond, respond, generate_perm separate ok perm]
  · rintro ⟨d, hd, fails⟩ none_
    obtain ⟨out, h⟩ := error_eq_none_iff.1 none_
    obtain ⟨-, files, -, ok, -⟩ := generate_eq_ok.1 h
    obtain ⟨file, -, hc⟩ := forall_of_each ok (perm.mem_iff.2 hd)
    exact fails file hc
  · intro before after d file sent converts notAsked new none_
    obtain ⟨out, h⟩ := error_eq_none_iff.1 none_
    rw [respond, respond, generate_insert h sent converts notAsked new, h]

end Plugin

namespace Sample

/-- A file that refers to nothing, with a message of a name that `shelfDescriptor` has without a
package. -/
def atticDescriptor : Descriptor.File :=
  { name := some "attic.proto", package := some "attic", dependencies := [],
    messages := [
      { name := some "Shelf", fields := [], nested := [], enums := [], oneofs := [],
        options := none }],
    enums := [], extensions := [], syntaxName := none }

def storeRequest : Plugin.Request := ⟨["store.proto"], none, [storeDescriptor, shelfDescriptor]⟩

/-- A request with a file that has no name. -/
def brokenRequest : Plugin.Request :=
  ⟨["store.proto"], none, [storeDescriptor, { shelfDescriptor with name := none }]⟩

end Sample

open Plugin Proto Sample in
theorem sample_respond_of_files :
    (respond storeRequest).error = none ∧
    respond { storeRequest with files := [shelfDescriptor, storeDescriptor] } =
      respond storeRequest ∧
    respond { storeRequest with files := [storeDescriptor, atticDescriptor, shelfDescriptor] } =
      respond storeRequest ∧
    (respond { brokenRequest with
      files := [{ shelfDescriptor with name := none }, storeDescriptor] }).error ≠ none := by
  have store := respond_of_files storeRequest
  have broken := respond_of_files brokenRequest
  have separate : storeRequest.Separate := ⟨by decide, by decide⟩
  have served : (respond storeRequest).error = none := rfl
  refine ⟨served, (store.1 _ (.swap _ _ _)).1 separate ?_, ?_, (broken.1 _ (.swap _ _ _)).2 ?_⟩
  · simp only [storeRequest, List.forall_mem_cons]
    exact ⟨⟨_, rfl⟩, ⟨_, rfl⟩, fun _ h => absurd h List.not_mem_nil⟩
  · exact store.2 [storeDescriptor] [shelfDescriptor] atticDescriptor _ rfl rfl (by decide)
      (by decide) served
  · refine ⟨_, .tail _ (.head _), fun file h => ?_⟩
    cases h

end ProtoTypings
