import Mathlib.Data.List.Forall2
import ProtoTypings.Proofs.Imports

/-!
# Proofs.Aliases

Which imports of a file have the same alias. An alias is made of a path by writing underscores for
its separators, so `shop/item.proto` and `shop_item.proto` are imported under one name. An alias in
front of a type identifies one import only if no other dependency is the same but for separators.

* `SameButSeparators` — paths that differ in their separators at most.
* `importAlias_eq_iff` — they are the paths with the same alias.
* `File.aliases_identify` — the aliases that a file binds and those that it writes.
-/

namespace ProtoTypings
namespace ModulePath

/-- The characters that an alias does not tell apart. -/
def separators : List Char := ['/', '.', '-', '_']

/-- Paths that, without the extension, differ at most in which separators they have. -/
def SameButSeparators (a b : String) : Prop :=
  List.Forall₂ (fun c d => c = d ∨ c ∈ separators ∧ d ∈ separators) (stem a).toList (stem b).toList

theorem aliasChar_of_mem {c : Char} (h : c ∈ separators) : aliasChar c = '_' := by
  simp only [separators, List.mem_cons, List.not_mem_nil, or_false] at h
  rcases h with rfl | rfl | rfl | rfl <;> rfl

theorem aliasChar_of_not_mem {c : Char} (h : c ∉ separators) : aliasChar c = c := by
  refine if_neg ?_
  rintro (rfl | rfl | rfl) <;> exact h (by decide)

theorem aliasChar_eq_iff {c d : Char} :
    aliasChar c = aliasChar d ↔ c = d ∨ c ∈ separators ∧ d ∈ separators := by
  have underscore : '_' ∈ separators := by decide
  by_cases hc : c ∈ separators <;> by_cases hd : d ∈ separators
  · simp [aliasChar_of_mem hc, aliasChar_of_mem hd, hc, hd]
  · rw [aliasChar_of_mem hc, aliasChar_of_not_mem hd]
    simp only [hd, and_false, or_false]
    constructor
    · rintro rfl
      exact absurd underscore hd
    · rintro rfl
      exact absurd hc hd
  · rw [aliasChar_of_not_mem hc, aliasChar_of_mem hd]
    simp only [hc, false_and, or_false]
    constructor
    · rintro rfl
      exact absurd underscore hc
    · rintro rfl
      exact absurd hd hc
  · simp [aliasChar_of_not_mem hc, aliasChar_of_not_mem hd, hc]

theorem importAlias_eq_iff {a b : String} :
    importAlias a = importAlias b ↔ SameButSeparators a b := by
  have chars : ∀ s t : List Char, s.map aliasChar = t.map aliasChar ↔
      List.Forall₂ (fun c d => c = d ∨ c ∈ separators ∧ d ∈ separators) s t := by
    intro s t
    rw [← List.forall₂_eq_eq_eq, List.forall₂_map_left_iff, List.forall₂_map_right_iff]
    simp only [aliasChar_eq_iff]
  rw [SameButSeparators, ← chars, importAlias, importAlias, String.append_left_inj,
    String.ofList_inj]

theorem importAlias_ne_jspb (path : String) : importAlias path ≠ "jspb" := by
  intro h
  have tail := congrArg (fun s => s.toList.reverse.take 3) h
  simp [importAlias] at tail

end ModulePath
open TypeScript ModulePath

namespace Proto

/-- The alias of a path is that of no other dependency just if no other is the same but for
separators. -/
theorem existsUnique_importAlias_iff {dependencies : List String} {path : String}
    (h : path ∈ dependencies) :
    (∃! d, d ∈ dependencies ∧ importAlias d = importAlias path) ↔
      ∀ d ∈ dependencies, SameButSeparators d path → d = path := by
  simp only [importAlias_eq_iff]
  have self : SameButSeparators path path := importAlias_eq_iff.1 rfl
  constructor
  · rintro unique d hd same
    exact unique.unique ⟨hd, same⟩ ⟨h, self⟩
  · intro only
    exact ⟨path, ⟨h, self⟩, fun d hd => only d hd.1 hd.2⟩

/-- Take a file whose typings can be given. They import the runtime and the dependencies, each by
its alias. Two dependencies have the same alias just if they are the same but for separators. An
alias that is written in front of a type, wherever it is, is that of another file, which declares a
type that the file names, and it is the alias of those dependencies that are the same as this file
but for separators. If this file is a dependency, it alone has the alias just if no other is the
same but for separators. -/
theorem File.aliases_identify {files : List File} {settings : Settings} {F : File} {m : Module}
    (h : F.typings settings (.ofFiles files) = .ok m) :
    m.imports = { name := "jspb", source := settings.runtimeModule } :: F.dependencies.map (fun d =>
      { name := importAlias d, source := specifier settings.runtimeModule F.name d }) ∧
    (∀ d ∈ F.dependencies, importAlias d ≠ "jspb" ∧
      ∀ e ∈ F.dependencies, importAlias d = importAlias e ↔ SameButSeparators d e) ∧
    ∀ p ∈ placedIn [] m.body, ∀ type ∈ p.declaration.types, ∀ n ∈ type.names, ∀ qualifier,
      n.qualifier = some qualifier → ∃ G ∈ files, G.name ≠ F.name ∧
        (∃ ref ∈ F.namedTypes files, ∃ t ∈ G.typeDecls, ref.name? = some (t.qualified G)) ∧
        qualifier = importAlias G.name ∧
        (∀ d ∈ F.dependencies, importAlias d = qualifier ↔ SameButSeparators d G.name) ∧
        (G.name ∈ F.dependencies →
          ((∃! d, d ∈ F.dependencies ∧ importAlias d = qualifier) ↔
            ∀ d ∈ F.dependencies, SameButSeparators d G.name → d = G.name)) := by
  obtain ⟨body, hbody, rfl⟩ := Check.map_eq_ok.1 h
  refine ⟨rfl, fun d _ => ⟨importAlias_ne_jspb d, fun e _ => importAlias_eq_iff⟩, ?_⟩
  intro p hp type ht n hn qualifier hq
  obtain ⟨ref, hr, t, href, c, hc, hcq⟩ := File.exists_of_alias hbody hp ht hn hq
  obtain ⟨name, hname, G, hG, ⟨u, hu, rfl⟩, other, rfl⟩ := Scope.exists_of_qualifier href hc hcq
  exact ⟨G, hG, other, ⟨ref, hr, u, hu, hname⟩, rfl, fun d _ => importAlias_eq_iff,
    existsUnique_importAlias_iff⟩

end Proto

namespace Sample

open Proto

def tokenFile (path type : String) : File :=
  { coinFile with name := path, messages := [{ coin with name := type }] }

/-- The paths of two files that differ in their separators only. -/
def tokenPaths : List String := ["shop/item.proto", "shop_item.proto"]

/-- A file that imports both and names a type of the first. -/
def tokenFiles : List File :=
  [tokenFile "shop/item.proto" "Item", tokenFile "shop_item.proto" "Note",
    purseFile "Item" tokenPaths]

end Sample

open Proto Sample in
theorem typings_tokenFiles : ∃ m,
    (purseFile "Item" tokenPaths).typings {} (.ofFiles tokenFiles) = .ok m ∧
      m.imports.map (·.name) = ["jspb", "shop_item_pb", "shop_item_pb"] ∧
      ∃ p ∈ placedIn [] m.body, ∃ type ∈ p.declaration.types, ∃ n ∈ type.names,
        n.qualifier = some "shop_item_pb" := by
  refine ⟨_, rfl, ?_, ?_⟩ <;> decide +kernel

open Proto Sample in
theorem sample_aliases_identify : ∃ m,
    (purseFile "Item" tokenPaths).typings {} (.ofFiles tokenFiles) = .ok m ∧
      SameButSeparators "shop/item.proto" "shop_item.proto" ∧
      ∃ G ∈ tokenFiles, "shop_item_pb" = importAlias G.name ∧
        ∀ d ∈ tokenPaths, importAlias d = "shop_item_pb" ↔ SameButSeparators d G.name := by
  obtain ⟨m, h, -, p, hp, type, ht, n, hn, hq⟩ := typings_tokenFiles
  obtain ⟨-, aliases, identify⟩ := File.aliases_identify h
  obtain ⟨G, hG, -, -, same, bound, -⟩ := identify p hp type ht n hn _ hq
  refine ⟨m, h, ?_, G, hG, same, bound⟩
  exact ((aliases "shop/item.proto" (.head _)).2 "shop_item.proto" (.tail _ (.head _))).1
    (by decide +kernel)

open Proto Sample in
/-- Two dependencies are imported by one alias, and it is written in front of a type. -/
theorem aliases_clash : ∃ m,
    (purseFile "Item" tokenPaths).typings {} (.ofFiles tokenFiles) = .ok m ∧
      tokenPaths.Nodup ∧ importAlias "shop/item.proto" = importAlias "shop_item.proto" ∧
      m.imports.map (·.name) = ["jspb", "shop_item_pb", "shop_item_pb"] ∧
      ∃ p ∈ placedIn [] m.body, ∃ type ∈ p.declaration.types, ∃ n ∈ type.names,
        n.qualifier = some "shop_item_pb" ∧
          ¬ ∃! d, d ∈ tokenPaths ∧ importAlias d = "shop_item_pb" := by
  have twice : ¬ ∃! d, d ∈ tokenPaths ∧ importAlias d = "shop_item_pb" := fun unique =>
    absurd (unique.unique ⟨.head _, by decide +kernel⟩ ⟨.tail _ (.head _), by decide +kernel⟩)
      (by decide : "shop/item.proto" ≠ "shop_item.proto")
  obtain ⟨m, h, imports, p, hp, type, ht, n, hn, hq⟩ := typings_tokenFiles
  exact ⟨m, h, by decide, by decide +kernel, imports, p, hp, type, ht, n, hn, hq, twice⟩

end ProtoTypings
