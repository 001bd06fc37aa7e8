import ProtoTypings.Proofs.RelativePath

/-!
# Proofs.Specifier

What a file writes to import a module leads to that module. The way up is counted in the path of the
file that imports, the way down is the path of the module; together they pass through the output
root and never above it.

* `exists_of_prefix` — a way that leads somewhere leads somewhere at every step.
* `specifier_leads` — where the specifier of a dependency leads.
-/

namespace ProtoTypings
namespace ModulePath

/-- A way that leads somewhere has not climbed above the root at any step. -/
theorem exists_of_prefix {ways start : List String} {directory target : List String}
    (h : ways.foldlM follow directory = some target) (part : start <+: ways) :
    ∃ between, start.foldlM follow directory = some between := by
  obtain ⟨rest, rfl⟩ := part
  rw [List.foldlM_append] at h
  obtain ⟨between, reached, -⟩ := Option.bind_eq_some_iff.1 h
  exact ⟨between, reached⟩

/-- A relative way begins with its first segment and a slash. -/
theorem toRoot_append (file path : String) :
    ∃ rest, toRoot file ++ path = "./" ++ rest ∨ toRoot file ++ path = "../" ++ rest := by
  unfold toRoot
  split
  · exact ⟨path, .inl rfl⟩
  · rename_i deep
    obtain ⟨n, hn⟩ := Nat.exists_eq_succ_of_ne_zero deep
    refine ⟨String.join (List.replicate n "../") ++ path, .inr ?_⟩
    rw [hn, ← String.toList_inj]
    simp [List.replicate_succ]

/-- What a file writes to import a dependency whose path is made of ordinary segments. If the
dependency does not come with the runtime, this is a relative path. Followed from the directory of
the file it stays below the output root all the way and ends at the module of the dependency. What
comes with the runtime is named by the runtime module, wherever the file is. -/
theorem specifier_leads (runtimeModule file : String) {dependency : String}
    (ordinary : ∀ s ∈ segments dependency, IsOrdinary s) :
    (dependency ∉ standardFiles →
      (∃ rest, specifier runtimeModule file dependency = "./" ++ rest ∨
        specifier runtimeModule file dependency = "../" ++ rest) ∧
      (∀ start, start <+: segments (specifier runtimeModule file dependency) →
        ∃ between, start.foldlM follow (directory file) = some between) ∧
      resolve? file (specifier runtimeModule file dependency) = some (modulePath dependency)) ∧
    (dependency ∈ standardFiles → ∀ importer,
      specifier runtimeModule importer dependency =
        runtimeModule ++ "/" ++ modulePath dependency) := by
  have below := isOrdinary_modulePath ordinary
  have deep := length_directory file
  constructor
  · intro other
    rw [specifier, if_neg other]
    refine ⟨toRoot_append file _, fun start part => ?_, resolve?_toRoot deep below⟩
    exact exists_of_prefix (foldlM_follow_toRoot deep below) part
  · intro standard importer
    rw [specifier, if_pos standard]

theorem sample_specifier_leads :
    (∀ s ∈ segments "shop/v1/item", IsOrdinary s) ∧ "shop/v1/item" ∉ standardFiles ∧
      specifier "google-protobuf" "shop/cart/order.proto" "shop/v1/item" =
        "../../shop/v1/item_pb" ∧
      resolve? "shop/cart/order.proto" "../../shop/v1/item_pb" = some "shop/v1/item_pb" ∧
      (∀ s ∈ segments "google/protobuf/any.proto", IsOrdinary s) ∧
      specifier "@acme/runtime" "order.proto" "google/protobuf/any.proto" =
        "@acme/runtime/google/protobuf/any_pb" := by
  have ordinary : ∀ s ∈ segments "shop/v1/item", IsOrdinary s := by decide
  have other : "shop/v1/item" ∉ standardFiles := by decide
  have standard : ∀ s ∈ segments "google/protobuf/any.proto", IsOrdinary s := by decide
  have leads := (specifier_leads "google-protobuf" "shop/cart/order.proto" ordinary).1 other
  have written : specifier "google-protobuf" "shop/cart/order.proto" "shop/v1/item" =
      "../../shop/v1/item_pb" := by decide
  have module : modulePath "shop/v1/item" = "shop/v1/item_pb" := by decide
  rw [written, module] at leads
  refine ⟨ordinary, other, written, leads.2.2, standard, ?_⟩
  exact (specifier_leads "@acme/runtime" "order.proto" standard).2 (by decide) "order.proto"

end ModulePath
end ProtoTypings
