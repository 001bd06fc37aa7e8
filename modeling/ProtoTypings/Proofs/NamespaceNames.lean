import ProtoTypings.Proofs.Denotation
import ProtoTypings.Proofs.Indentation
import ProtoTypings.Proofs.ReadAlike

/-!
# Proofs.NamespaceNames

The names declared inside the namespace of a message. Nested messages and enums keep their names.
Beside them stand names that are made: that of the object type and, for each oneof, that of its
cases. Nothing keeps nested types apart from these, nor oneofs whose words are the same but for
case.

* `Declaration.introduces?`, `Message.typeNames` — the names declared, and those of nested types.
* `caseName_eq_iff` — oneofs with the same name for their cases.
* `Message.namespace_distinct` — when all names in the namespace of a message are distinct.
-/

namespace ProtoTypings
namespace TypeScript

/-- The name that a declaration brings in. A namespace has the name of the class in front of it and
brings in none of its own. -/
def Declaration.introduces? : Declaration → Option String
  | .namespaceDecl _ _ => none
  | d => d.typeName?

end TypeScript

namespace Proto

open TypeScript Casing

/-- The names of the types nested in a message, map entries left out. -/
def Message.typeNames (m : Message) : List String :=
  (m.nested.filter (!·.isMapEntry)).map (·.name) ++ m.enums.map (·.name)

theorem caseName_eq_iff {a b : String} (ha : IsAscii a) (hb : IsAscii b) :
    caseName a = caseName b ↔ ReadAlike (caseSpelling a) (caseSpelling b) := by
  rw [caseName_eq ha, caseName_eq hb, inUpperCamel_inj]

/-- Messages one after the other bring in their names, map entries none. -/
theorem introduced_messages {s : Scope} {ms : List Message} {ds : List Declaration}
    (h : messageDeclarations s ms = .ok ds) :
    ds.filterMap Declaration.introduces? = (ms.filter (!·.isMapEntry)).map (·.name) := by
  induction ms generalizing ds with
  | nil =>
    cases h
    rfl
  | cons m ms ih =>
    obtain ⟨first, rest, hf, hr, rfl⟩ := messageDeclarations_cons_eq_ok.1 h
    rw [List.filterMap_append, ih hr]
    rcases Message.declarations_eq_ok.1 hf with ⟨hm, rfl⟩ | ⟨hm, exposed, inner, -, -, rfl⟩
    · rw [List.filter_cons_of_neg (by simp [hm])]
      rfl
    · rw [List.filter_cons_of_pos (by simp [hm])]
      rfl

theorem introduced_enums {α : Type} (f : α → EnumDeclaration) (as : List α) :
    (as.map fun a => Declaration.enumDecl (f a)).filterMap Declaration.introduces? =
      as.map fun a => (f a).name := by
  rw [List.filterMap_map]
  exact congrFun List.filterMap_eq_map' as

theorem Message.introduced_namespaceBody {s : Scope} {m : Message} (exposed : List ExposedField)
    {inner : List Declaration} (h : messageDeclarations s m.nested = .ok inner) :
    (m.namespaceBody exposed inner).filterMap Declaration.introduces? =
      TypeExpr.objectTypeName :: m.typeNames ++ m.oneofs.map caseName := by
  rw [namespaceBody, List.filterMap_append, List.filterMap_append, List.filterMap_cons,
    introduced_messages h, introduced_enums, introduced_enums (fun e => e), names_caseDeclarations,
    typeNames, ← List.cons_append]
  rfl

/-- If the names of the nested types are distinct, all names in the namespace of a message are, just
if no type is named like the object type or like the cases of a oneof and no two oneofs have words
that are the same but for case. -/
theorem Message.distinct_iff {m : Message} (types : m.typeNames.Nodup)
    (oneofs : ∀ o ∈ m.oneofs, IsAscii o) :
    (TypeExpr.objectTypeName :: m.typeNames ++ m.oneofs.map caseName).Nodup ↔
      TypeExpr.objectTypeName ∉ m.typeNames ∧ (∀ o ∈ m.oneofs, caseName o ∉ m.typeNames) ∧
        m.oneofs.Pairwise fun a b => ¬ ReadAlike (caseSpelling a) (caseSpelling b) := by
  have cases : (m.oneofs.map caseName).Nodup ↔
      m.oneofs.Pairwise fun a b => ¬ ReadAlike (caseSpelling a) (caseSpelling b) := by
    rw [List.Nodup, List.pairwise_map]
    exact List.Pairwise.iff_of_mem fun ha hb =>
      not_congr (caseName_eq_iff (oneofs _ ha) (oneofs _ hb))
  have apart : (∀ a ∈ TypeExpr.objectTypeName :: m.typeNames, ∀ b ∈ m.oneofs.map caseName, a ≠ b) ↔
      ∀ o ∈ m.oneofs, caseName o ∉ m.typeNames := by
    constructor
    · intro h o ho named
      exact h _ (List.mem_cons_of_mem _ named) _ (List.mem_map_of_mem ho) rfl
    · intro h a ha b hb
      obtain ⟨o, ho, rfl⟩ := List.mem_map.1 hb
      rcases List.mem_cons.1 ha with rfl | ha
      · exact (caseName_ne_objectTypeName o).symm
      · rintro rfl
        exact h o ho ha
  rw [List.nodup_append, List.nodup_cons, cases, apart, and_iff_left types,
    and_comm (b := ∀ o ∈ _, _)]

/-- Take a message whose text can be given, whose nested types have distinct names and whose oneofs
have names in ASCII. It is a map entry and there is no text, or the text is that of its class and
its namespace. This declares the object type, the nested types and the cases of the oneofs by their
names, and these are distinct just if none of them clash as said. -/
theorem Message.namespace_distinct {s : Scope} {m : Message} {depth : Nat} {text : String}
    (h : m.text s depth = .ok text) (types : m.typeNames.Nodup)
    (oneofs : ∀ o ∈ m.oneofs, IsAscii o) :
    (m.isMapEntry ∧ text = "") ∨ ∃ exposed inner, m.WrittenAs s exposed inner depth text ∧
      (m.namespaceBody exposed inner).filterMap Declaration.introduces? =
        TypeExpr.objectTypeName :: m.typeNames ++ m.oneofs.map caseName ∧
      (((m.namespaceBody exposed inner).filterMap Declaration.introduces?).Nodup ↔
        TypeExpr.objectTypeName ∉ m.typeNames ∧ (∀ o ∈ m.oneofs, caseName o ∉ m.typeNames) ∧
          m.oneofs.Pairwise fun a b => ¬ ReadAlike (caseSpelling a) (caseSpelling b)) := by
  rcases Message.text_eq_ok.1 h with empty | ⟨-, exposed, inner, written⟩
  · exact .inl empty
  have names := m.introduced_namespaceBody exposed written.nests
  refine .inr ⟨exposed, inner, written, names, ?_⟩
  rw [names, Message.distinct_iff types oneofs]

end Proto

namespace Sample

open Proto

/-- A field that belongs to a oneof. -/
def choice (name : String) (number : Int32) (oneof : Nat) : Field :=
  { Field.plain name number (.scalar .string) with oneofIndex := some oneof }

def emptyMessage (name : String) : Message :=
  { name, isMapEntry := false, fields := [], oneofs := [], nested := [], enums := [] }

/-- A message with a nested message, an enum and oneofs that clash with what is made for it. -/
def shelf : Message :=
  { name := "Shelf", isMapEntry := false,
    fields := [choice "book" 1 0, choice "left" 2 1, choice "right" 3 2],
    oneofs := ["kind", "free_end", "freeEnd"],
    nested := [emptyMessage "AsObject"],
    enums := [{ name := "KindCase", values := [⟨"UPRIGHT", 0⟩] }] }

def shelfFile : File :=
  { name := "shelf.proto", package := none, dialect := .proto3, dependencies := [],
    messages := [shelf], enums := [], extensions := [] }

def shelfScope : Scope := ⟨.ofFiles [shelfFile], shelfFile⟩

end Sample

open TypeScript Sample in
theorem sample_namespace_distinct : ∃ text exposed inner,
    shelf.text shelfScope 0 = .ok text ∧ shelf.typeNames.Nodup ∧
      (∀ o ∈ shelf.oneofs, IsAscii o) ∧ shelf.WrittenAs shelfScope exposed inner 0 text ∧
      (shelf.namespaceBody exposed inner).filterMap Declaration.introduces? =
        ["AsObject", "AsObject", "KindCase", "KindCase", "FreeEndCase", "FreeEndCase"] := by
  obtain ⟨text, h⟩ : ∃ text, shelf.text shelfScope 0 = .ok text := ⟨_, rfl⟩
  have types : shelf.typeNames.Nodup := by decide
  have oneofs : ∀ o ∈ shelf.oneofs, IsAscii o := by decide +kernel
  rcases Proto.Message.namespace_distinct h types oneofs with
    ⟨hm, -⟩ | ⟨exposed, inner, written, names, -⟩
  · cases hm
  · exact ⟨text, exposed, inner, h, types, oneofs, written, names.trans (by decide +kernel)⟩

open TypeScript Sample in
/-- Distinct names of fields, oneofs and nested types are not enough. The nested message is named
like the object type, the enum like the cases of a oneof, and two oneofs have the same words. -/
theorem namespace_clash : ∃ text exposed inner,
    shelf.text shelfScope 0 = .ok text ∧ shelf.WrittenAs shelfScope exposed inner 0 text ∧
      (shelf.fields.map (·.name) ++ shelf.oneofs ++ shelf.nested.map (·.name) ++
        shelf.enums.map (·.name)).Nodup ∧
      (shelf.namespaceBody exposed inner).filterMap Declaration.introduces? =
        ["AsObject", "AsObject", "KindCase", "KindCase", "FreeEndCase", "FreeEndCase"] ∧
      ¬ ((shelf.namespaceBody exposed inner).filterMap Declaration.introduces?).Nodup := by
  obtain ⟨text, h⟩ : ∃ text, shelf.text shelfScope 0 = .ok text := ⟨_, rfl⟩
  rcases Proto.Message.text_eq_ok.1 h with ⟨hm, -⟩ | ⟨-, exposed, inner, written⟩
  · cases hm
  refine ⟨text, exposed, inner, h, written, by decide, ?_⟩
  rw [Proto.Message.introduced_namespaceBody exposed written.nests]
  exact ⟨by decide +kernel, by decide +kernel⟩

end ProtoTypings
