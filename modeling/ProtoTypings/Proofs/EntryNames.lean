import Mathlib.Data.List.Forall2
import ProtoTypings.Proofs.UpperCase
import ProtoTypings.Surface.Enumeration

/-!
# Proofs.EntryNames

Which entries of an enumeration have the same name. The entries of an enum are named after its
values. Those of a oneof are named after its members, and the first as if there were one more, whose
name is that of the oneof and `_not_set`. Names are put in upper case, so what differs in case only
becomes one.

* `constantName_eq_iff` — names that become one entry's name.
* `NamedUpToCase` — the entries of an enumeration and the names that they come from.
* `entries_named_upToCase` — the enumerations of enums and of oneofs.
-/

namespace ProtoTypings
namespace Proto

open TypeScript Unicode

theorem constantName_eq_iff {a b : String} :
    constantName a = constantName b ↔ SameButCase a.toList b.toList := by
  rw [constantName, constantName, String.ofList_inj, uppercased_eq_iff]

theorem constantName_append (a b : String) :
    constantName (a ++ b) = constantName a ++ constantName b := by
  rw [constantName, String.toList_append, uppercased_append, String.ofList_append]
  rfl

/-- The name that the first entry of a oneof comes from. -/
def notSetSource (oneof : String) : String := oneof ++ "_not_set"

theorem name_notSetEntry (oneof : String) :
    (notSetEntry oneof).name = constantName (notSetSource oneof) := by
  rw [notSetSource, constantName_append]
  rfl

/-- Entries that come from names one by one. Two have the same name just if the names that they come
from are the same but for case. So all have names of their own just if no two of the given names are
the same but for case. -/
structure NamedUpToCase (sources : List String) (entries : List EnumEntry) : Prop where
  length : entries.length = sources.length
  shared : ∀ p ∈ sources.zip entries, ∀ q ∈ sources.zip entries,
    p.2.name = q.2.name ↔ SameButCase p.1.toList q.1.toList
  distinct : (entries.map (·.name)).Nodup ↔
    sources.Pairwise fun a b => ¬ SameButCase a.toList b.toList

theorem namedUpToCase_of_names {sources : List String} {entries : List EnumEntry}
    (names : entries.map (·.name) = sources.map constantName) : NamedUpToCase sources entries where
  length := by
    have := congrArg List.length names
    simpa using this
  shared := by
    have own : ∀ p ∈ sources.zip entries, p.2.name = constantName p.1 := by
      have paired : List.Forall₂ (· = ·) (entries.map (·.name)) (sources.map constantName) := by
        rw [names]
        exact List.forall₂_refl _
      rw [List.forall₂_map_left_iff, List.forall₂_map_right_iff] at paired
      exact fun p hp => (List.forall₂_iff_zip.1 paired.flip).2 hp
    intro p hp q hq
    rw [own p hp, own q hq, constantName_eq_iff]
  distinct := by
    rw [names, List.Nodup, List.pairwise_map]
    simp only [ne_eq, constantName_eq_iff]

/-- The entries of an enum have the same name just if its values are named the same but for case. So
have the entries of a oneof and its members, where the name of the oneof with `_not_set` stands for
the first entry. -/
theorem entries_named_upToCase :
    (∀ e : Enum, NamedUpToCase (e.values.map (·.name)) e.declaration.entries) ∧
    ∀ (m : Message) (oneof : String) (index : Nat),
      NamedUpToCase (notSetSource oneof :: (m.oneofMembers index).map (·.name))
        (m.caseDeclaration oneof index).entries := by
  constructor
  · intro e
    refine namedUpToCase_of_names ?_
    rw [Enum.declaration, List.map_map, List.map_map]
    rfl
  · intro m oneof index
    refine namedUpToCase_of_names ?_
    rw [Message.caseDeclaration, List.map_cons, List.map_cons, List.map_map, List.map_map,
      name_notSetEntry]
    rfl

end Proto

namespace Sample

open Proto

/-- An enum two of whose values differ in case only. -/
def switch : Enum := { name := "Switch", values := [⟨"on", 0⟩, ⟨"ON", 1⟩] }

/-- A message with a oneof one of whose members is named like the case that none is set. -/
def ticket : Message :=
  { name := "Ticket", isMapEntry := false,
    fields := [{ Field.plain "seat_not_set" 1 (.scalar .bool) with oneofIndex := some 0 },
      { Field.plain "number" 2 (.scalar .int32) with oneofIndex := some 0 }],
    oneofs := ["seat"], nested := [], enums := [] }

end Sample

open Proto Sample in
theorem entries_clash :
    ((switch.values.map (·.name)).Nodup ∧ ¬ (switch.declaration.entries.map (·.name)).Nodup) ∧
      (ticket.fields.map (·.name)).Nodup ∧
      ∃ e ∈ ticket.caseDeclarations, ¬ (e.entries.map (·.name)).Nodup := by
  decide +kernel

end ProtoTypings
