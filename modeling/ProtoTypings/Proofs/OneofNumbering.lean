import Mathlib.Algebra.Group.Nat.Defs
import Mathlib.Data.List.Nodup
import ProtoTypings.Proofs.EveryDepth

/-!
# Proofs.OneofNumbering

Which oneofs of a message descriptor are kept, under which numbers, and where its fields end up.

* `Descriptor.Message.realOneofIndices` — the oneofs that are kept.
* `realIndex_eq_some_iff` — the new number of a oneof is its place among those that are kept.
* `oneofs_renumbered` — oneofs keep their names, their order and their members, and fields outside
  of them belong to none.
-/

namespace ProtoTypings

namespace Descriptor

/-- Whether a field points at the oneof at an index. -/
def Field.PointsAt (f : Field) (index : Nat) : Prop :=
  f.oneofIndex.map (·.toInt) = some (index : Int)

instance (f : Field) (index : Nat) : Decidable (f.PointsAt index) :=
  inferInstanceAs (Decidable (_ = _))

/-- The indices of the oneofs that no `proto3_optional` field points at. -/
def Message.realOneofIndices (d : Message) : List Nat :=
  (List.range d.oneofs.length).filter fun i =>
    ∀ f ∈ d.fields, f.proto3Optional = some true → ¬ f.PointsAt i

end Descriptor

namespace Proto

/-! ## New numbers -/

/-- The indices below `length` at which `synthetic` does not hold. -/
def realIndices (length : Nat) (synthetic : Nat → Bool) : List Nat :=
  (List.range length).filter (!synthetic ·)

section Numbers

variable {length : Nat} {synthetic : Nat → Bool}

theorem nodup_realIndices : (realIndices length synthetic).Nodup :=
  List.nodup_range.filter _

theorem mem_realIndices {i : Nat} :
    i ∈ realIndices length synthetic ↔ i < length ∧ synthetic i = false := by
  simp [realIndices]

theorem realIndices_append (synthetic : Nat → Bool) {i : Nat} (h : i < length) :
    ∃ after, realIndices length synthetic =
      realIndices i synthetic ++ (if synthetic i then [] else [i]) ++ after := by
  obtain ⟨rest, rfl⟩ := Nat.exists_eq_add_of_le (Nat.succ_le_of_lt h)
  refine ⟨((List.range rest).map (i + 1 + ·)).filter (!synthetic ·), ?_⟩
  rw [realIndices, List.range_add, List.filter_append, List.range_succ, List.filter_append]
  cases hi : synthetic i <;> simp [realIndices, hi]

theorem getElem?_realIndices {i : Nat} (h : i < length) (real : synthetic i = false) :
    (realIndices length synthetic)[(realIndices i synthetic).length]? = some i := by
  obtain ⟨after, e⟩ := realIndices_append synthetic h
  rw [e, real]
  simp

theorem realIndex_of_lt {i : Nat} (h : i < length) :
    realIndex ((List.range length).map synthetic) i =
      if synthetic i then none else some (realIndices i synthetic).length := by
  have at_ : ((List.range length).map synthetic)[i]? = some (synthetic i) := by simp [h]
  have before : ((List.range length).map synthetic).take i = (List.range i).map synthetic := by
    rw [← List.map_take, List.take_range, Nat.min_eq_left (Nat.le_of_lt h)]
  rw [realIndex, at_, before]
  cases hi : synthetic i with
  | true => rfl
  | false => simp [realIndices, List.count_eq_length_filter, List.filter_map, Function.comp_def]

/-- The new number of a oneof is its place among those that are not synthetic. -/
theorem realIndex_eq_some_iff {i j : Nat} :
    realIndex ((List.range length).map synthetic) i = some j ↔
      (realIndices length synthetic)[j]? = some i := by
  constructor
  · intro h
    by_cases hi : i < length
    · rw [realIndex_of_lt hi] at h
      split at h
      · cases h
      · rename_i real
        cases h
        exact getElem?_realIndices hi (by simpa using real)
    · have beyond : ((List.range length).map synthetic)[i]? = none := by simpa using hi
      rw [realIndex, beyond] at h
      cases h
  · intro h
    obtain ⟨hi, real⟩ := mem_realIndices.1 (List.mem_of_getElem? h)
    have hj : j < (realIndices length synthetic).length := (List.getElem?_eq_some_iff.1 h).1
    have same : j = (realIndices i synthetic).length := by
      rw [← List.getElem?_inj hj nodup_realIndices, h, getElem?_realIndices hi real]
    rw [realIndex_of_lt hi, real, same]
    rfl

theorem map_getElem?_range {α : Type} (xs : List α) :
    (List.range xs.length).map (xs[·]?) = xs.map some := by
  apply List.ext_getElem
  · simp
  · intro i h h'
    simp

/-- What is left of a list when the places at which `synthetic` holds are dropped. -/
theorem map_some_dropped {α : Type} (synthetic : Nat → Bool) (xs : List α) :
    (((xs.zip ((List.range xs.length).map synthetic)).filter fun p => !p.2).map Prod.fst).map some =
      (realIndices xs.length synthetic).map (xs[·]?) := by
  have marked : (xs.map some).zip ((List.range xs.length).map synthetic) =
      (List.range xs.length).map fun i => (xs[i]?, synthetic i) := by
    rw [← map_getElem?_range, List.zip_map']
  rw [List.zip_map_left] at marked
  have kept := congrArg (fun l => (l.filter fun p => !p.2).map Prod.fst) marked
  simpa [List.filter_map, Function.comp_def, realIndices] using kept

end Numbers

/-! ## The oneofs of a message -/

theorem pointsAt_iff {f : Descriptor.Field} {i : Nat} :
    f.PointsAt i ↔ ∃ n, f.oneofIndex = some n ∧ n.toInt = i :=
  Option.map_eq_some_iff

theorem pointsAt_iff_eq_ofNat {f : Descriptor.Field} {i : Nat} (small : i < 2 ^ 31) :
    f.PointsAt i ↔ f.oneofIndex = some (Int32.ofNat i) := by
  have value : (Int32.ofNat i).toInt = i := Int32.toInt_ofNat_of_lt small
  rw [pointsAt_iff]
  constructor
  · rintro ⟨n, hn, h⟩
    rw [hn, Int32.toInt_inj.1 (h.trans value.symm)]
  · intro h
    exact ⟨_, h, value⟩

theorem isSynthetic_iff {fields : List Descriptor.Field} {i : Nat} (small : i < 2 ^ 31) :
    isSynthetic fields i ↔ ∃ f ∈ fields, f.proto3Optional = some true ∧ f.PointsAt i := by
  rw [isSynthetic, List.any_eq_true]
  refine exists_congr fun f => and_congr_right fun _ => ?_
  rw [Bool.and_eq_true, beq_iff_eq, pointsAt_iff_eq_ofNat small]
  cases f.proto3Optional <;> simp

/-- The oneofs that are kept are those that no `proto3_optional` field points at, as long as there
are numbers for them all. -/
theorem realOneofIndices_eq {d : Descriptor.Message} (few : d.oneofs.length < 2 ^ 31) :
    d.realOneofIndices = realIndices d.oneofs.length (isSynthetic d.fields) := by
  refine List.filter_congr fun i hi => ?_
  have small : i < 2 ^ 31 := Nat.lt_trans (List.mem_range.1 hi) few
  rw [Bool.eq_iff_iff, Bool.not_eq_true', decide_eq_true_iff, ← Bool.not_eq_true,
    isSynthetic_iff small]
  simp only [not_exists, not_and]

/-- The names of the oneofs that are kept, as the descriptor has them. -/
theorem map_name_realOneofs (d : Descriptor.Message) :
    (realOneofs d).map (·.name) =
      (realIndices d.oneofs.length (isSynthetic d.fields)).map fun i =>
        d.oneofs[i]?.bind (·.name) := by
  have kept := congrArg (List.map fun o => o.bind Descriptor.Oneof.name)
    (map_some_dropped (isSynthetic d.fields) d.oneofs)
  simpa [realOneofs, syntheticOneofs, Function.comp_def] using kept

/-- A field ends in the oneof whose old index is the one that it points at, if that is kept. -/
theorem Field.oneofIndex_renumbered {scope : String} {d : Descriptor.Message}
    {g : Descriptor.Field} {f : Field} (h : Field.ofDescriptor scope g = .ok f) {j : Nat} :
    (f.renumbered (syntheticOneofs d)).oneofIndex = some j ↔
      ∃ i, (realIndices d.oneofs.length (isSynthetic d.fields))[j]? = some i ∧ g.PointsAt i := by
  obtain ⟨name, label, type, -, -, -, rfl⟩ := Field.ofDescriptor_eq_ok.1 h
  simp only [Field.renumbered, syntheticOneofs, Option.bind_eq_some_iff, realIndex_eq_some_iff,
    pointsAt_iff, Int.mem_toNat?]
  constructor
  · rintro ⟨i, ⟨n, hn, e⟩, h⟩
    exact ⟨i, h, n, hn, e⟩
  · rintro ⟨i, h, n, hn, e⟩
    exact ⟨i, ⟨n, hn, e⟩, h⟩

/-! ## Renumbering -/

/-- What a field becomes apart from its oneof. -/
def Field.IsImage (g : Descriptor.Field) (f : Field) : Prop :=
  ∃ scope image, Field.ofDescriptor scope g = .ok image ∧
    f = { image with oneofIndex := f.oneofIndex }

/-- What becomes of the oneofs of a message and of the fields that point at them. -/
structure OneofsRenumbered (d : Descriptor.Message) (m : Message) : Prop where
  /-- The oneofs are those that no `proto3_optional` field points at, in order. -/
  names : m.oneofs.map some = d.realOneofIndices.map fun i => d.oneofs[i]?.bind (·.name)
  /-- The fields are those of the descriptor, in order. -/
  images : List.Forall₂ Field.IsImage d.fields m.fields
  /-- The members of a oneof are the fields that pointed at it, in order. -/
  members : ∀ j i, d.realOneofIndices[j]? = some i →
    m.oneofMembers j = ((d.fields.zip m.fields).filter fun p => p.1.PointsAt i).map Prod.snd
  /-- A field that pointed at none of them belongs to none. -/
  outside : ∀ g f, (g, f) ∈ d.fields.zip m.fields →
    (∀ i ∈ d.realOneofIndices, ¬ g.PointsAt i) → f.oneofIndex = none
  inRange : ∀ f ∈ m.fields, ∀ j, f.oneofIndex = some j → j < m.oneofs.length
  /-- A field that belongs to a oneof pointed at it before, under the same name. -/
  kept : ∀ g f, (g, f) ∈ d.fields.zip m.fields → ∀ j, f.oneofIndex = some j →
    ∃ i, d.realOneofIndices[j]? = some i ∧ g.PointsAt i ∧
      m.oneofs[j]? = d.oneofs[i]?.bind (·.name)

/-- A field and what it becomes among oneofs that are kept under the given indices. -/
def Field.MovesTo (kept : List Nat) (g : Descriptor.Field) (f : Field) : Prop :=
  Field.IsImage g f ∧ ∀ j, f.oneofIndex = some j ↔ ∃ i, kept[j]? = some i ∧ g.PointsAt i

theorem Message.forall₂_movesTo {scope : String} {d : Descriptor.Message} {m : Message}
    (h : Message.ofDescriptor scope d = .ok m) :
    List.Forall₂ (Field.MovesTo (realIndices d.oneofs.length (isSynthetic d.fields)))
      d.fields m.fields := by
  obtain ⟨name, fields, oneofs, nested, enums, -, hf, -, -, -, rfl⟩ :=
    Message.ofDescriptor_eq_ok.1 h
  rw [List.forall₂_map_right_iff]
  refine (each_eq_ok_iff_forall₂.1 hf).imp fun g f hg => ⟨⟨_, f, hg, rfl⟩, fun j => ?_⟩
  exact Field.oneofIndex_renumbered hg

theorem Message.map_some_oneofs {scope : String} {d : Descriptor.Message} {m : Message}
    (h : Message.ofDescriptor scope d = .ok m) :
    m.oneofs.map some =
      (realIndices d.oneofs.length (isSynthetic d.fields)).map fun i =>
        d.oneofs[i]?.bind (·.name) := by
  obtain ⟨name, fields, oneofs, nested, enums, -, -, ho, -, -, rfl⟩ :=
    Message.ofDescriptor_eq_ok.1 h
  rw [← map_name_realOneofs]
  exact (map_of_each ho fun o _ n hn => required_eq_ok.1 hn).symm

theorem filter_of_forall₂ {α β : Type} {r : α → β → Prop} {p : α → Bool} {q : β → Bool}
    {as : List α} {bs : List β} (h : List.Forall₂ r as bs) (same : ∀ a b, r a b → q b = p a) :
    bs.filter q = ((as.zip bs).filter fun x => p x.1).map Prod.snd := by
  induction h with
  | nil => rfl
  | cons hr _ ih =>
    rw [List.zip_cons_cons, List.filter_cons, List.filter_cons, same _ _ hr, ih]
    split <;> rfl

theorem exists_mem_zip_of_forall₂ {α β : Type} {r : α → β → Prop} {as : List α} {bs : List β}
    (h : List.Forall₂ r as bs) {b : β} (hb : b ∈ bs) : ∃ a, (a, b) ∈ as.zip bs := by
  induction h with
  | nil => cases hb
  | cons _ _ ih =>
    rcases List.mem_cons.1 hb with rfl | hb
    · exact ⟨_, .head _⟩
    · obtain ⟨a, ha⟩ := ih hb
      exact ⟨a, .tail _ ha⟩

theorem Message.oneofsRenumbered {scope : String} {d : Descriptor.Message} {m : Message}
    (h : Message.ofDescriptor scope d = .ok m) (few : d.oneofs.length < 2 ^ 31) :
    OneofsRenumbered d m := by
  have names := Message.map_some_oneofs h
  have moves := Message.forall₂_movesTo h
  rw [← realOneofIndices_eq few] at names moves
  have moved : ∀ {g f}, (g, f) ∈ d.fields.zip m.fields → Field.MovesTo d.realOneofIndices g f :=
    (List.forall₂_iff_zip.1 moves).2
  -- The oneof of a number is the one that was kept there, under its name.
  have named : ∀ {i j : Nat}, d.realOneofIndices[j]? = some i →
      ∃ name, m.oneofs[j]? = some name ∧ d.oneofs[i]?.bind (·.name) = some name := by
    intro i j hj
    have same := congrArg (·[j]?) names
    simp only [List.getElem?_map, hj, Option.map_some] at same
    obtain ⟨name, hn, e⟩ := Option.map_eq_some_iff.1 same
    exact ⟨name, hn, e.symm⟩
  refine ⟨names, moves.imp fun g f hm => hm.1, fun j i hj => ?_, fun g f hm hout => ?_,
    fun f hf j hj => ?_, fun g f hm j hj => ?_⟩
  · rw [Message.oneofMembers]
    refine filter_of_forall₂ (p := fun g => g.PointsAt i) moves fun g f hm => ?_
    rw [Bool.eq_iff_iff, beq_iff_eq, decide_eq_true_iff, hm.2 j, hj]
    simp
  · cases hj : f.oneofIndex with
    | none => rfl
    | some j =>
      obtain ⟨i, hi, points⟩ := ((moved hm).2 j).1 hj
      exact absurd points (hout i (List.mem_of_getElem? hi))
  · obtain ⟨g, hm⟩ := exists_mem_zip_of_forall₂ moves hf
    obtain ⟨i, hi, -⟩ := ((moved hm).2 j).1 hj
    obtain ⟨name, hn, -⟩ := named hi
    exact (List.getElem?_eq_some_iff.1 hn).1
  · obtain ⟨i, hi, points⟩ := ((moved hm).2 j).1 hj
    obtain ⟨name, hn, e⟩ := named hi
    exact ⟨i, hi, points, hn.trans e.symm⟩

/-- In every message of a definition, at every depth, the oneofs are those of its descriptor that no
`proto3_optional` field points at, in their order and under their names, each with the fields that
pointed at it. All other fields belong to no oneof. There must be numbers for all oneofs of the
descriptor. -/
theorem oneofs_renumbered {scope : String} {d : Descriptor.Message} {m : Message}
    (h : Message.ofDescriptor scope d = .ok m) :
    List.Forall₂ (fun d m => d.oneofs.length < 2 ^ 31 → OneofsRenumbered d m)
      d.everyDepth m.everyDepth := by
  refine (Message.forall₂_everyDepth h).imp fun d m made few => ?_
  obtain ⟨scope, h⟩ := made
  exact Message.oneofsRenumbered h few

end Proto

namespace Sample

def choiceDescriptor (name : String) (number : Int32) (oneof : Option Int32) (optional : Bool) :
    Descriptor.Field :=
  { name := some name, number := some number, label := none, type := some 5, typeName := none,
    oneofIndex := oneof, proto3Optional := some optional }

/-- A message whose second and fourth oneofs are kept. One field points at no oneof there is. -/
def pollDescriptor : Descriptor.Message :=
  { name := some "Poll",
    fields := [
      choiceDescriptor "why" 1 (some 3) false, choiceDescriptor "age" 2 (some 0) true,
      choiceDescriptor "yes" 3 (some 1) false, choiceDescriptor "lost" 4 (some (-1)) false,
      choiceDescriptor "nick" 5 (some 2) true, choiceDescriptor "no" 6 (some 1) false],
    nested := [], enums := [],
    oneofs := [⟨none⟩, ⟨some "answer"⟩, ⟨some "_nick"⟩, ⟨some "reason"⟩], options := none }

/-- A message with `pollDescriptor` nested in it. -/
def ballotDescriptor : Descriptor.Message :=
  { name := some "Ballot", fields := [], nested := [pollDescriptor], enums := [], oneofs := [],
    options := none }

end Sample

open Proto Sample in
theorem sample_oneofs_renumbered : ∃ ballot poll,
    Message.ofDescriptor "poll.proto" ballotDescriptor = .ok ballot ∧ ballot.nested = [poll] ∧
      poll.oneofs = ["answer", "reason"] ∧
      (poll.oneofMembers 0).map (·.name) = ["yes", "no"] ∧
      OneofsRenumbered pollDescriptor poll := by
  obtain ⟨ballot, h⟩ : ∃ m, Message.ofDescriptor "poll.proto" ballotDescriptor = .ok m := ⟨_, rfl⟩
  have renumbered := oneofs_renumbered h
  cases h
  obtain ⟨-, rest⟩ := List.forall₂_cons.1 renumbered
  obtain ⟨poll, -⟩ := List.forall₂_cons.1 rest
  exact ⟨_, _, rfl, rfl, by decide, by decide, poll (by decide)⟩

end ProtoTypings
