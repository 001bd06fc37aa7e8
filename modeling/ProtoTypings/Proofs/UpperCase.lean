import ProtoTypings.Proofs.CaseImage

/-!
# Proofs.UpperCase

Upper case settles: a character of upper case is its own upper case. Beyond ASCII this is a matter
of the tables, which map no code point to one that they map in turn. So two texts agree in upper
case just if they become the same by putting some of their characters in upper case.

* `bits` — sets of code points as numbers, by which two tables are seen to be disjoint at once.
* `upperSources`, `upperImages` — the code points that are mapped, and those that they are mapped
  to.
* `upperChar_of_mem_upperChar` — the upper case of what is in upper case.
* `SameButCase` — texts that are the same but for case.
* `uppercased_eq_iff` — what they have to do with upper case.
-/

namespace ProtoTypings
namespace Unicode

/-! ## Sets of code points -/

/-- A set of numbers as the bits of one. -/
def bits (ns : List Nat) : Nat := ns.foldr (fun n set => 1 <<< n ||| set) 0

theorem testBit_bits {ns : List Nat} {n : Nat} : (bits ns).testBit n ↔ n ∈ ns := by
  induction ns with
  | nil => simp [bits]
  | cons m ns ih =>
    rw [bits, List.foldr_cons, ← bits, Nat.testBit_or, Nat.one_shiftLeft, Nat.testBit_two_pow,
      Bool.or_eq_true, decide_eq_true_iff, ih, List.mem_cons, eq_comm]

theorem not_mem_of_bits {ns ms : List Nat} (h : bits ns &&& bits ms = 0) {n : Nat} (hn : n ∈ ns) :
    n ∉ ms := by
  intro hm
  have common := Nat.testBit_and (bits ns) (bits ms) n
  rw [h, testBit_bits.2 hn, testBit_bits.2 hm] at common
  simp at common

/-- The code points of a range. -/
def CodeRange.codes (r : CodeRange) : List Nat :=
  List.range' r.first ((r.last - r.first) / r.step + 1) r.step

theorem CodeRange.mem_codes {r : CodeRange} {n : Nat} (h : r.contains n) : n ∈ r.codes := by
  simp only [contains, Bool.and_eq_true, decide_eq_true_eq, beq_iff_eq] at h
  obtain ⟨⟨first_le, le_last⟩, each⟩ := h
  refine List.mem_range'.2 ⟨(n - r.first) / r.step, ?_, ?_⟩
  · have := Nat.div_le_div_right (c := r.step) (Nat.sub_le_sub_right le_last r.first)
    omega
  · have := Nat.div_add_mod (n - r.first) r.step
    omega

/-! ## The tables of upper case -/

/-- The code points beyond ASCII that upper case changes. -/
def upperSources : List Nat := upperExpansions.map (·.1) ++ upperRuns.flatMap (·.range.codes)

/-- The code points that it changes them to. -/
def upperImages : List Nat :=
  upperExpansions.flatMap (·.2) ++
    upperRuns.flatMap fun r => r.range.codes.map fun n : Nat => (n + r.shift).toNat

theorem upperImages_disjoint : bits upperImages &&& bits upperSources = 0 := by decide +kernel

/-- A code point that is not among those that upper case changes stays. -/
theorem upperChar_of_not_mem {c : Char} (ascii : ¬ c.toNat < 128) (h : c.toNat ∉ upperSources) :
    upperChar c = [c] := by
  rw [upperSources, List.mem_append, not_or] at h
  obtain ⟨expands, maps⟩ := h
  have unexpanded : upperExpansions.lookup c.toNat = none := by
    rw [List.lookup_eq_none_iff]
    intro e he
    rw [bne_iff_ne]
    rintro same
    exact expands (List.mem_map.2 ⟨e, he, same.symm⟩)
  have unmapped : upperRuns.find? (fun r => r.range.contains c.toNat) = none := by
    rw [List.find?_eq_none]
    intro r hr contained
    exact maps (List.mem_flatMap.2 ⟨r, hr, CodeRange.mem_codes contained⟩)
  rw [upperChar, if_neg ascii, mapCase, unexpanded, unmapped]

/-- A number that gives a character beyond ASCII is its code point. -/
theorem toNat_ofNat_of_le {n : Nat} (h : ¬ (Char.ofNat n).toNat < 128) :
    (Char.ofNat n).toNat = n := by
  by_cases valid : n.isValidChar
  · exact toNat_ofNat valid
  · unfold Char.ofNat at h
    rw [dif_neg valid] at h
    exact absurd (by decide) h

/-- What upper case changes a character to is among the images, unless it is in ASCII. -/
theorem mem_upperImages {c d : Char} (hc : ¬ c.toNat < 128) (h : d ∈ upperChar c)
    (hd : ¬ d.toNat < 128) : d.toNat ∈ upperImages ∨ upperChar d = [d] := by
  have mapped : upperChar c = mapCase upperExpansions upperRuns c := by rw [upperChar, if_neg hc]
  rw [mapped, mapCase] at h
  split at h
  · rename_i codes found
    obtain ⟨before, after, e, -⟩ := List.lookup_eq_some_iff.1 found
    obtain ⟨n, hn, rfl⟩ := List.mem_map.1 h
    have expansion : (c.toNat, codes) ∈ upperExpansions := by simp [e]
    rw [toNat_ofNat_of_le hd]
    exact .inl (List.mem_append_left _ (List.mem_flatMap.2 ⟨_, expansion, hn⟩))
  · rename_i unexpanded
    split at h
    · rename_i r found
      rw [List.mem_singleton] at h
      subst h
      have contained : c.toNat ∈ r.range.codes :=
        CodeRange.mem_codes (by simpa using List.find?_some found)
      rw [displace] at hd ⊢
      rw [toNat_ofNat_of_le hd]
      exact .inl (List.mem_append_right _ (List.mem_flatMap.2
        ⟨r, List.mem_of_find?_eq_some found, List.mem_map_of_mem contained⟩))
    · rename_i unmapped
      rw [List.mem_singleton] at h
      subst h
      rw [mapped, mapCase, unexpanded, unmapped]
      exact .inr rfl

/-- A character of upper case is its own upper case. -/
theorem upperChar_of_mem_upperChar {c d : Char} (h : d ∈ upperChar c) : upperChar d = [d] := by
  by_cases hc : c.toNat < 128
  · rw [upperChar_of_ascii hc, List.mem_singleton] at h
    subst h
    exact forall_ascii (P := fun c => upperChar c.toUpper = [c.toUpper]) (by decide +kernel) c hc
  by_cases hd : d.toNat < 128
  · rcases mem_upperChar_ascii h hd with ⟨low, -⟩ | capital
    · exact absurd low hc
    · rw [upperChar_of_ascii hd]
      exact forall_ascii (P := fun d => d.isUpper → [d.toUpper] = [d]) (by decide +kernel) d hd
        capital
  · rcases mem_upperImages hc h hd with image | settled
    · exact upperChar_of_not_mem hd (not_mem_of_bits upperImages_disjoint image)
    · exact settled

/-! ## Texts -/

theorem uppercased_append (s t : List Char) :
    uppercased (s ++ t) = uppercased s ++ uppercased t := List.flatMap_append

theorem uppercased_upperChar (c : Char) : uppercased (upperChar c) = upperChar c := by
  have settled : ∀ ds : List Char, (∀ d ∈ ds, d ∈ upperChar c) → uppercased ds = ds := by
    intro ds hds
    induction ds with
    | nil => rfl
    | cons d ds ih =>
      obtain ⟨hd, hds⟩ := List.forall_mem_cons.1 hds
      rw [uppercased, List.flatMap_cons, upperChar_of_mem_upperChar hd, ← uppercased, ih hds]
      rfl
  exact settled _ fun _ hd => hd

/-- `t` is `s` with some of its characters in upper case. -/
inductive Raises : (s t : List Char) → Prop where
  | nil : Raises [] []
  | keep (c : Char) {s t : List Char} : Raises s t → Raises (c :: s) (c :: t)
  | raise (c : Char) {s t : List Char} : Raises s t → Raises (c :: s) (upperChar c ++ t)

theorem Raises.uppercased (s : List Char) : Raises s (uppercased s) := by
  induction s with
  | nil => exact .nil
  | cons c s ih => exact .raise c ih

theorem Raises.uppercased_eq {s t : List Char} (h : Raises s t) :
    Unicode.uppercased t = Unicode.uppercased s := by
  induction h with
  | nil => rfl
  | keep c _ ih => simp only [Unicode.uppercased, List.flatMap_cons] at ih ⊢; rw [ih]
  | raise c _ ih =>
    rw [uppercased_append, uppercased_upperChar, ih]
    rfl

/-- Texts that become the same by putting some of their characters in upper case. -/
def SameButCase (s t : List Char) : Prop := ∃ u, Raises s u ∧ Raises t u

theorem uppercased_eq_iff {s t : List Char} : uppercased s = uppercased t ↔ SameButCase s t := by
  constructor
  · intro same
    exact ⟨uppercased s, .uppercased s, same ▸ .uppercased t⟩
  · rintro ⟨u, hs, ht⟩
    rw [← hs.uppercased_eq, ht.uppercased_eq]

end Unicode
end ProtoTypings
