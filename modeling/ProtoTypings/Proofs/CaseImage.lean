import ProtoTypings.Proofs.Splitting
import ProtoTypings.Surface.Name

/-!
# Proofs.CaseImage

Which ASCII characters a change of case can give. An ASCII character keeps to ASCII, and beyond
ASCII the mappings lead to ASCII only at letters of the case that is asked for. So white space and
punctuation of a changed text come from the text itself, and upper case has no small letters.

* `mem_upperChar_ascii`, `mem_lowerChar_ascii` — the ASCII characters among the images of one.
* `mem_of_mem_uppercased` — punctuation in upper case stands in the text.
* `isLower_of_mem_uppercased` — upper case has no small ASCII letter.
* `Casing.isAlphanum_of_mem_lowerCamel`, `Casing.isAlphanum_of_mem_upperCamel` — the ASCII
  characters of a name in camel case are letters and digits.
-/

namespace ProtoTypings
namespace Unicode

/-- A property of all ASCII characters, checked one by one. -/
theorem forall_ascii {P : Char → Prop} (h : ∀ n < 128, P (Char.ofNat n)) (c : Char)
    (hc : c.toNat < 128) : P c := by
  have := h c.toNat hc
  rwa [Char.ofNat_toNat] at this

theorem toNat_ofNat {n : Nat} (h : n.isValidChar) : (Char.ofNat n).toNat = n := by
  unfold Char.ofNat
  rw [dif_pos h]
  rfl

/-! ## Tables -/

/-- Whether a run takes its code points beyond ASCII, or is a single one whose image satisfies
`p`. -/
def CaseRun.clears (p : Char → Bool) (r : CaseRun) : Bool :=
  (r.range.first == r.range.last && p (Char.ofNat (r.range.first + r.shift).toNat)) ||
    (128 ≤ r.range.first + r.shift && r.range.last + r.shift < 0xD800) ||
    (0xE000 ≤ r.range.first + r.shift && r.range.last + r.shift < 0x110000)

theorem CaseRun.displace_of_clears {p : Char → Bool} {r : CaseRun} (h : r.clears p) {c : Char}
    (hc : r.range.contains c.toNat) (hx : (displace c r.shift).toNat < 128) :
    p (displace c r.shift) := by
  simp only [CodeRange.contains, Bool.and_eq_true, decide_eq_true_eq] at hc
  obtain ⟨⟨first_le, le_last⟩, -⟩ := hc
  simp only [CaseRun.clears, Bool.or_eq_true, Bool.and_eq_true, beq_iff_eq, decide_eq_true_eq] at h
  unfold displace at hx ⊢
  rcases h with (⟨single, hp⟩ | ⟨low, high⟩) | ⟨low, high⟩
  · have : c.toNat = r.range.first := by omega
    rwa [this]
  · rw [toNat_ofNat (.inl (by omega))] at hx
    omega
  · rw [toNat_ofNat (.inr (by omega))] at hx
    omega

/-- An ASCII image of a character that is none satisfies `p`, if the tables clear it. -/
theorem mem_mapCase_ascii {p : Char → Bool} {expansions : List (Nat × List Nat)}
    {runs : List CaseRun}
    (he : ∀ e ∈ expansions, ∀ n ∈ e.2, (Char.ofNat n).toNat < 128 → p (Char.ofNat n))
    (hr : ∀ r ∈ runs, r.clears p) {c x : Char} (hc : ¬ c.toNat < 128)
    (h : x ∈ mapCase expansions runs c) (hx : x.toNat < 128) : p x := by
  unfold mapCase at h
  split at h
  · rename_i codes found
    obtain ⟨before, after, rfl, -⟩ := List.lookup_eq_some_iff.1 found
    obtain ⟨n, hn, rfl⟩ := List.mem_map.1 h
    exact he (c.toNat, codes) (by simp) n hn hx
  · split at h
    · rename_i r found
      rw [List.mem_singleton] at h
      subst h
      exact CaseRun.displace_of_clears (hr r (List.mem_of_find?_eq_some found))
        (by simpa using List.find?_some found) hx
    · rw [List.mem_singleton] at h
      subst h
      exact absurd hx hc

/-! ## Characters -/

/-- An ASCII character in the upper case of a character is that of an ASCII character, or a capital
letter. -/
theorem mem_upperChar_ascii {c x : Char} (h : x ∈ upperChar c) (hx : x.toNat < 128) :
    (c.toNat < 128 ∧ x = c.toUpper) ∨ x.isUpper := by
  unfold upperChar at h
  split at h
  · rename_i hc
    exact .inl ⟨hc, by simpa using h⟩
  · rename_i hc
    exact .inr (mem_mapCase_ascii (by decide +kernel) (by decide +kernel) hc h hx)

/-- An ASCII character in the lower case of a character is that of an ASCII character, or a small
letter. -/
theorem mem_lowerChar_ascii {c x : Char} (h : x ∈ lowerChar c) (hx : x.toNat < 128) :
    (c.toNat < 128 ∧ x = c.toLower) ∨ x.isLower := by
  unfold lowerChar at h
  split at h
  · rename_i hc
    exact .inl ⟨hc, by simpa using h⟩
  · rename_i hc
    exact .inr (mem_mapCase_ascii (by decide +kernel) (by decide +kernel) hc h hx)

theorem isAlpha_eq (c : Char) : c.isAlpha = (c.isUpper || c.isLower) := rfl

/-- An ASCII character without case is in the upper case of no character but itself. -/
theorem eq_of_mem_upperChar {c x : Char} (h : x ∈ upperChar c) (hx : x.toNat < 128)
    (caseless : x.isAlpha = false) : x = c := by
  rcases mem_upperChar_ascii h hx with ⟨hc, rfl⟩ | hu
  · exact forall_ascii (P := fun c => c.toUpper.isAlpha = false → c.toUpper = c)
      (by decide +kernel) c hc caseless
  · simp [isAlpha_eq, hu] at caseless

theorem eq_of_mem_lowerChar {c x : Char} (h : x ∈ lowerChar c) (hx : x.toNat < 128)
    (caseless : x.isAlpha = false) : x = c := by
  rcases mem_lowerChar_ascii h hx with ⟨hc, rfl⟩ | hl
  · exact forall_ascii (P := fun c => c.toLower.isAlpha = false → c.toLower = c)
      (by decide +kernel) c hc caseless
  · simp [isAlpha_eq, hl] at caseless

/-! ## Texts -/

theorem mem_of_mem_uppercased {s : List Char} {x : Char} (h : x ∈ uppercased s)
    (hx : x.toNat < 128) (caseless : x.isAlpha = false) : x ∈ s := by
  obtain ⟨c, hc, h⟩ := List.mem_flatMap.1 h
  rwa [eq_of_mem_upperChar h hx caseless]

theorem isLower_of_mem_uppercased {s : List Char} {x : Char} (h : x ∈ uppercased s)
    (hx : x.toNat < 128) : x.isLower = false := by
  obtain ⟨c, -, h⟩ := List.mem_flatMap.1 h
  rcases mem_upperChar_ascii h hx with ⟨hc, rfl⟩ | hu
  · exact forall_ascii (P := fun c => c.toUpper.isLower = false) (by decide +kernel) c hc
  · exact forall_ascii (P := fun x => x.isUpper → x.isLower = false) (by decide +kernel) x hx hu

end Unicode

/-! ## Camel case -/

namespace Casing

theorem mem_of_mem_wordsFrom {before : LetterCase} {word run w : List Char}
    (h : w ∈ wordsFrom before word run) {c : Char} (hc : c ∈ w) : c ∈ word ∨ c ∈ run := by
  fun_induction wordsFrom before word run with
  | case1 => cases h
  | case2 before word a =>
    rw [List.mem_singleton] at h
    subst h
    simpa [or_comm] using hc
  | case3 before word a next rest _ ih =>
    rcases List.mem_cons.1 h with rfl | h
    · rcases List.mem_cons.1 (List.mem_reverse.1 hc) with rfl | hc
      · simp
      · exact .inl hc
    · rcases ih h with h | h
      · cases h
      · exact .inr (List.mem_cons_of_mem _ h)
  | case4 before word a next rest _ _ ih =>
    rcases List.mem_cons.1 h with rfl | h
    · exact .inl (List.mem_reverse.1 hc)
    · rcases ih h with h | h
      · rw [List.mem_singleton] at h
        simp [h]
      · exact .inr (List.mem_cons_of_mem _ h)
  | case5 before word a next rest _ _ ih =>
    rcases ih h with h | h
    · rcases List.mem_cons.1 h with rfl | h
      · simp
      · exact .inl h
    · exact .inr (List.mem_cons_of_mem _ h)

theorem isAlphanumeric_of_mem_words {name w : List Char} (h : w ∈ words name) {c : Char}
    (hc : c ∈ w) : Unicode.isAlphanumeric c := by
  obtain ⟨run, hrun, h⟩ := List.mem_flatMap.1 h
  rcases mem_of_mem_wordsFrom h hc with hc | hc
  · cases hc
  · simpa using Text.not_of_mem_splitWhere hrun hc

section Ascii

variable {x : Char} (hx : x.toNat < 128) (caseless : x.isAlpha = false)
include hx caseless

theorem mem_of_mem_lowerWord {w : List Char} (h : x ∈ lowerWord w) : x ∈ w := by
  fun_induction lowerWord w with
  | case1 => exact h
  | case2 =>
    rw [List.mem_singleton] at h
    subst h
    revert hx
    decide
  | case3 c _ =>
    rw [Unicode.eq_of_mem_lowerChar h hx caseless]
    simp
  | case4 c rest _ ih =>
    rcases List.mem_append.1 h with h | h
    · rw [Unicode.eq_of_mem_lowerChar h hx caseless]
      simp
    · exact List.mem_cons_of_mem _ (ih h)

theorem mem_of_mem_capitalised {w : List Char} (h : x ∈ capitalised w) : x ∈ w := by
  cases w with
  | nil => exact h
  | cons c rest =>
    rcases List.mem_append.1 h with h | h
    · rw [Unicode.eq_of_mem_upperChar h hx caseless]
      simp
    · exact List.mem_cons_of_mem _ (mem_of_mem_lowerWord hx caseless h)

end Ascii

theorem isAlphanum_of_mem_word {name w : List Char} (h : w ∈ words name) {x : Char} (hx : x ∈ w)
    (ascii : x.toNat < 128) : x.isAlphanum := by
  have := isAlphanumeric_of_mem_words h hx
  simpa [Unicode.isAlphanumeric, ascii] using this

theorem isAlphanum_of_mem_upperCamel {name : List Char} {x : Char} (h : x ∈ upperCamel name)
    (ascii : x.toNat < 128) : x.isAlphanum := by
  obtain ⟨w, hw, h⟩ := List.mem_flatMap.1 h
  by_cases caseless : x.isAlpha
  · simp [Char.isAlphanum, caseless]
  · exact isAlphanum_of_mem_word hw
      (mem_of_mem_capitalised ascii (by simpa using caseless) h) ascii

theorem isAlphanum_of_mem_lowerCamel {name : List Char} {x : Char} (h : x ∈ lowerCamel name)
    (ascii : x.toNat < 128) : x.isAlphanum := by
  by_cases caseless : x.isAlpha
  · simp [Char.isAlphanum, caseless]
  rw [Bool.not_eq_true] at caseless
  have all : ∀ w ∈ words name, x ∈ w → x.isAlphanum := fun w hw hx =>
    isAlphanum_of_mem_word hw hx ascii
  unfold lowerCamel at h
  split at h
  · cases h
  · rename_i first rest e
    rw [e] at all
    rcases List.mem_append.1 h with h | h
    · exact all first (by simp) (mem_of_mem_lowerWord ascii caseless h)
    · obtain ⟨w, hw, h⟩ := List.mem_flatMap.1 h
      exact all w (by simp [hw]) (mem_of_mem_capitalised ascii caseless h)

end Casing
end ProtoTypings
