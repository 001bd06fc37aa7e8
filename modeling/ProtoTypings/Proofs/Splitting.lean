import Mathlib.Data.List.Basic
import Mathlib.Data.List.TakeWhile
import ProtoTypings.Text

/-!
# Proofs.Splitting

What cutting and trimming do to a text, said without the way they are computed.

* `splitOn_eq_iff` — the pieces of a text are the one list without separators inside that joins to
  the text.
* `MaximalRuns`, `maximalRuns_iff` — the pieces that are not empty, as runs of characters.
* `cutAt_eq_some_iff`, `cutAt_eq_none_iff` — a text is cut at its first separator, if it has one.
* `IsTrim`, `trim_eq_iff` — a text without the white space around it.
-/

namespace ProtoTypings
namespace Text

/-! ## Pieces -/

theorem splitOn_cons (sep c : Char) (s : List Char) :
    splitOn sep (c :: s) =
      if c = sep then [] :: splitOn sep s else (splitOn sep s).modifyHead (c :: ·) := by
  simp [splitOn, splitWhere]

theorem splitWhere_of_forall {q : Char → Bool} {s : List Char} (h : ∀ c ∈ s, q c = false) :
    splitWhere q s = [s] := by
  induction s with
  | nil => rfl
  | cons c s ih =>
    obtain ⟨hc, hs⟩ := List.forall_mem_cons.1 h
    simp [splitWhere, hc, ih hs]

theorem splitWhere_congr {q q' : Char → Bool} {s : List Char} (h : ∀ c ∈ s, q c = q' c) :
    splitWhere q s = splitWhere q' s := by
  induction s with
  | nil => rfl
  | cons c s ih =>
    obtain ⟨hc, hs⟩ := List.forall_mem_cons.1 h
    rw [splitWhere, splitWhere, hc, ih hs]

theorem splitOn_of_not_mem {sep : Char} {s : List Char} (h : sep ∉ s) :
    splitOn sep s = [s] :=
  splitWhere_of_forall fun c hc => by
    rw [beq_eq_false_iff_ne]
    rintro rfl
    exact h hc

theorem not_of_mem_splitWhere {p : Char → Bool} {s w : List Char} (h : w ∈ splitWhere p s)
    {c : Char} (hc : c ∈ w) : p c = false := by
  induction s generalizing w with
  | nil =>
    simp only [splitWhere, List.mem_singleton] at h
    simp [h] at hc
  | cons a s ih =>
    rw [splitWhere] at h
    split at h
    · rcases List.mem_cons.1 h with rfl | h
      · cases hc
      · exact ih h hc
    · rename_i ha
      obtain ⟨v, vs, e⟩ := List.exists_cons_of_ne_nil (splitWhere_ne_nil p s)
      rw [e, List.modifyHead_cons] at h
      rcases List.mem_cons.1 h with rfl | h
      · rcases List.mem_cons.1 hc with rfl | hc
        · simpa using ha
        · exact ih (by simp [e]) hc
      · exact ih (by simp [e, h]) hc

theorem mem_of_mem_splitWhere {p : Char → Bool} {s w : List Char} (h : w ∈ splitWhere p s)
    {c : Char} (hc : c ∈ w) : c ∈ s := by
  induction s generalizing w with
  | nil =>
    simp only [splitWhere, List.mem_singleton] at h
    simp [h] at hc
  | cons a s ih =>
    rw [splitWhere] at h
    split at h
    · rcases List.mem_cons.1 h with rfl | h
      · cases hc
      · exact List.mem_cons_of_mem _ (ih h hc)
    · obtain ⟨v, vs, e⟩ := List.exists_cons_of_ne_nil (splitWhere_ne_nil p s)
      rw [e, List.modifyHead_cons] at h
      rcases List.mem_cons.1 h with rfl | h
      · rcases List.mem_cons.1 hc with rfl | hc
        · exact List.mem_cons_self
        · exact List.mem_cons_of_mem _ (ih (by simp [e]) hc)
      · exact List.mem_cons_of_mem _ (ih (by simp [e, h]) hc)

theorem not_mem_of_mem_splitOn {sep : Char} {s w : List Char} (h : w ∈ splitOn sep s) :
    sep ∉ w := by
  intro hm
  have := not_of_mem_splitWhere h hm
  simp at this

theorem length_splitOn (sep : Char) (s : List Char) :
    (splitOn sep s).length = s.count sep + 1 := by
  induction s with
  | nil => rfl
  | cons c s ih =>
    rw [splitOn_cons, List.count_cons]
    by_cases same : c = sep
    · simp [same, ih]
    · simp [same, ih]

theorem intercalate_splitOn (sep : Char) (s : List Char) :
    [sep].intercalate (splitOn sep s) = s := by
  induction s with
  | nil => rfl
  | cons c s ih =>
    obtain ⟨w, ws, e⟩ := List.exists_cons_of_ne_nil (splitOn_ne_nil sep s)
    rw [splitOn_cons]
    rw [e] at ih ⊢
    by_cases same : c = sep
    · rw [if_pos same, List.intercalate_cons_cons, ih, same]
      rfl
    · rw [if_neg same, List.modifyHead_cons]
      cases ws with
      | nil =>
        rw [List.intercalate_singleton] at ih ⊢
        rw [ih]
      | cons v vs =>
        rw [List.intercalate_cons_cons] at ih ⊢
        rw [← ih]
        rfl

/-- The pieces, each with a separator after it, are the text with one more. -/
theorem flatMap_splitOn (sep : Char) (s : List Char) :
    (splitOn sep s).flatMap (· ++ [sep]) = s ++ [sep] := by
  induction s with
  | nil => rfl
  | cons c s ih =>
    obtain ⟨w, ws, e⟩ := List.exists_cons_of_ne_nil (splitOn_ne_nil sep s)
    rw [splitOn_cons]
    rw [e] at ih ⊢
    by_cases same : c = sep
    · rw [if_pos same, List.flatMap_cons, ih, same]
      rfl
    · rw [if_neg same, List.modifyHead_cons, List.cons_append, ← ih]
      rfl

theorem splitOn_intercalate {sep : Char} {ws : List (List Char)} (ne : ws ≠ [])
    (h : ∀ w ∈ ws, sep ∉ w) : splitOn sep ([sep].intercalate ws) = ws := by
  induction ws with
  | nil => exact absurd rfl ne
  | cons w ws ih =>
    cases ws with
    | nil => rw [List.intercalate_singleton, splitOn_of_not_mem (h w (by simp))]
    | cons v vs =>
      rw [List.intercalate_cons_cons, List.append_assoc, List.singleton_append, splitOn_append,
        splitOn_of_not_mem (h w (by simp)),
        ih (by simp) fun u hu => h u (List.mem_cons_of_mem _ hu)]
      rfl

/-- The pieces of a text: no piece has a separator in it, and joined by it they are the text. -/
theorem splitOn_eq_iff {sep : Char} {s : List Char} {ws : List (List Char)} :
    splitOn sep s = ws ↔ ws ≠ [] ∧ (∀ w ∈ ws, sep ∉ w) ∧ [sep].intercalate ws = s := by
  constructor
  · rintro rfl
    exact ⟨splitOn_ne_nil sep s, fun w hw => not_mem_of_mem_splitOn hw, intercalate_splitOn sep s⟩
  · rintro ⟨ne, free, rfl⟩
    exact splitOn_intercalate ne free

/-- More text without a separator lengthens the last piece. -/
theorem exists_splitOn_append (sep : Char) (s : List Char) :
    ∃ before last, ∀ t, sep ∉ t → splitOn sep (s ++ t) = before ++ [last ++ t] := by
  induction s with
  | nil => exact ⟨[], [], fun t ht => splitOn_of_not_mem ht⟩
  | cons c s ih =>
    obtain ⟨before, last, h⟩ := ih
    by_cases same : c = sep
    · refine ⟨[] :: before, last, fun t ht => ?_⟩
      simp [splitOn_cons, same, h t ht]
    · cases before with
      | nil =>
        refine ⟨[], c :: last, fun t ht => ?_⟩
        simp [splitOn_cons, same, h t ht]
      | cons w ws =>
        refine ⟨(c :: w) :: ws, last, fun t ht => ?_⟩
        simp [splitOn_cons, same, h t ht]

/-! ## Runs -/

/-- The maximal runs in a text of characters that satisfy `p`, in order. A run is not empty, and
what follows it begins with another character. -/
inductive MaximalRuns (p : Char → Bool) : List Char → List (List Char) → Prop where
  | nil : MaximalRuns p [] []
  | skip {c : Char} {s : List Char} {runs : List (List Char)} :
      p c = false → MaximalRuns p s runs → MaximalRuns p (c :: s) runs
  | run {run rest : List Char} {runs : List (List Char)} :
      run ≠ [] → (∀ c ∈ run, p c) → (∀ c ∈ rest.head?, p c = false) → MaximalRuns p rest runs →
        MaximalRuns p (run ++ rest) (run :: runs)

section Runs

variable {p : Char → Bool}

theorem exists_maximalRuns (s : List Char) : ∃ runs, MaximalRuns p s runs := by
  induction s with
  | nil => exact ⟨[], .nil⟩
  | cons c s ih =>
    obtain ⟨runs, h⟩ := ih
    cases hc : p c with
    | false => exact ⟨runs, .skip hc h⟩
    | true =>
      -- `c` is a run of its own, unless a run follows, which it then begins.
      cases h with
      | nil =>
        have own : MaximalRuns p ([c] ++ []) [[c]] :=
          .run (by simp) (by simp [hc]) (by simp) .nil
        exact ⟨[[c]], own⟩
      | @skip d s runs hd h =>
        have own : MaximalRuns p ([c] ++ d :: s) ([c] :: runs) :=
          .run (by simp) (by simp [hc]) (by simp [hd]) (.skip hd h)
        exact ⟨[c] :: runs, own⟩
      | @run run rest runs _ inside stop h =>
        have longer : MaximalRuns p ((c :: run) ++ rest) ((c :: run) :: runs) :=
          .run (by simp) (List.forall_mem_cons.2 ⟨hc, inside⟩) stop h
        exact ⟨(c :: run) :: runs, longer⟩

/-- Maximal runs are what splitting leaves, empty pieces aside. -/
theorem MaximalRuns.eq_filter {s : List Char} {runs : List (List Char)}
    (h : MaximalRuns p s runs) : (splitWhere (fun c => !p c) s).filter (· ≠ []) = runs := by
  induction h with
  | nil => rfl
  | skip hc _ ih => simpa [splitWhere, hc] using ih
  | @run run rest runs nonempty inside stop _ ih =>
    have single : splitWhere (fun c => !p c) run = [run] :=
      splitWhere_of_forall fun c hc => by simp [inside c hc]
    cases rest with
    | nil =>
      obtain rfl : runs = [] := by simpa [splitWhere] using ih.symm
      simp [single, nonempty]
    | cons d rest =>
      have hd : p d = false := stop d rfl
      have after : splitWhere (fun c => !p c) (d :: rest) =
          [] :: splitWhere (fun c => !p c) rest := by
        simp [splitWhere, hd]
      rw [after, List.filter_cons_of_neg (by simp)] at ih
      rw [splitWhere_append (by simp [hd]), single, List.singleton_append,
        List.filter_cons_of_pos (by simpa using nonempty), ih]

/-- A text has its maximal runs in one way. -/
theorem maximalRuns_iff {s : List Char} {runs : List (List Char)} :
    MaximalRuns p s runs ↔ (splitWhere (fun c => !p c) s).filter (· ≠ []) = runs := by
  constructor
  · exact MaximalRuns.eq_filter
  · rintro rfl
    obtain ⟨runs, h⟩ := exists_maximalRuns (p := p) s
    rwa [h.eq_filter]

theorem MaximalRuns.inside {s : List Char} {runs : List (List Char)} (h : MaximalRuns p s runs) :
    ∀ run ∈ runs, run ≠ [] ∧ ∀ c ∈ run, p c ∧ c ∈ s := by
  induction h with
  | nil => simp
  | skip _ _ ih =>
    intro run hrun
    exact ⟨(ih run hrun).1, fun c hc => ⟨((ih run hrun).2 c hc).1,
      List.mem_cons_of_mem _ ((ih run hrun).2 c hc).2⟩⟩
  | run nonempty inside _ _ ih =>
    intro run hrun
    rcases List.mem_cons.1 hrun with rfl | hrun
    · exact ⟨nonempty, fun c hc => ⟨inside c hc, List.mem_append_left _ hc⟩⟩
    · exact ⟨(ih run hrun).1, fun c hc => ⟨((ih run hrun).2 c hc).1,
        List.mem_append_right _ ((ih run hrun).2 c hc).2⟩⟩

/-- A change of characters that keeps to `p` leaves the runs where they are. -/
theorem MaximalRuns.map {s : List Char} {runs : List (List Char)} (h : MaximalRuns p s runs)
    {f : Char → Char} (keeps : ∀ c ∈ s, p (f c) = p c) :
    MaximalRuns p (s.map f) (runs.map (·.map f)) := by
  induction h with
  | nil => exact .nil
  | skip hc _ ih =>
    obtain ⟨own, others⟩ := List.forall_mem_cons.1 keeps
    exact .skip (own.trans hc) (ih others)
  | @run run rest runs nonempty inside stop _ ih =>
    obtain ⟨inRun, inRest⟩ := List.forall_mem_append.1 keeps
    rw [List.map_append]
    refine .run (by simpa using nonempty) ?_ ?_ (ih inRest)
    · intro d hd
      obtain ⟨c, hc, rfl⟩ := List.mem_map.1 hd
      rw [inRun c hc]
      exact inside c hc
    · intro d hd
      rw [List.head?_map] at hd
      obtain ⟨c, hc, rfl⟩ := Option.map_eq_some_iff.1 hd
      rw [inRest c (List.mem_of_mem_head? hc)]
      exact stop c hc

end Runs

/-! ## The first separator -/

theorem cutAt_of_not_mem {sep : Char} {before : List Char} (h : sep ∉ before)
    (after : List Char) : cutAt sep (before ++ sep :: after) = some (before, after) := by
  induction before with
  | nil => simp [cutAt]
  | cons c before ih =>
    rw [List.mem_cons, not_or] at h
    simp [cutAt, Ne.symm h.1, ih h.2]

theorem cutAt_eq_none_iff {sep : Char} {s : List Char} : cutAt sep s = none ↔ sep ∉ s := by
  constructor
  · intro h inside
    obtain ⟨before, after, rfl, free⟩ := List.eq_append_cons_of_mem inside
    rw [cutAt_of_not_mem free] at h
    cases h
  · intro h
    induction s with
    | nil => rfl
    | cons c s ih =>
      rw [List.mem_cons, not_or] at h
      simp [cutAt, Ne.symm h.1, ih h.2]

/-- A text is cut at the first separator. -/
theorem cutAt_eq_some_iff {sep : Char} {s before after : List Char} :
    cutAt sep s = some (before, after) ↔ sep ∉ before ∧ s = before ++ sep :: after := by
  constructor
  · intro h
    have inside : sep ∈ s := by
      by_contra free
      rw [cutAt_eq_none_iff.2 free] at h
      cases h
    obtain ⟨start, rest, rfl, free⟩ := List.eq_append_cons_of_mem inside
    rw [cutAt_of_not_mem free] at h
    cases h
    exact ⟨free, rfl⟩
  · rintro ⟨free, rfl⟩
    exact cutAt_of_not_mem free after

/-! ## Trimming -/

/-- A text of white space only. -/
def Blank (s : List Char) : Prop := ∀ c ∈ s, Unicode.isWhiteSpace c

/-- A text without white space at its start and end. -/
def Bare (s : List Char) : Prop :=
  (∀ c ∈ s.head?, Unicode.isWhiteSpace c = false) ∧
    ∀ c ∈ s.getLast?, Unicode.isWhiteSpace c = false

/-- What is left of a text without the white space around it. -/
def IsTrim (s core : List Char) : Prop :=
  ∃ before after, s = before ++ core ++ after ∧ Blank before ∧ Blank after ∧ Bare core

instance (s : List Char) : Decidable (Blank s) :=
  decidable_of_iff (s.all Unicode.isWhiteSpace) (by simp [Blank])

instance (s : List Char) : Decidable (Bare s) :=
  decidable_of_iff ((s.head?.all fun c => !Unicode.isWhiteSpace c) = true ∧
    (s.getLast?.all fun c => !Unicode.isWhiteSpace c) = true) (by simp [Bare, Option.all_eq_true])

theorem dropWhile_blank {before : List Char} (h : Blank before) (s : List Char) :
    (before ++ s).dropWhile Unicode.isWhiteSpace = s.dropWhile Unicode.isWhiteSpace :=
  List.dropWhile_append_of_pos h

theorem dropWhile_of_head? {s : List Char}
    (h : ∀ c ∈ s.head?, Unicode.isWhiteSpace c = false) :
    s.dropWhile Unicode.isWhiteSpace = s := by
  cases s with
  | nil => rfl
  | cons c s => rw [List.dropWhile_cons_of_neg (by simpa using h c rfl)]

theorem head?_dropWhile (s : List Char) :
    ∀ c ∈ (s.dropWhile Unicode.isWhiteSpace).head?, Unicode.isWhiteSpace c = false := by
  intro c hc
  have := List.head?_dropWhile_not Unicode.isWhiteSpace s
  rw [Option.mem_def] at hc
  simpa [hc] using this

/-- Trimming takes the white space around a text away and nothing else. -/
theorem isTrim_trim (s : List Char) : IsTrim s (trim s) := by
  obtain ⟨after, blank, back⟩ : ∃ after, Blank after ∧
      s.dropWhile Unicode.isWhiteSpace = trim s ++ after := by
    refine ⟨((s.dropWhile Unicode.isWhiteSpace).reverse.takeWhile Unicode.isWhiteSpace).reverse,
      fun c hc => List.mem_takeWhile_imp (List.mem_reverse.1 hc), ?_⟩
    rw [trim, ← List.reverse_append, List.takeWhile_append_dropWhile, List.reverse_reverse]
  refine ⟨s.takeWhile Unicode.isWhiteSpace, after, ?_, fun c hc => List.mem_takeWhile_imp hc, blank,
    ?_, ?_⟩
  · rw [List.append_assoc, ← back, List.takeWhile_append_dropWhile]
  · intro c hc
    refine head?_dropWhile s c ?_
    rw [back, List.head?_append, Option.mem_def.1 hc]
    rfl
  · rw [trim, List.getLast?_reverse]
    exact head?_dropWhile _

/-- There is one way to trim a text. -/
theorem trim_eq_iff {s core : List Char} : trim s = core ↔ IsTrim s core := by
  constructor
  · rintro rfl
    exact isTrim_trim s
  · rintro ⟨before, after, rfl, blank, blank', start, stop⟩
    rw [trim, List.append_assoc, dropWhile_blank blank]
    cases core with
    | nil =>
      have none_ : after.dropWhile Unicode.isWhiteSpace = [] := by
        simpa using dropWhile_blank blank' []
      rw [List.nil_append, none_]
      rfl
    | cons c core =>
      have kept : (c :: core ++ after).dropWhile Unicode.isWhiteSpace = c :: core ++ after :=
        dropWhile_of_head? start
      rw [kept, List.reverse_append,
        dropWhile_blank fun d hd => blank' d (List.mem_reverse.1 hd), dropWhile_of_head?,
        List.reverse_reverse]
      rwa [List.head?_reverse]

theorem trim_of_bare {s : List Char} (h : Bare s) : trim s = s :=
  trim_eq_iff.2 ⟨[], [], by simp, by simp [Blank], by simp [Blank], h⟩

theorem trim_eq_nil_iff {s : List Char} : trim s = [] ↔ Blank s := by
  rw [trim_eq_iff]
  constructor
  · rintro ⟨before, after, rfl, blank, blank', -⟩ c hc
    rw [List.append_nil] at hc
    exact (List.mem_append.1 hc).elim (blank c) (blank' c)
  · intro h
    exact ⟨s, [], by simp, h, by simp [Blank], by simp [Bare]⟩

end Text
end ProtoTypings
