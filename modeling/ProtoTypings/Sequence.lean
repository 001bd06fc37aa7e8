/-!
# Sequence

Running a check that may fail over a list, first to last.

* `each` — the results for all elements, or the failure of the first element that fails.
* `each_eq_ok_iff` — success means that every element succeeds, with these results.
* `each_eq_error_iff` — failure is that of an element all of whose predecessors succeed.
-/

namespace ProtoTypings

/-- The results of `f` on a list, in order, or the first failure. -/
def each {α β ε : Type} (f : α → Except ε β) : List α → Except ε (List β)
  | [] => .ok []
  | a :: as =>
    match f a with
    | .error e => .error e
    | .ok b =>
      match each f as with
      | .error e => .error e
      | .ok bs => .ok (b :: bs)

variable {α β ε : Type} {f : α → Except ε β}

theorem each_eq_ok_iff {as : List α} {bs : List β} :
    each f as = .ok bs ↔ as.map f = bs.map .ok := by
  induction as generalizing bs with
  | nil => cases bs <;> simp [each]
  | cons a as ih =>
    simp only [each, List.map_cons]
    cases ha : f a with
    | error e => cases bs <;> simp
    | ok b =>
      cases hs : each f as with
      | error e =>
        have none : ∀ bs : List β, as.map f ≠ bs.map .ok := fun bs h => by
          have := ih.2 h
          simp [hs] at this
        cases bs <;> simp [none]
      | ok bs' =>
        have same := ih.1 hs
        cases bs with
        | nil => simp
        | cons b' bs =>
          simp only [Except.ok.injEq, List.cons.injEq, List.map_cons, same]
          rw [List.map_inj_right (fun _ _ h => Except.ok.inj h)]

theorem each_eq_error_iff {as : List α} {e : ε} :
    each f as = .error e ↔
      ∃ before a after, as = before ++ a :: after ∧ (∀ x ∈ before, ∃ b, f x = .ok b) ∧
        f a = .error e := by
  induction as with
  | nil => simp [each]
  | cons a as ih =>
    simp only [each]
    cases ha : f a with
    | error e' =>
      constructor
      · rintro h
        cases h
        exact ⟨[], a, as, rfl, by simp, ha⟩
      · rintro ⟨before, x, after, h, hb, hx⟩
        cases before with
        | nil => cases h; simpa [ha] using hx
        | cons y before =>
          cases h
          obtain ⟨b, hb⟩ := hb a (by simp)
          simp [ha] at hb
    | ok b =>
      constructor
      · intro h
        cases hs : each f as with
        | ok bs => simp [hs] at h
        | error e' =>
          simp only [hs, Except.error.injEq] at h
          subst h
          obtain ⟨before, x, after, rfl, hb, hx⟩ := ih.1 hs
          refine ⟨a :: before, x, after, rfl, ?_, hx⟩
          intro y hy
          rcases List.mem_cons.1 hy with rfl | hy
          · exact ⟨b, ha⟩
          · exact hb y hy
      · rintro ⟨before, x, after, h, hb, hx⟩
        cases before with
        | nil => cases h; simp [ha] at hx
        | cons y before =>
          cases h
          have : each f (before ++ x :: after) = .error e :=
            ih.2 ⟨before, x, after, rfl, fun z hz => hb z (List.mem_cons_of_mem _ hz), hx⟩
          simp [this]

end ProtoTypings
