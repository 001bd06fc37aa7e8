import ProtoTypings.Proofs.Checks

/-!
# Proofs.FirstFault

Checks that stop at the first of several faults. All that could be found is listed beside the check,
in the order in which it looks, and the list decides how the check ends.

* `FailsFirst` — a check that fails with the first fault of a list, and succeeds if there is none.
* `FailsFirst.bind`, `FailsFirst.bind_pure`, `FailsFirst.map`, `FailsFirst.each` — a check after
  another, a check whose result is put in other words, and a check over a list.
* `FailsFirst.exists_ok_iff` — such a check succeeds just if there is no fault.
-/

namespace ProtoTypings

/-- A check that fails with the first of some faults, and with nothing else. -/
def FailsFirst {α ε : Type} (x : Except ε α) (faults : List ε) : Prop :=
  ∀ e, x = .error e ↔ faults.head? = some e

namespace FailsFirst

variable {α β ε : Type} {x : Except ε α} {faults : List ε}

theorem ok (a : α) : FailsFirst (.ok a) ([] : List ε) := by
  intro e
  simp

theorem error (e : ε) (after : List ε) : FailsFirst (.error e : Except ε α) (e :: after) := by
  intro e'
  simp

theorem eq_nil {a : α} (h : FailsFirst (.ok a) faults) : faults = [] := by
  cases faults with
  | nil => rfl
  | cons e after =>
    have fails := (h e).2 rfl
    cases fails

theorem exists_ok_iff (h : FailsFirst x faults) : (∃ a, x = .ok a) ↔ faults = [] := by
  cases x with
  | error e =>
    have first := (h e).1 rfl
    constructor
    · rintro ⟨a, ha⟩
      cases ha
    · intro none_
      rw [none_] at first
      cases first
  | ok a => exact ⟨fun _ => h.eq_nil, fun _ => ⟨a, rfl⟩⟩

/-- What a check finds comes before what the next one finds, which only runs after success. -/
theorem bind {f : α → Except ε β} {after : List ε} (h : FailsFirst x faults)
    (next : ∀ a, x = .ok a → FailsFirst (f a) after) : FailsFirst (x >>= f) (faults ++ after) := by
  cases x with
  | error e =>
    obtain ⟨rest, rfl⟩ := List.head?_eq_some_iff.1 ((h e).1 rfl)
    exact .error e (rest ++ after)
  | ok a =>
    rw [h.eq_nil]
    exact next a rfl

theorem map (h : FailsFirst x faults) (g : α → β) : FailsFirst (x.map g) faults := by
  intro e
  rw [Check.map_eq_error]
  exact h e

theorem bind_pure (h : FailsFirst x faults) (g : α → β) :
    FailsFirst (x >>= fun a => pure (g a)) faults := by
  have both := h.bind fun a _ => FailsFirst.ok (g a)
  rwa [List.append_nil] at both

theorem each {f : α → Except ε β} {found : α → List ε} {as : List α}
    (h : ∀ a ∈ as, FailsFirst (f a) (found a)) :
    FailsFirst (ProtoTypings.each f as) (as.flatMap found) := by
  induction as with
  | nil => exact .ok []
  | cons a as ih =>
    have rest := ih fun b hb => h b (List.mem_cons_of_mem _ hb)
    have split_ : ProtoTypings.each f (a :: as) =
        f a >>= fun b => (ProtoTypings.each f as).map (b :: ·) := by
      rw [ProtoTypings.each]
      cases f a with
      | error e => rfl
      | ok b => cases ProtoTypings.each f as <;> rfl
    rw [split_, List.flatMap_cons]
    exact (h a (by simp)).bind fun b _ => rest.map (b :: ·)

end FailsFirst

end ProtoTypings
