import Mathlib.Data.List.Forall2
import ProtoTypings.Sequence

/-!
# Proofs.Checks

When a check made of several checks succeeds, and with which failure it stops.

* `bind_eq_ok`, `bind_eq_error` — a check after another.
* `map_eq_ok`, `map_eq_error`, `mapError_eq_ok`, `mapError_eq_error` — a check whose result or
  failure is put in other words.
* `each_eq_ok_of_forall` — a check that succeeds everywhere succeeds on a list.
* `each_filterMap_eq_ok`, `each_filterMap_eq_error` — a check over what a list is mapped to.
* `each_eq_ok_iff_forall₂` — the results of a check stand beside what was checked.
-/

namespace ProtoTypings
namespace Check

variable {α β ε δ : Type}

theorem bind_eq_ok {x : Except ε α} {f : α → Except ε β} {b : β} :
    x >>= f = .ok b ↔ ∃ a, x = .ok a ∧ f a = .ok b := by
  cases x with
  | error e => simp [bind, Except.bind]
  | ok a => simp [bind, Except.bind]

theorem bind_eq_error {x : Except ε α} {f : α → Except ε β} {e : ε} :
    x >>= f = .error e ↔ x = .error e ∨ ∃ a, x = .ok a ∧ f a = .error e := by
  cases x with
  | error e => simp [bind, Except.bind]
  | ok a => simp [bind, Except.bind]

theorem map_eq_ok {x : Except ε α} {f : α → β} {b : β} :
    x.map f = .ok b ↔ ∃ a, x = .ok a ∧ f a = b := by
  cases x with
  | error e => simp [Except.map]
  | ok a => simp [Except.map]

theorem map_eq_error {x : Except ε α} {f : α → β} {e : ε} :
    x.map f = .error e ↔ x = .error e := by
  cases x with
  | error e => simp [Except.map]
  | ok a => simp [Except.map]

theorem mapError_eq_ok {x : Except ε α} {f : ε → δ} {a : α} :
    x.mapError f = .ok a ↔ x = .ok a := by
  cases x with
  | error e => simp [Except.mapError]
  | ok a => simp [Except.mapError]

theorem mapError_eq_error {x : Except ε α} {f : ε → δ} {d : δ} :
    x.mapError f = .error d ↔ ∃ e, x = .error e ∧ f e = d := by
  cases x with
  | error e => simp [Except.mapError]
  | ok a => simp [Except.mapError]

theorem eq_error_or_eq_ok (x : Except ε α) : (∃ e, x = .error e) ∨ ∃ a, x = .ok a := by
  cases x with
  | error e => exact .inl ⟨e, rfl⟩
  | ok a => exact .inr ⟨a, rfl⟩

end Check

variable {α β ε : Type} {f : α → Except ε β}

theorem each_cons_eq_ok {a : α} {as : List α} {bs : List β} :
    each f (a :: as) = .ok bs ↔ ∃ b rest, f a = .ok b ∧ each f as = .ok rest ∧ bs = b :: rest := by
  simp only [each]
  cases f a with
  | error e => simp
  | ok b => cases each f as <;> simp [eq_comm]

theorem each_append_eq_ok {as as' : List α} {bs : List β} :
    each f (as ++ as') = .ok bs ↔
      ∃ cs cs', each f as = .ok cs ∧ each f as' = .ok cs' ∧ bs = cs ++ cs' := by
  simp only [each_eq_ok_iff, List.map_append]
  constructor
  · intro h
    obtain ⟨cs, cs', rfl, hc, hc'⟩ := List.map_eq_append_iff.1 h.symm
    exact ⟨cs, cs', hc.symm, hc'.symm, rfl⟩
  · rintro ⟨cs, cs', hc, hc', rfl⟩
    rw [hc, hc', List.map_append]

theorem each_eq_ok_of_forall {as : List α} (h : ∀ a ∈ as, ∃ b, f a = .ok b) :
    ∃ bs, each f as = .ok bs := by
  induction as with
  | nil => exact ⟨[], rfl⟩
  | cons a as ih =>
    obtain ⟨b, hb⟩ := h a (by simp)
    obtain ⟨bs, hbs⟩ := ih fun x hx => h x (List.mem_cons_of_mem _ hx)
    exact ⟨b :: bs, by simp [each, hb, hbs]⟩

/-- A check over what a list is mapped to fails with the failure of the first element that is mapped
to something at fault. -/
theorem each_filterMap_eq_error {δ : Type} {g : δ → Option α} {ds : List δ} {e : ε} :
    each f (ds.filterMap g) = .error e ↔
      ∃ before d after a, ds = before ++ d :: after ∧
        (∀ x ∈ before, ∀ y, g x = some y → ∃ b, f y = .ok b) ∧ g d = some a ∧ f a = .error e := by
  rw [each_eq_error_iff]
  constructor
  · rintro ⟨before, a, after, h, hb, ha⟩
    obtain ⟨ds₁, ds₂, rfl, rfl, tail⟩ := List.filterMap_eq_append_iff.1 h
    obtain ⟨skipped, d, rest, rfl, none_, hd, -⟩ := List.filterMap_eq_cons_iff.1 tail
    refine ⟨ds₁ ++ skipped, d, rest, a, by simp, ?_, hd, ha⟩
    intro x hx y hy
    rcases List.mem_append.1 hx with hx | hx
    · exact hb y (List.mem_filterMap.2 ⟨x, hx, hy⟩)
    · rw [none_ x hx] at hy
      cases hy
  · rintro ⟨before, d, after, a, rfl, hb, hd, ha⟩
    refine ⟨before.filterMap g, a, after.filterMap g, by simp [hd], ?_, ha⟩
    intro y hy
    obtain ⟨x, hx, h⟩ := List.mem_filterMap.1 hy
    exact hb x hx y h

theorem each_filterMap_eq_ok {δ : Type} {g : δ → Option α} {ds : List δ} {bs : List β}
    (h : each f (ds.filterMap g) = .ok bs) :
    bs = ds.filterMap fun d => (g d).bind fun a => (f a).toOption := by
  induction ds generalizing bs with
  | nil =>
    cases h
    rfl
  | cons d ds ih =>
    cases hd : g d with
    | none =>
      rw [List.filterMap_cons_none hd] at h
      rw [List.filterMap_cons_none (by rw [hd]; rfl)]
      exact ih h
    | some a =>
      rw [List.filterMap_cons_some hd, each_cons_eq_ok] at h
      obtain ⟨b, rest, hb, hr, rfl⟩ := h
      rw [List.filterMap_cons_some (b := b) (by rw [hd, Option.bind_some, hb]; rfl), ← ih hr]

theorem exists_of_mem_each {as : List α} {bs : List β} (h : each f as = .ok bs) {b : β}
    (hb : b ∈ bs) : ∃ a ∈ as, f a = .ok b := by
  rw [each_eq_ok_iff] at h
  have : Except.ok b ∈ as.map f := by
    rw [h]
    exact List.mem_map.2 ⟨b, hb, rfl⟩
  obtain ⟨a, ha, e⟩ := List.mem_map.1 this
  exact ⟨a, ha, e⟩

theorem forall_of_each {as : List α} {bs : List β} (h : each f as = .ok bs) {a : α}
    (ha : a ∈ as) : ∃ b ∈ bs, f a = .ok b := by
  rw [each_eq_ok_iff] at h
  have : f a ∈ bs.map Except.ok := by
    rw [← h]
    exact List.mem_map.2 ⟨a, ha, rfl⟩
  obtain ⟨b, hb, e⟩ := List.mem_map.1 this
  exact ⟨b, hb, e.symm⟩

theorem each_eq_ok_iff_forall₂ {as : List α} {bs : List β} :
    each f as = .ok bs ↔ List.Forall₂ (fun a b => f a = .ok b) as bs := by
  induction as generalizing bs with
  | nil => cases bs <;> simp [each]
  | cons a as ih =>
    rw [each_cons_eq_ok, List.forall₂_cons_left_iff]
    constructor
    · rintro ⟨b, rest, hb, hr, rfl⟩
      exact ⟨b, rest, hb, ih.1 hr, rfl⟩
    · rintro ⟨b, rest, hb, hr, rfl⟩
      exact ⟨b, rest, hb, ih.2 hr, rfl⟩

/-- What is listed of the elements of a list stands beside what is listed of their results. -/
theorem forall₂_flatMap_of_each {γ δ : Type} {P : γ → δ → Prop} {as : List α} {bs : List β}
    {g : α → List γ} {h : β → List δ} (ok : each f as = .ok bs)
    (beside : ∀ a ∈ as, ∀ b, f a = .ok b → List.Forall₂ P (g a) (h b)) :
    List.Forall₂ P (as.flatMap g) (bs.flatMap h) := by
  induction as generalizing bs with
  | nil =>
    cases ok
    exact .nil
  | cons a as ih =>
    obtain ⟨b, rest, hb, hr, rfl⟩ := each_cons_eq_ok.1 ok
    rw [List.flatMap_cons, List.flatMap_cons]
    exact List.rel_append (beside a (by simp) b hb)
      (ih hr fun x hx => beside x (List.mem_cons_of_mem _ hx))

/-- The results of a check stand beside what was checked, in any relation that the check brings
about. -/
theorem forall₂_of_each {P : α → β → Prop} {as : List α} {bs : List β} (ok : each f as = .ok bs)
    (beside : ∀ a ∈ as, ∀ b, f a = .ok b → P a b) : List.Forall₂ P as bs := by
  have singletons := forall₂_flatMap_of_each (g := fun a => [a]) (h := fun b => [b]) ok
    fun a ha b hb => .cons (beside a ha b hb) .nil
  simpa using singletons

/-- What is listed of the elements of a list can be listed of their results. -/
theorem flatMap_of_each {γ : Type} {as : List α} {bs : List β} {g : α → List γ} {h : β → List γ}
    (ok : each f as = .ok bs) (same : ∀ a ∈ as, ∀ b, f a = .ok b → g a = h b) :
    as.flatMap g = bs.flatMap h := by
  rw [← List.forall₂_eq_eq_eq]
  refine forall₂_flatMap_of_each ok fun a ha b hb => ?_
  rw [List.forall₂_eq_eq_eq]
  exact same a ha b hb

theorem map_of_each {γ : Type} {as : List α} {bs : List β} {g : α → γ} {h : β → γ}
    (ok : each f as = .ok bs) (same : ∀ a ∈ as, ∀ b, f a = .ok b → g a = h b) :
    as.map g = bs.map h := by
  rw [List.map_eq_flatMap, List.map_eq_flatMap]
  exact flatMap_of_each ok fun a ha b hb => by rw [same a ha b hb]

end ProtoTypings
