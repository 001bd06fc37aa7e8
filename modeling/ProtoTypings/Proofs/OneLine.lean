import ProtoTypings.Proofs.PlainLines

/-!
# Proofs.OneLine

Texts without line breaks: the lines of typings have none of their own if the texts that are put
into them have none.

* `OneLine`, `Spaceless` — a text without line breaks, and one without any white space.
* `oneLine_method`, `oneLine_entry`, `oneLine_import` — the texts of single lines.
* `ExposedField.oneLine_accessors`, `ExposedField.oneLine_property` — what a field becomes.
-/

namespace ProtoTypings

/-- A text without line breaks. -/
def OneLine (s : String) : Prop := '\n' ∉ s.toList

instance (s : String) : Decidable (OneLine s) := inferInstanceAs (Decidable (_ ∉ _))

theorem OneLine.append {s t : String} (hs : OneLine s) (ht : OneLine t) : OneLine (s ++ t) := by
  rw [OneLine, String.toList_append, List.mem_append, not_or]
  exact ⟨hs, ht⟩

theorem OneLine.intercalate {sep : String} (hs : OneLine sep) {l : List String}
    (h : ∀ s ∈ l, OneLine s) : OneLine (sep.intercalate l) := by
  induction l with
  | nil => simp [OneLine]
  | cons s l ih =>
    have rest := ih fun t ht => h t (List.mem_cons_of_mem _ ht)
    cases l with
    | nil => simpa using h s (by simp)
    | cons t l =>
      rw [String.intercalate_cons_cons]
      exact ((h s (by simp)).append hs).append rest

theorem oneLine_nat (n : Nat) : OneLine n.repr := by
  intro h
  rw [Nat.repr_eq_ofList_toDigits, String.toList_ofList] at h
  have := Nat.isDigit_of_mem_toDigits (by decide) (by decide) h
  revert this
  decide

theorem oneLine_int (n : Int) : OneLine (toString n) := by
  rw [Int.toString_eq_repr, Int.repr_eq_if]
  split
  · exact oneLine_nat _
  · exact OneLine.append (by decide) (oneLine_nat _)

def Spaceless (s : String) : Prop := ∀ c ∈ s.toList, Unicode.isWhiteSpace c = false

instance (s : String) : Decidable (Spaceless s) :=
  decidable_of_iff (s.toList.all fun c => !Unicode.isWhiteSpace c) (by simp [Spaceless])

theorem Spaceless.not_mem {s : String} (h : Spaceless s) {c : Char} (hc : Unicode.isWhiteSpace c) :
    c ∉ s.toList := by
  intro hm
  rw [h c hm] at hc
  cases hc

theorem Spaceless.oneLine {s : String} (h : Spaceless s) : OneLine s := h.not_mem (by decide)

namespace TypeScript

/-! ## Texts inside blocks -/

theorem oneLine_parameter {p : Parameter} (hn : OneLine p.name) (ht : OneLine p.type.render) :
    OneLine p.render := by
  refine ((hn.append ?_).append (by decide)).append ht
  split <;> decide

theorem oneLine_staticMark (isStatic : Bool) : OneLine (staticMark isStatic) := by
  cases isStatic <;> decide

theorem oneLine_method (isStatic : Bool) {name : String} {ps : List Parameter} {result : TypeExpr}
    (hn : OneLine name) (hp : ∀ p ∈ ps, OneLine p.name ∧ OneLine p.type.render)
    (hr : OneLine result.render) : OneLine (Member.method isStatic name ps result).render := by
  have parameters : OneLine (", ".intercalate (ps.map Parameter.render)) := by
    refine OneLine.intercalate (by decide) fun s hs => ?_
    obtain ⟨p, h, rfl⟩ := List.mem_map.1 hs
    exact oneLine_parameter (hp p h).1 (hp p h).2
  exact (((((oneLine_staticMark isStatic).append hn).append (by decide)).append parameters).append
    (by decide)).append hr |>.append (by decide)

theorem oneLine_property {p : Property} (hk : OneLine p.key) (ht : OneLine p.type.render) :
    OneLine p.render := by
  refine (((hk.append ?_).append (by decide)).append ht).append (by decide)
  split <;> decide

theorem oneLine_entry {e : EnumEntry} (hn : OneLine e.name) : OneLine e.render :=
  ((hn.append (by decide)).append (oneLine_int _)).append (by decide)

theorem oneLine_import {i : Import} (hn : OneLine i.name) (hs : OneLine i.source) :
    OneLine i.render := by
  have start : OneLine ("import * as " ++ i.name) := OneLine.append (by decide) hn
  exact ((start.append (by decide)).append hs).append (by decide)

/-! ## Types -/

theorem oneLine_array {t : TypeExpr} (h : OneLine t.render) : OneLine (TypeExpr.array t).render :=
  (OneLine.append (by decide) h).append (by decide)

theorem oneLine_objectOf {t : TypeExpr} (h : OneLine t.render) :
    OneLine (TypeExpr.objectOf t).render :=
  (h.append (by decide)).append (by decide)

theorem oneLine_union {t u : TypeExpr} (ht : OneLine t.render) (hu : OneLine u.render) :
    OneLine (TypeExpr.union t u).render :=
  (ht.append (by decide)).append hu

theorem oneLine_generic {head : String} {t : TypeExpr} (hh : OneLine head) (ht : OneLine t.render) :
    OneLine (TypeExpr.generic head t).render :=
  ((hh.append (by decide)).append ht).append (by decide)

theorem oneLine_pair {t u : TypeExpr} (ht : OneLine t.render) (hu : OneLine u.render) :
    OneLine (TypeExpr.pair t u).render := by
  have start : OneLine ("[" ++ t.render) := OneLine.append (by decide) ht
  exact ((start.append (by decide)).append hu).append (by decide)

theorem oneLine_map {t u : TypeExpr} (ht : OneLine t.render) (hu : OneLine u.render) :
    OneLine (TypeExpr.map t u).render := by
  have start : OneLine ("jspb.Map<" ++ t.render) := OneLine.append (by decide) ht
  exact ((start.append (by decide)).append hu).append (by decide)

/-! ## Accessors -/

theorem oneLine_call {verb name : String} {ps : List Parameter} {result : TypeExpr}
    (hv : OneLine verb) (hn : OneLine name) (hp : ∀ p ∈ ps, OneLine p.name ∧ OneLine p.type.render)
    (hr : OneLine result.render) : OneLine (Member.call (verb ++ name) ps result).render :=
  oneLine_method false (hv.append hn) hp hr

theorem oneLine_getter {name : String} {type : TypeExpr} (hn : OneLine name)
    (ht : OneLine type.render) : OneLine (Member.getter name type).render :=
  oneLine_call (by decide) hn (by simp) ht

theorem oneLine_setter {name : String} {type : TypeExpr} (mayOmit : Bool) (hn : OneLine name)
    (ht : OneLine type.render) : OneLine (Member.setter name mayOmit type).render :=
  oneLine_call (by decide) hn (by simpa using ⟨by decide, ht⟩) (by decide)

theorem oneLine_adder {name : String} {type : TypeExpr} (mayOmit : Bool) (hn : OneLine name)
    (ht : OneLine type.render) : OneLine (Member.adder name mayOmit type).render := by
  refine oneLine_call (by decide) hn ?_ ht
  simp only [List.forall_mem_cons, List.not_mem_nil, false_implies, implies_true, and_true]
  exact ⟨⟨by decide, ht⟩, by decide, by decide⟩

theorem oneLine_presence {name : String} (hn : OneLine name) :
    OneLine (Member.presence name).render :=
  oneLine_call (by decide) hn (by simp) (by decide)

theorem oneLine_clearer {name : String} (hn : OneLine name) :
    OneLine (Member.clearer name).render :=
  oneLine_call (by decide) hn (by simp) (by decide)

end TypeScript

open TypeScript

def Exposure.types : Exposure → List TypeExpr
  | .scalar type => [type]
  | .bytes => []
  | .enumeration type => [type]
  | .message type => [type]
  | .map types => [types.key, types.value]

theorem Proto.Field.oneLine_camelName (f : Proto.Field) : OneLine f.camelName :=
  f.not_mem_camelName (by decide) (by decide)

theorem Proto.Field.oneLine_pascalName (f : Proto.Field) : OneLine f.pascalName := by
  intro h
  rw [pascalName, String.toList_ofList] at h
  have := Casing.isAlphanum_of_mem_upperCamel h (by decide)
  revert this
  decide

theorem Proto.oneLine_caseName (oneof : String) : OneLine (caseName oneof) :=
  not_mem_caseName oneof (by decide) (by decide)

namespace ExposedField

variable {f : ExposedField}

theorem oneLine_listSuffix (f : ExposedField) : OneLine f.listSuffix := by
  unfold listSuffix
  split <;> decide

theorem oneLine_held {t : TypeExpr} (h : OneLine t.render) : OneLine (f.held t).render := by
  unfold held
  split
  · exact oneLine_array h
  · exact h

theorem oneLine_presenceAccessors (f : ExposedField) :
    ∀ m ∈ f.presenceAccessors, OneLine m.render := by
  intro m hm
  simp only [presenceAccessors, List.mem_append] at hm
  rcases hm with hm | hm <;> split at hm <;> simp only [List.mem_singleton, List.not_mem_nil] at hm
  · rw [hm]
    exact oneLine_presence f.field.oneLine_pascalName
  · rw [hm]
    exact oneLine_clearer (f.field.oneLine_pascalName.append f.oneLine_listSuffix)

theorem oneLine_bytesAccessors (f : ExposedField) : ∀ m ∈ f.bytesAccessors, OneLine m.render := by
  have name := f.field.oneLine_pascalName.append f.oneLine_listSuffix
  intro m hm
  simp only [bytesAccessors, List.mem_append, List.mem_cons, List.not_mem_nil, or_false] at hm
  rcases hm with (rfl | rfl | rfl | rfl) | hm
  · exact oneLine_getter name (oneLine_held (by decide))
  · exact oneLine_getter (name.append (by decide)) (oneLine_held (by decide))
  · exact oneLine_getter (name.append (by decide)) (oneLine_held (by decide))
  · exact oneLine_setter false name (oneLine_held (by decide))
  · split at hm <;> simp only [List.mem_singleton, List.not_mem_nil] at hm
    rw [hm]
    exact oneLine_adder false f.field.oneLine_pascalName (by decide)

theorem oneLine_valueAccessors (f : ExposedField) {t : TypeExpr} (mayOmit : Bool)
    (ht : OneLine t.render) : ∀ m ∈ f.valueAccessors t mayOmit, OneLine m.render := by
  have name := f.field.oneLine_pascalName.append f.oneLine_listSuffix
  intro m hm
  unfold valueAccessors at hm
  split at hm <;> simp only [List.mem_cons, List.not_mem_nil, or_false] at hm
  · rcases hm with rfl | rfl | rfl
    · exact oneLine_getter name (oneLine_array ht)
    · exact oneLine_setter false name (oneLine_array ht)
    · exact oneLine_adder mayOmit f.field.oneLine_pascalName ht
  · have value :
        OneLine (if f.field.mayBeUndefined then TypeExpr.union t .undefined else t).render := by
      split
      · exact oneLine_union ht (by decide)
      · exact ht
    rcases hm with rfl | rfl
    · exact oneLine_getter name value
    · exact oneLine_setter mayOmit name value

theorem oneLine_accessors (h : ∀ t ∈ f.exposure.types, OneLine t.render) :
    ∀ m ∈ f.accessors, OneLine m.render := by
  intro m hm
  cases e : f.exposure with
  | map types =>
    simp only [e, Exposure.types, List.forall_mem_cons] at h
    simp only [accessors, e, mapAccessors, List.mem_cons, List.not_mem_nil, or_false] at hm
    have name := f.field.oneLine_pascalName.append (by decide : OneLine "Map")
    rcases hm with rfl | rfl
    · exact oneLine_getter name (oneLine_map h.1 h.2.1)
    · exact oneLine_clearer name
  | bytes =>
    simp only [accessors, e, List.mem_append] at hm
    exact hm.elim (f.oneLine_presenceAccessors m) (f.oneLine_bytesAccessors m)
  | scalar type | enumeration type | message type =>
    simp only [e, Exposure.types, List.forall_mem_cons] at h
    simp only [accessors, e, List.mem_append] at hm
    exact hm.elim (f.oneLine_presenceAccessors m) (f.oneLine_valueAccessors _ h.1 m)

theorem oneLine_property (h : ∀ t ∈ f.exposure.types, OneLine t.render) :
    OneLine f.property.render := by
  have plain : ∀ type t, OneLine t.render → OneLine (plainType type t).render := by
    intro type t ht
    unfold plainType
    split
    · exact oneLine_objectOf ht
    · exact ht
  have value : ∀ t : TypeExpr, OneLine t.render → OneLine (f.valueProperty t).render := fun t ht =>
    TypeScript.oneLine_property (f.field.oneLine_camelName.append f.oneLine_listSuffix)
      (oneLine_held ht)
  cases e : f.exposure with
  | map types =>
    simp only [e, Exposure.types, List.forall_mem_cons] at h
    rw [property, e]
    exact TypeScript.oneLine_property (f.field.oneLine_camelName.append (by decide))
      (oneLine_array (oneLine_pair (plain _ _ h.1) (plain _ _ h.2.1)))
  | bytes =>
    rw [property, e]
    exact value _ (by decide)
  | scalar type | enumeration type =>
    simp only [e, Exposure.types, List.forall_mem_cons] at h
    rw [property, e]
    exact value _ h.1
  | message type =>
    simp only [e, Exposure.types, List.forall_mem_cons] at h
    rw [property, e]
    exact value _ (oneLine_objectOf h.1)

end ExposedField

end ProtoTypings
