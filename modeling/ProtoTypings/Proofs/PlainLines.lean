import ProtoTypings.Proofs.CaseImage
import ProtoTypings.Proofs.Outline
import ProtoTypings.Surface.File

/-!
# Proofs.PlainLines

The lines of typings that neither begin nor end a declaration: members, properties, entries,
comments, imports and constants. Reading the outline of a text passes over them, whatever the names
in them are.

* `Silent` — a text that has no mark at any depth.
* `lineMarks_blockLines` — a block around such texts is a heading and its closing brace.
* `silent_member`, `silent_property`, `silent_entry` — the texts inside blocks.
-/

namespace ProtoTypings
namespace TypeScript

/-! ## Reading an indented text -/

theorem dropWhile_indented (n : Nat) (s : List Char) :
    (List.replicate n ' ' ++ s).dropWhile (· == ' ') = s.dropWhile (· == ' ') := by
  rw [List.dropWhile_append_of_pos]
  intro c hc
  simp [List.eq_of_mem_replicate hc]

/-- A text without a mark at any depth. -/
def Silent (s : List Char) : Prop :=
  ∀ depth, Mark.ofLine? (List.replicate (2 * depth) ' ' ++ s) = none

theorem headingOf?_eq_none {s : List Char} (h : ¬ "export ".toList <+: s) :
    headingOf? s = none := by
  have none_of : ∀ start : List Char, "export ".toList <+: start →
      Text.dropPrefix? start s = none := by
    intro start hs
    cases hd : Text.dropPrefix? start s with
    | none => rfl
    | some rest =>
      rw [Text.dropPrefix?_eq_some_iff] at hd
      exact absurd (hs.trans ⟨rest, hd.symm⟩) h
  have class_ := none_of "export class ".toList (by decide)
  have namespace_ := none_of "export namespace ".toList (by decide)
  have object_ := none_of "export type AsObject".toList (by decide)
  have enum_ := none_of "export enum ".toList (by decide)
  simp only [headingOf?, class_, namespace_, object_, enum_]
  rfl

theorem silent_of_dropWhile {s : List Char} (brace : s.dropWhile (· == ' ') ≠ ['\x7d'])
    (heading : headingOf? (s.dropWhile (· == ' ')) = none) : Silent s := by
  intro depth
  simp only [Mark.ofLine?, dropWhile_indented, if_neg brace, heading]
  rfl

/-- A text whose first character is none that a heading or a closing brace begins with. -/
def StartsPlain (s : List Char) : Prop :=
  ∃ c, s.head? = some c ∧ c ≠ ' ' ∧ c ≠ '\x7d' ∧ c ≠ 'e'

theorem StartsPlain.silent {s : List Char} (h : StartsPlain s) : Silent s := by
  obtain ⟨c, head, space, brace, e⟩ := h
  obtain ⟨rest, rfl⟩ := List.head?_eq_some_iff.1 head
  have drop : (c :: rest).dropWhile (· == ' ') = c :: rest := by simp [space]
  apply silent_of_dropWhile
  · rw [drop]
    simp [brace]
  · rw [drop]
    apply headingOf?_eq_none
    intro hp
    simp only [String.reduceToList, List.cons_prefix_cons] at hp
    exact e hp.1.symm

theorem StartsPlain.append {s : List Char} (h : StartsPlain s) (t : List Char) :
    StartsPlain (s ++ t) := by
  obtain ⟨c, head, hc⟩ := h
  exact ⟨c, by simp [head], hc⟩

/-! ## Headings and blocks -/

theorem ofLine?_heading {s : List Char} {kind : HeadingKind} {name : String}
    (h : headingOf? s = some (kind, name)) (depth : Nat) :
    Mark.ofLine? (List.replicate (2 * depth) ' ' ++ s) = some (.opens ⟨2 * depth, kind, name⟩) := by
  by_cases start : "export ".toList <+: s
  · obtain ⟨rest, rfl⟩ := start
    simp [Mark.ofLine?] at h ⊢
    simp [h]
  · rw [headingOf?_eq_none start] at h
    cases h

theorem ofLine?_brace (depth : Nat) :
    Mark.ofLine? (List.replicate (2 * depth) ' ' ++ ['\x7d']) = some (.closes (2 * depth)) := by
  simp [Mark.ofLine?]

theorem lineMarks_code (depth : Nat) (text : String) (ls : List Line) :
    lineMarks (.code depth text :: ls) =
      (Mark.ofLine? (List.replicate (2 * depth) ' ' ++ text.toList)).toList ++ lineMarks ls := by
  cases h : Mark.ofLine? (List.replicate (2 * depth) ' ' ++ text.toList) <;>
    simp [lineMarks, Line.chars, h]

theorem lineMarks_silent {depth : Nat} {texts : List String}
    (h : ∀ t ∈ texts, Silent t.toList) : lineMarks (texts.map (.code depth)) = [] := by
  induction texts with
  | nil => rfl
  | cons t texts ih =>
    rw [List.map_cons, lineMarks_code, h t (by simp) depth,
      ih fun u hu => h u (List.mem_cons_of_mem _ hu)]
    rfl

theorem lineMarks_blockLines {depth : Nat} {opening : String} {texts : List String}
    {kind : HeadingKind} {name : String} (ho : headingOf? opening.toList = some (kind, name))
    (ht : ∀ t ∈ texts, Silent t.toList) :
    lineMarks (blockLines depth opening texts) =
      [.opens ⟨2 * depth, kind, name⟩, .closes (2 * depth)] := by
  rw [blockLines, List.cons_append, lineMarks_code, ofLine?_heading ho, lineMarks_append,
    lineMarks_silent ht, lineMarks_code]
  simp [ofLine?_brace, lineMarks]

theorem firstWord_append {name : String} (h : ' ' ∉ name.toList) (rest : List Char) :
    firstWord (name.toList ++ ' ' :: rest) = name := by
  have stop : (name.toList ++ ' ' :: rest).takeWhile (· != ' ') = name.toList := by
    rw [List.takeWhile_append_of_pos]
    · simp
    · intro c hc
      rw [bne_iff_ne]
      rintro rfl
      exact h hc
  rw [firstWord, stop, String.ofList_toList]

/-- The kinds of headings that carry a name, with the words that stand before it. -/
def namedHeadings : List (HeadingKind × String) :=
  [(.classDecl, "export class "), (.namespaceDecl, "export namespace "),
    (.enumDecl, "export enum ")]

theorem headingOf?_named (kind : HeadingKind) (start : String)
    (hk : (kind, start) ∈ namedHeadings) {name : String} (h : ' ' ∉ name.toList)
    (rest : List Char) :
    headingOf? (start.toList ++ (name.toList ++ ' ' :: rest)) = some (kind, name) := by
  simp only [namedHeadings, List.mem_cons, Prod.mk.injEq, List.not_mem_nil, or_false] at hk
  rcases hk with ⟨rfl, rfl⟩ | ⟨rfl, rfl⟩ | ⟨rfl, rfl⟩ <;>
    simp [headingOf?, Text.dropPrefix?, firstWord_append h]

/-! ## Members -/

theorem startsPlain_method {isStatic : Bool} {name : String} (ps : List Parameter)
    (result : TypeExpr) (h : isStatic = true ∨ StartsPlain name.toList) :
    StartsPlain (Member.method isStatic name ps result).render.toList := by
  rcases h with rfl | h
  · exact ⟨'s', by simp [Member.render, staticMark], by decide⟩
  · cases isStatic with
    | true => exact ⟨'s', by simp [Member.render, staticMark], by decide⟩
    | false =>
      simp only [Member.render, staticMark, String.toList_append]
      simpa using h.append _

theorem startsPlain_property (name : String) (type : TypeExpr) :
    StartsPlain (Member.property true name type).render.toList :=
  ⟨'s', by simp [Member.render, staticMark], by decide⟩

theorem startsPlain_call {verb : String} (h : StartsPlain verb.toList) (name : String)
    (ps : List Parameter) (result : TypeExpr) :
    StartsPlain (Member.call (verb ++ name) ps result).render.toList := by
  refine startsPlain_method ps result (.inr ?_)
  rw [String.toList_append]
  exact h.append _

/-! ## Properties, entries and constants -/

/-- A word and a colon or question mark after it begin no heading: a heading begins with a word that
a space ends. -/
theorem silent_word {word : List Char} (hw : ' ' ∉ word) {c : Char} (hc : c = ':' ∨ c = '?')
    (rest : List Char) : Silent (word ++ c :: rest) := by
  have space : c ≠ ' ' := by rcases hc with rfl | rfl <;> decide
  have drop : (word ++ c :: rest).dropWhile (· == ' ') = word ++ c :: rest := by
    cases word with
    | nil => simp [space]
    | cons a word =>
      have ha : a ≠ ' ' := by
        rintro rfl
        exact hw (by simp)
      simp [ha]
  apply silent_of_dropWhile
  · rw [drop]
    intro e
    cases word with
    | nil => rcases hc with rfl | rfl <;> simp at e
    | cons a word => simp at e
  · rw [drop]
    apply headingOf?_eq_none
    -- A heading's first word ends before a space, so it would hold the colon or question mark.
    rintro ⟨r, e⟩
    have stop : (word ++ c :: rest).takeWhile (· != ' ') =
        word ++ c :: rest.takeWhile (· != ' ') := by
      rw [List.takeWhile_append_of_pos]
      · simp [space]
      · intro a ha
        rw [bne_iff_ne]
        rintro rfl
        exact hw ha
    have hm : c ∈ ("export ".toList ++ r).takeWhile (· != ' ') := by
      rw [e, stop]
      simp
    have : c ∈ "export".toList := by simpa using hm
    rcases hc with rfl | rfl <;> revert this <;> decide

theorem silent_property {p : Property} (h : ' ' ∉ p.key.toList) : Silent p.render.toList := by
  cases hp : p.isOptional with
  | true => simpa [Property.render, hp] using silent_word h (.inr rfl) _
  | false => simpa [Property.render, hp] using silent_word h (.inl rfl) _

/-- An entry has a mark at no depth, since no name in upper case begins with a small letter. -/
theorem silent_entry {e : EnumEntry} (h : 'e' ∉ e.name.toList) : Silent e.render.toList := by
  have text : e.render.toList =
      e.name.toList ++ ' ' :: '=' :: ' ' :: ((toString e.number.toInt).toList ++ [',']) := by
    simp [EnumEntry.render]
  rw [text]
  cases hd : e.name.toList.dropWhile (· == ' ') with
  | nil =>
    apply silent_of_dropWhile <;> rw [List.dropWhile_append, hd]
    · simp
    · exact headingOf?_eq_none (by simp)
  | cons c w =>
    have hc : c ≠ 'e' := by
      rintro rfl
      exact h ((List.dropWhile_sublist _).subset (by rw [hd]; simp))
    apply silent_of_dropWhile <;> rw [List.dropWhile_append, hd]
    · simp
    · exact headingOf?_eq_none (by simp [hc.symm])

theorem silent_const (name : String) (type : TypeExpr) :
    Silent ("export const " ++ name ++ ": " ++ type.render ++ ";").toList := by
  apply silent_of_dropWhile <;> simp [headingOf?, Text.dropPrefix?]

end TypeScript

open TypeScript

namespace ExposedField

/-- What holds of every getter, setter and adder holds of the accessors of bytes. -/
theorem forall_bytesAccessors {P : Member → Prop} (f : ExposedField)
    (getter : ∀ name type, P (.getter name type))
    (setter : ∀ name mayOmit type, P (.setter name mayOmit type))
    (adder : ∀ name mayOmit item, P (.adder name mayOmit item)) : ∀ m ∈ f.bytesAccessors, P m := by
  intro m hm
  simp only [bytesAccessors, List.mem_append, List.mem_cons, List.not_mem_nil, or_false] at hm
  rcases hm with (rfl | rfl | rfl | rfl) | hm
  · exact getter _ _
  · exact getter _ _
  · exact getter _ _
  · exact setter _ _ _
  · split at hm <;> simp at hm
    subst hm
    exact adder _ _ _

/-- What holds of every getter, setter and adder holds of the accessors of values. -/
theorem forall_valueAccessors {P : Member → Prop} (f : ExposedField) (value : TypeExpr)
    (mayOmit : Bool) (getter : ∀ name type, P (.getter name type))
    (setter : ∀ name mayOmit type, P (.setter name mayOmit type))
    (adder : ∀ name mayOmit item, P (.adder name mayOmit item)) :
    ∀ m ∈ f.valueAccessors value mayOmit, P m := by
  intro m hm
  unfold valueAccessors at hm
  split at hm <;> simp only [List.mem_cons, List.not_mem_nil, or_false] at hm
  · rcases hm with rfl | rfl | rfl
    · exact getter _ _
    · exact setter _ _ _
    · exact adder _ _ _
  · rcases hm with rfl | rfl
    · exact getter _ _
    · exact setter _ _ _

/-- What holds of every kind of accessor holds of all accessors of a field. -/
theorem forall_accessors {P : Member → Prop} (f : ExposedField)
    (getter : ∀ name type, P (.getter name type))
    (setter : ∀ name mayOmit type, P (.setter name mayOmit type))
    (adder : ∀ name mayOmit item, P (.adder name mayOmit item))
    (presence : ∀ name, P (.presence name)) (clearer : ∀ name, P (.clearer name)) :
    ∀ m ∈ f.accessors, P m := by
  have presenceAccessors : ∀ m ∈ f.presenceAccessors, P m := by
    intro m hm
    simp only [ExposedField.presenceAccessors, List.mem_append] at hm
    rcases hm with hm | hm <;> split at hm <;> simp at hm <;> subst hm
    · exact presence _
    · exact clearer _
  intro m hm
  unfold accessors at hm
  split at hm
  · simp only [mapAccessors, List.mem_cons, List.not_mem_nil, or_false] at hm
    rcases hm with rfl | rfl
    · exact getter _ _
    · exact clearer _
  · exact (List.mem_append.1 hm).elim (presenceAccessors m)
      (f.forall_bytesAccessors getter setter adder m)
  all_goals
    exact (List.mem_append.1 hm).elim (presenceAccessors m)
      (f.forall_valueAccessors _ _ getter setter adder m)

end ExposedField

namespace Proto

theorem Message.silent_members (m : Message) (fields : List ExposedField) :
    ∀ t ∈ (m.members fields).map Member.render, Silent t.toList := by
  intro t ht
  obtain ⟨member, hm, rfl⟩ := List.mem_map.1 ht
  refine StartsPlain.silent ?_
  have getter : ∀ name type, StartsPlain (Member.getter name type).render.toList := fun name type =>
    startsPlain_call ⟨'g', rfl, by decide⟩ name [] type
  simp only [Message.members, List.mem_append] at hm
  rcases hm with (hm | hm) | hm
  · obtain ⟨f, -, hm⟩ := List.mem_flatMap.1 hm
    refine f.forall_accessors (P := fun member => StartsPlain member.render.toList) getter
      ?_ ?_ ?_ ?_ member hm
    · exact fun name _ _ => startsPlain_call ⟨'s', rfl, by decide⟩ name _ _
    · exact fun name _ _ => startsPlain_call ⟨'a', rfl, by decide⟩ name _ _
    · exact fun name => startsPlain_call ⟨'h', rfl, by decide⟩ name _ _
    · exact fun name => startsPlain_call ⟨'c', rfl, by decide⟩ name _ _
  · obtain ⟨oneof, -, rfl⟩ := List.mem_map.1 hm
    exact getter _ _
  · simp only [messageMembers, List.mem_cons, List.not_mem_nil, or_false] at hm
    rcases hm with rfl | rfl | rfl | rfl | rfl | rfl | rfl | rfl
    · exact startsPlain_method _ _ (.inr ⟨'s', rfl, by decide⟩)
    · exact startsPlain_method _ _ (.inr ⟨'t', rfl, by decide⟩)
    · exact startsPlain_method _ _ (.inl rfl)
    · exact startsPlain_property _ _
    · exact startsPlain_property _ _
    · exact startsPlain_method _ _ (.inl rfl)
    · exact startsPlain_method _ _ (.inl rfl)
    · exact startsPlain_method _ _ (.inl rfl)

theorem not_mem_constantName (name : String) : 'e' ∉ (constantName name).toList := by
  intro h
  rw [constantName, String.toList_ofList] at h
  have := Unicode.isLower_of_mem_uppercased h (by decide)
  revert this
  decide

/-- No ASCII character but letters and digits is in a field's name in camel case. -/
theorem Field.not_mem_camelName (f : Field) {x : Char} (ascii : x.toNat < 128)
    (hx : x.isAlphanum = false) : x ∉ f.camelName.toList := by
  intro h
  rw [camelName, String.toList_ofList] at h
  simp [Casing.isAlphanum_of_mem_lowerCamel h ascii] at hx

theorem not_mem_caseName (oneof : String) {x : Char} (ascii : x.toNat < 128)
    (hx : x.isAlphanum = false) : x ∉ (caseName oneof).toList := by
  intro h
  simp only [caseName, String.toList_append, String.toList_ofList, List.mem_append] at h
  rcases h with h | h
  · simp [Casing.isAlphanum_of_mem_upperCamel h ascii] at hx
  · have : x ∈ ['C', 'a', 's', 'e'] := h
    simp only [List.mem_cons, List.not_mem_nil, or_false] at this
    rcases this with rfl | rfl | rfl | rfl <;> revert hx <;> decide

theorem Enum.silent_entries (e : Enum) :
    ∀ t ∈ e.declaration.entries.map EnumEntry.render, Silent t.toList := by
  intro t ht
  simp only [Enum.declaration, List.map_map, List.mem_map] at ht
  obtain ⟨v, -, rfl⟩ := ht
  exact silent_entry (not_mem_constantName v.name)

theorem Message.silent_cases (m : Message) (oneof : String) (index : Nat) :
    ∀ t ∈ (m.caseDeclaration oneof index).entries.map EnumEntry.render, Silent t.toList := by
  intro t ht
  simp only [Message.caseDeclaration, List.map_cons, List.map_map, List.mem_cons,
    List.mem_map] at ht
  rcases ht with rfl | ⟨f, -, rfl⟩
  · refine silent_entry ?_
    simp only [notSetEntry, String.toList_append, List.mem_append, not_or]
    exact ⟨not_mem_constantName oneof, by decide⟩
  · exact silent_entry (not_mem_constantName f.name)

end Proto

theorem ExposedField.silent_property (f : ExposedField) : Silent f.property.render.toList := by
  apply TypeScript.silent_property
  have camel : ' ' ∉ f.field.camelName.toList := f.field.not_mem_camelName (by decide) (by decide)
  have suffix : ' ' ∉ f.listSuffix.toList := by
    unfold listSuffix
    split <;> decide
  unfold property
  split <;> simp [valueProperty, camel, suffix]

end ProtoTypings
