import ProtoTypings.Proofs.Indentation
import ProtoTypings.Proofs.ObjectView
import ProtoTypings.Proofs.ReadAlike

/-!
# Proofs.MemberNames

Which fields and oneofs of a message have members of the same name in its class. An accessor is
named by a verb and by the field, with an ending for a list or a map. A list `item` is named as if
it were spelled `item_list`, so it has the same getter as a field of that name, and the cases of a
oneof `size` have that of a field `size_case`. Two of them share members just if their spellings
read alike.

* `IsAccessorName`, `IsAccessorName.whole_eq` — the names of accessors, and what two of the same
  name are about.
* `ExposedField.spelling`, `caseSpelling` — how fields and oneofs are spelled.
* `MemberSource` — a field or a oneof with its members; `MemberSource.shares_iff`.
* `ExposedField.key_eq_iff` — which keys of the plain object are the same.
* `Message.members_named` — the names in the class and in the plain object of a message.
-/

namespace ProtoTypings
namespace TypeScript

def Member.name : Member → String
  | .method _ name _ _ => name
  | .property _ name _ => name

/-- What the names of accessors end in: nothing, or the form in which bytes are given. -/
def accessorForms : List String := ["", "_asU8", "_asB64"]

/-- A name that an accessor of `whole` may have. Items are added to a list by the name of one. -/
def IsAccessorName (whole name : String) : Prop :=
  ∃ verb ∈ verbs, ∃ stem, ∃ form ∈ accessorForms, name = verb ++ stem ++ form ∧
    whole = stem ++ if verb = "add" then "List" else ""

/-- The verb of an accessor is known from its first character. -/
theorem verb_eq {verb verb' : String} (hv : verb ∈ verbs) (hv' : verb' ∈ verbs) {s t : List Char}
    (h : verb.toList ++ s = verb'.toList ++ t) : verb = verb' := by
  have nonempty : ∀ v ∈ verbs, v.toList ≠ [] := by decide
  have apart : ∀ v ∈ verbs, ∀ w ∈ verbs, v.toList.head? = w.toList.head? → v = w := by decide
  refine apart verb hv verb' hv' ?_
  have := congrArg List.head? h
  rwa [List.head?_append_of_ne_nil _ (nonempty verb hv),
    List.head?_append_of_ne_nil _ (nonempty verb' hv')] at this

/-- Up to its first underscore, the name of an accessor is the verb and what follows it. -/
theorem takeWhile_accessorName {verb stem form : String} (hv : verb ∈ verbs)
    (hf : form ∈ accessorForms) (plain : '_' ∉ stem.toList) :
    (verb ++ stem ++ form).toList.takeWhile (· ≠ '_') = verb.toList ++ stem.toList := by
  have inVerb : ∀ v ∈ verbs, '_' ∉ v.toList := by decide
  have inForm : ∀ f ∈ accessorForms, f.toList.takeWhile (· ≠ '_') = [] := by decide
  have front : ∀ c ∈ verb.toList ++ stem.toList, decide (c ≠ '_') = true := by
    intro c hc
    rw [decide_eq_true_iff]
    rintro rfl
    exact (List.mem_append.1 hc).elim (inVerb verb hv) plain
  rw [String.toList_append, String.toList_append, List.takeWhile_append_of_pos front,
    inForm form hf, List.append_nil]

theorem isAccessorName_getter (whole : String) {form : String} (hf : form ∈ accessorForms) :
    IsAccessorName whole ("get" ++ (whole ++ form)) :=
  ⟨"get", by decide, whole, form, hf, by rw [String.append_assoc], by simp⟩

theorem isAccessorName_verb (verb whole : String) (hv : verb ∈ verbs) (other : verb ≠ "add") :
    IsAccessorName whole (verb ++ whole) :=
  ⟨verb, hv, whole, "", by decide, by simp, by simp [other]⟩

theorem isAccessorName_adder (item : String) : IsAccessorName (item ++ "List") ("add" ++ item) :=
  ⟨"add", by decide, item, "", by decide, by simp, by simp⟩

/-- Accessors of the same name are of the same, if that has no underscore in it. -/
theorem IsAccessorName.whole_eq {whole whole' name : String} (h : IsAccessorName whole name)
    (h' : IsAccessorName whole' name) (plain : '_' ∉ whole.toList) (plain' : '_' ∉ whole'.toList) :
    whole = whole' := by
  obtain ⟨verb, hv, stem, form, hf, rfl, rfl⟩ := h
  obtain ⟨verb', hv', stem', form', hf', same, rfl⟩ := h'
  rw [String.toList_append, List.mem_append, not_or] at plain plain'
  have front := takeWhile_accessorName hv hf plain.1
  rw [same, takeWhile_accessorName hv' hf' plain'.1] at front
  obtain rfl := verb_eq hv' hv front
  rw [String.toList_inj.1 (List.append_cancel_left front)]

end TypeScript

open TypeScript Casing Proto

/-! ## Fields -/

namespace ExposedField

/-- The name of a field as its accessors have it, with the ending for all that it holds. -/
def whole (e : ExposedField) : String :=
  e.field.pascalName ++ viewSuffix e.exposure.isMap e.field

/-- The name by which all that a field holds is named: that of a map goes on with `_map`, that of a
list with `_list`. -/
def spelling (e : ExposedField) : String :=
  e.field.name ++ if e.exposure.isMap then "_map" else if e.field.isRepeated then "_list" else ""

/-- An ending is one more word of the spelling. -/
theorem spelling_eq (e : ExposedField) :
    (e.spelling = e.field.name ∧ viewSuffix e.exposure.isMap e.field = "") ∨
      ∃ word, e.spelling = e.field.name ++ ("_" ++ word) ∧
        viewSuffix e.exposure.isMap e.field = inUpperCamel word := by
  have map : "Map" = inUpperCamel "map" := by decide
  have list : "List" = inUpperCamel "list" := by decide
  unfold spelling viewSuffix
  cases e.exposure.isMap with
  | true => exact .inr ⟨"map", rfl, map⟩
  | false =>
    cases e.field.isRepeated with
    | true => exact .inr ⟨"list", rfl, list⟩
    | false => exact .inl ⟨String.append_empty, rfl⟩

theorem accessorName_bytes (e : ExposedField) :
    ∀ x ∈ e.bytesAccessors, IsAccessorName (e.field.pascalName ++ e.listSuffix) x.name := by
  intro x hx
  simp only [bytesAccessors, List.mem_append, List.mem_cons, List.not_mem_nil, or_false] at hx
  rcases hx with (rfl | rfl | rfl | rfl) | hx
  · exact isAccessorName_verb "get" _ (by decide) (by decide)
  · exact isAccessorName_getter _ (by decide)
  · exact isAccessorName_getter _ (by decide)
  · exact isAccessorName_verb "set" _ (by decide) (by decide)
  · split at hx
    · rename_i list
      rw [List.mem_singleton] at hx
      rw [hx, listSuffix, if_pos list]
      exact isAccessorName_adder _
    · cases hx

theorem accessorName_values (e : ExposedField) (value : TypeExpr) (mayOmit : Bool) :
    ∀ x ∈ e.valueAccessors value mayOmit,
      IsAccessorName (e.field.pascalName ++ e.listSuffix) x.name := by
  have getter := isAccessorName_verb "get" (e.field.pascalName ++ e.listSuffix)
    (by decide) (by decide)
  have setter := isAccessorName_verb "set" (e.field.pascalName ++ e.listSuffix)
    (by decide) (by decide)
  intro x hx
  rw [valueAccessors] at hx
  split at hx
  · rename_i list
    simp only [List.mem_cons, List.not_mem_nil, or_false] at hx
    rcases hx with rfl | rfl | rfl
    · exact getter
    · exact setter
    · rw [listSuffix, if_pos list]
      exact isAccessorName_adder _
  · simp only [List.mem_cons, List.not_mem_nil, or_false] at hx
    rcases hx with rfl | rfl
    · exact getter
    · exact setter

/-- What can be asked for is no list, so its name has no ending. -/
theorem accessorName_presence (e : ExposedField) (unlisted : e.hasPresence → ¬ e.field.isRepeated) :
    ∀ x ∈ e.presenceAccessors, IsAccessorName (e.field.pascalName ++ e.listSuffix) x.name := by
  intro x hx
  rcases List.mem_append.1 hx with hx | hx
  · split at hx
    · rename_i presence
      rw [List.mem_singleton] at hx
      rw [hx, listSuffix, if_neg (unlisted presence), String.append_empty]
      exact isAccessorName_verb "has" _ (by decide) (by decide)
    · cases hx
  · split at hx
    · rw [List.mem_singleton] at hx
      rw [hx]
      exact isAccessorName_verb "clear" _ (by decide) (by decide)
    · cases hx

theorem whole_of_map {e : ExposedField} {types : MapView} (h : e.exposure = .map types) :
    e.whole = e.field.pascalName ++ "Map" := by
  rw [whole, h]
  rfl

theorem whole_of_single {e : ExposedField} (h : e.exposure.isMap = false) :
    e.whole = e.field.pascalName ++ e.listSuffix := by
  rw [whole, h]
  rfl

theorem accessorName (e : ExposedField) (unlisted : e.hasPresence → ¬ e.field.isRepeated) :
    ∀ x ∈ e.accessors, IsAccessorName e.whole x.name := by
  intro x hx
  rw [accessors] at hx
  cases hk : e.exposure with
  | map types =>
    simp only [hk, mapAccessors, List.mem_cons, List.not_mem_nil, or_false] at hx
    rw [whole_of_map hk]
    rcases hx with rfl | rfl
    · exact isAccessorName_verb "get" _ (by decide) (by decide)
    · exact isAccessorName_verb "clear" _ (by decide) (by decide)
  | bytes =>
    simp only [hk, List.mem_append] at hx
    rw [whole_of_single (by rw [hk]; rfl)]
    exact hx.elim (e.accessorName_presence unlisted x) (e.accessorName_bytes x)
  | scalar type | enumeration type | message type =>
    simp only [hk, List.mem_append] at hx
    rw [whole_of_single (by rw [hk]; rfl)]
    exact hx.elim (e.accessorName_presence unlisted x) (e.accessorName_values _ _ x)

/-- Every field has a getter for all that it holds. -/
theorem exists_getter (e : ExposedField) : ∃ x ∈ e.accessors, x.name = "get" ++ e.whole := by
  have values (value : TypeExpr) (mayOmit : Bool) : ∃ x ∈ e.valueAccessors value mayOmit,
      x.name = "get" ++ (e.field.pascalName ++ e.listSuffix) := by
    unfold valueAccessors
    split <;> exact ⟨_, .head _, rfl⟩
  rw [accessors]
  cases hk : e.exposure with
  | map types =>
    rw [whole_of_map hk]
    exact ⟨_, .head _, rfl⟩
  | bytes =>
    rw [whole_of_single (by rw [hk]; rfl)]
    exact ⟨_, List.mem_append_right _ (.head _), rfl⟩
  | scalar type | enumeration type | message type =>
    rw [whole_of_single (by rw [hk]; rfl)]
    obtain ⟨x, hx, named⟩ := values type _
    exact ⟨x, List.mem_append_right _ hx, named⟩

theorem letters_spelling {e : ExposedField} (named : letters e.field.name ≠ []) :
    letters e.spelling ≠ [] := by
  rcases e.spelling_eq with ⟨same, -⟩ | ⟨word, same, -⟩
  · rwa [same]
  · rw [same, letters_append]
    exact List.append_ne_nil_of_left_ne_nil named _

theorem isUpper_of_viewSuffix {isMap : Bool} {f : Field} {c : Char} {rest : List Char}
    (h : (viewSuffix isMap f).toList = c :: rest) : c.isUpper := by
  unfold viewSuffix at h
  split at h
  · cases h
    rfl
  · split at h
    · cases h
      rfl
    · cases h

section Ascii

variable {e : ExposedField} (ascii : IsAscii e.field.name)
include ascii

theorem whole_eq : e.whole = inUpperCamel e.spelling := by
  rw [whole, Field.pascalName_eq ascii]
  rcases e.spelling_eq with ⟨same, none⟩ | ⟨word, same, ending⟩
  · rw [same, none, String.append_empty]
  · rw [same, ending, inUpperCamel_append]

/-- A key is the spelling in camel case. Where the name itself has no letters or digits, the ending
keeps its capital. -/
theorem key_eq : e.property.key =
    if letters e.field.name = [] then inUpperCamel e.spelling else inLowerCamel e.spelling := by
  rw [property_key, Field.camelName_eq ascii]
  split
  · rename_i blank
    rw [← whole_eq ascii, whole, Field.pascalName_eq ascii, inLowerCamel, inUpperCamel, blank]
    rfl
  · rename_i named
    rcases e.spelling_eq with ⟨same, none⟩ | ⟨word, same, ending⟩
    · rw [same, none, String.append_empty]
    · rw [same, ending, inLowerCamel_append named]

/-- The key of a field without letters or digits in its name begins with a capital, if it is not
empty, and that of any other field begins with none. -/
theorem key_ne_key {f : ExposedField} (ascii' : IsAscii f.field.name)
    (blank : letters e.field.name = []) (named : letters f.field.name ≠ []) :
    e.property.key ≠ f.property.key := by
  intro same
  obtain ⟨c, rest, start, small⟩ := inLowerCamel_head (letters_spelling named)
  have empty : e.field.camelName = "" := by
    rw [Field.camelName_eq ascii, inLowerCamel, blank]
    rfl
  rw [property_key, empty, String.empty_append, key_eq ascii', if_neg named] at same
  rw [← same] at start
  rw [isUpper_of_viewSuffix start] at small
  cases small

theorem key_eq_iff {f : ExposedField} (ascii' : IsAscii f.field.name) :
    e.property.key = f.property.key ↔ ReadAlike e.spelling f.spelling ∧
      (letters e.field.name = [] ↔ letters f.field.name = []) := by
  by_cases blank : letters e.field.name = [] <;> by_cases blank' : letters f.field.name = []
  · simp [key_eq ascii, key_eq ascii', blank, blank', inUpperCamel_inj]
  · simp [key_ne_key ascii ascii' blank blank', blank, blank']
  · simp [(key_ne_key ascii' ascii blank' blank).symm, blank, blank']
  · simp [key_eq ascii, key_eq ascii', blank, blank', inLowerCamel_inj]

end Ascii

end ExposedField

/-! ## Fields and oneofs -/

/-- What members of a class are made for, a field or a oneof: its spelling and the members. -/
structure MemberSource where
  spelling : String
  members : List Member

namespace MemberSource

/-- A member of one has the name of a member of the other. -/
def Shares (a b : MemberSource) : Prop := ∃ x ∈ a.members, ∃ y ∈ b.members, x.name = y.name

instance (a b : MemberSource) : Decidable (a.Shares b) :=
  inferInstanceAs (Decidable (∃ x ∈ a.members, _))

/-- All members are named as accessors of the spelling in camel case, and one of them is a getter.
-/
structure Spelled (a : MemberSource) : Prop where
  accessors : ∀ x ∈ a.members, IsAccessorName (inUpperCamel a.spelling) x.name
  getter : ∃ x ∈ a.members, x.name = "get" ++ inUpperCamel a.spelling

theorem shares_iff {a b : MemberSource} (ha : a.Spelled) (hb : b.Spelled) :
    a.Shares b ↔ ReadAlike a.spelling b.spelling := by
  have plain (name : String) : '_' ∉ (inUpperCamel name).toList := fun h =>
    absurd (isAlphanum_of_mem_inUpperCamel h) (by decide)
  rw [← inUpperCamel_inj]
  constructor
  · rintro ⟨x, hx, y, hy, same⟩
    exact (ha.accessors x hx).whole_eq (same ▸ hb.accessors y hy) (plain _) (plain _)
  · intro same
    obtain ⟨x, hx, named⟩ := ha.getter
    obtain ⟨y, hy, named'⟩ := hb.getter
    exact ⟨x, hx, y, hy, by rw [named, named', same]⟩

end MemberSource

def ExposedField.source (e : ExposedField) : MemberSource := ⟨e.spelling, e.accessors⟩

theorem ExposedField.accessorName_of_expose {s : Scope} {f : Field} {e : ExposedField}
    (h : s.expose f = .ok e) : ∀ x ∈ e.accessors, IsAccessorName e.whole x.name := by
  obtain ⟨rfl, -, presence⟩ := Scope.expose_eq_ok.1 h
  refine e.accessorName ?_
  rw [presence, Scope.hasPresence]
  simp only [Bool.and_eq_true, Bool.not_eq_true', ← Bool.not_eq_true]
  exact And.left

theorem ExposedField.spelled {s : Scope} {f : Field} {e : ExposedField} (h : s.expose f = .ok e)
    (ascii : IsAscii f.name) : e.source.Spelled := by
  have names := e.accessorName_of_expose h
  obtain ⟨rfl, -, -⟩ := Scope.expose_eq_ok.1 h
  constructor
  · intro x hx
    rw [source, ← e.whole_eq ascii]
    exact names x hx
  · obtain ⟨x, hx, named⟩ := e.exists_getter
    exact ⟨x, hx, by rw [named, source, e.whole_eq ascii]⟩

namespace Proto

def Message.caseSource (m : Message) (oneof : String) : MemberSource :=
  ⟨caseSpelling oneof, [m.caseGetter oneof]⟩

theorem Message.spelled_caseSource (m : Message) {oneof : String} (ascii : IsAscii oneof) :
    (m.caseSource oneof).Spelled := by
  have named : (m.caseGetter oneof).name = "get" ++ inUpperCamel (caseSpelling oneof) := by
    rw [← caseName_eq ascii]
    rfl
  refine ⟨fun x hx => ?_, _, .head _, named⟩
  rw [List.mem_singleton.1 hx, named]
  exact isAccessorName_verb "get" _ (by decide) (by decide)

/-- The fields and the oneofs of a message with their members. -/
def Message.memberSources (m : Message) (exposed : List ExposedField) : List MemberSource :=
  exposed.map (·.source) ++ m.oneofs.map m.caseSource

/-- How the members of the class of a message and the keys of its plain object are named. Apart from
what every class has, each member is made for a field or for a oneof. Two of these have members of
the same name just if their spellings read alike. Two fields have the same key just if, on top of
that, both or none of their names have letters or digits. -/
structure Message.Named (m : Message) (exposed : List ExposedField) : Prop where
  members : m.members exposed =
    (m.memberSources exposed).flatMap (·.members) ++ messageMembers m.name
  shared : (m.memberSources exposed).Pairwise fun a b =>
    a.Shares b ↔ ReadAlike a.spelling b.spelling
  keys : exposed.Pairwise fun e f => e.property.key = f.property.key ↔
    ReadAlike e.spelling f.spelling ∧ (letters e.field.name = [] ↔ letters f.field.name = [])

theorem Message.named {s : Scope} {m : Message} {exposed : List ExposedField}
    (he : each s.expose m.fields = .ok exposed) (fields : ∀ f ∈ m.fields, IsAscii f.name)
    (oneofs : ∀ o ∈ m.oneofs, IsAscii o) : m.Named exposed where
  members := by
    rw [Message.members, memberSources, List.flatMap_append, List.flatMap_map, List.flatMap_map]
    congr 2
    exact List.map_eq_flatMap
  shared := by
    have spelled : ∀ a ∈ m.memberSources exposed, a.Spelled := by
      intro a ha
      rcases List.mem_append.1 ha with ha | ha
      · obtain ⟨e, hmem, rfl⟩ := List.mem_map.1 ha
        obtain ⟨f, hf, ok⟩ := exists_of_mem_each he hmem
        exact e.spelled ok (fields f hf)
      · obtain ⟨o, ho, rfl⟩ := List.mem_map.1 ha
        exact m.spelled_caseSource (oneofs o ho)
    exact List.pairwise_of_forall_mem_list fun a ha b hb =>
      MemberSource.shares_iff (spelled a ha) (spelled b hb)
  keys := by
    have ascii : ∀ e ∈ exposed, IsAscii e.field.name := by
      intro e hmem
      obtain ⟨f, hf, ok⟩ := exists_of_mem_each he hmem
      rw [(Scope.expose_eq_ok.1 ok).1]
      exact fields f hf
    exact List.pairwise_of_forall_mem_list fun e he f hf =>
      ExposedField.key_eq_iff (ascii e he) (ascii f hf)

/-- Take a message whose text can be given and whose fields and oneofs have names in ASCII. It is a
map entry and there is no text, or the text is that of its class and its namespace, and the members
and keys in these are named as said. -/
theorem Message.members_named {s : Scope} {m : Message} {depth : Nat} {text : String}
    (h : m.text s depth = .ok text) (fields : ∀ f ∈ m.fields, IsAscii f.name)
    (oneofs : ∀ o ∈ m.oneofs, IsAscii o) :
    (m.isMapEntry ∧ text = "") ∨ ∃ exposed inner, m.WrittenAs s exposed inner depth text ∧
      m.Named exposed := by
  rcases Message.text_eq_ok.1 h with empty | ⟨-, exposed, inner, written⟩
  · exact .inl empty
  · exact .inr ⟨exposed, inner, written, Message.named written.exposes fields oneofs⟩

end Proto

namespace Sample

/-- A message with a list and a field that reads like it, and with a oneof and a field that reads
like its cases. -/
def crate : Message :=
  { name := "Crate", isMapEntry := false,
    fields := [
      { Field.plain "item" 1 (.scalar .int32) with label := .repeated },
      .plain "item_list" 2 (.scalar .int32),
      { Field.plain "large" 3 (.scalar .bool) with oneofIndex := some 0 },
      .plain "size_case" 4 (.scalar .string)],
    oneofs := ["size"], nested := [], enums := [] }

def crateFile : File :=
  { name := "crate.proto", package := none, dialect := .proto3, dependencies := [],
    messages := [crate], enums := [], extensions := [] }

def crateScope : Scope := ⟨.ofFiles [crateFile], crateFile⟩

end Sample

open Sample in
theorem sample_members_named : ∃ text exposed inner,
    crate.text crateScope 0 = .ok text ∧ (∀ f ∈ crate.fields, IsAscii f.name) ∧
      (∀ o ∈ crate.oneofs, IsAscii o) ∧ crate.WrittenAs crateScope exposed inner 0 text ∧
      crate.Named exposed := by
  obtain ⟨text, h⟩ : ∃ text, crate.text crateScope 0 = .ok text := ⟨_, rfl⟩
  have fields : ∀ f ∈ crate.fields, IsAscii f.name := by decide +kernel
  have oneofs : ∀ o ∈ crate.oneofs, IsAscii o := by decide +kernel
  rcases Message.members_named h fields oneofs with ⟨hm, -⟩ | ⟨exposed, inner, written, named⟩
  · cases hm
  · exact ⟨text, exposed, inner, h, fields, oneofs, written, named⟩

open Sample in
/-- Distinct names are not enough. The list and the field that reads like it have the same getter
and the same key, the cases and the field that reads like them the same getter. -/
theorem members_clash : ∃ text exposed inner,
    crate.text crateScope 0 = .ok text ∧ crate.WrittenAs crateScope exposed inner 0 text ∧
      (crate.fields.map (·.name) ++ crate.oneofs).Nodup ∧
      (∃ items item large sizeCase size, crate.memberSources exposed =
        [items, item, large, sizeCase, size] ∧ items.Shares item ∧ sizeCase.Shares size) ∧
      ¬ (exposed.map (·.property.key)).Nodup := by
  refine ⟨_, _, [], rfl, ⟨rfl, rfl, rfl⟩, by decide, ⟨_, _, _, _, _, rfl, ?_, ?_⟩, ?_⟩
  · decide +kernel
  · decide +kernel
  · decide +kernel

end ProtoTypings
