import ProtoTypings.Proofs.NamedTypes
import ProtoTypings.Proofs.Presence

/-!
# Proofs.ObjectView

A message is declared twice over, as a class with accessors and as the type of plain objects. Both
are about the same fields: the class has a block of accessors for each, the object type has an
entry, in the same order, and the entry holds what the getter of the block gives.

* `FieldView` — the entry and the block of a field; `FieldView.Agrees` — how they belong together.
* `Corresponds` — the types of plain objects beside those of the getters.
* `ExposedField.linesFrom_get`, `ExposedField.length_linesFrom_set`,
  `ExposedField.length_linesFrom_add` — the getters, setters and adders of a block.
* `ExposedField.view_agrees` — what is written about a field agrees.
* `Message.object_agrees` — the lines of a message, field by field.
-/

namespace ProtoTypings

open Proto TypeScript

/-! ## Agreement -/

/-- A type inside plain objects: a message is held as its own plain object. -/
def objectText : FieldType → String → String
  | .message _, text => text ++ ".AsObject"
  | .scalar _, text | .enumeration _, text => text

/-- The ending of the names for all that a field holds. -/
def viewSuffix (isMap : Bool) (f : Field) : String :=
  if isMap then "Map" else if f.isRepeated then "List" else ""

/-- The type that the getter of a field gives, and the type of its entry in plain objects. The field
is a map or not as the scope `s` has it. -/
inductive Corresponds (s : Scope) (f : Field) : Bool → String → String → Prop where
  | map {entry : MapEntry} {types : MapView} :
      s.mapEntry f = .ok (some entry) → s.entryView entry = .ok types →
      Corresponds s f true ("jspb.Map<" ++ types.key.render ++ ", " ++ types.value.render ++ ">")
        ("Array<[" ++ objectText entry.key.type types.key.render ++ ", " ++
          objectText entry.value.type types.value.render ++ "]>")
  | list {item : String} : f.isRepeated = true →
      Corresponds s f false ("Array<" ++ item ++ ">") ("Array<" ++ objectText f.type item ++ ">")
  | single {value : String} : f.isRepeated = false →
      Corresponds s f false value (objectText f.type value)

/-- A type that says that there may be nothing. -/
def EndsUndefined (text : String) : Prop := " | undefined".toList <:+ text.toList

/-- What is written about a field: its entry in the object type and the block of its accessors. The
first getter of the block gives a value of the type `held`, or `undefined` if it may; the entry is
of the type `plain`. -/
structure FieldView where
  isMap : Bool
  mayBeUndefined : Bool
  held : String
  plain : String
  entry : String
  block : List String

/-- The type that the first getter is written with. -/
def FieldView.getterType (v : FieldView) : String :=
  v.held ++ if v.mayBeUndefined then " | undefined" else ""

def getterLine (name type : String) : String := "get" ++ name ++ "(): " ++ type ++ ";"

/-- An entry and a block that say the same of a field. -/
structure FieldView.Agrees (s : Scope) (f : Field) (v : FieldView) : Prop where
  map : s.isMap f = .ok v.isMap
  types : Corresponds s f v.isMap v.held v.plain
  entry : v.entry = f.camelName ++ viewSuffix v.isMap f ++ (if v.mayBeUndefined then "?" else "") ++
    ": " ++ v.plain ++ ","
  /-- There is one getter, and bytes have two more. -/
  getters : linesFrom "get" v.block =
    getterLine (f.pascalName ++ viewSuffix v.isMap f) v.getterType ::
      if f.isBytes then
        [getterLine (f.pascalName ++ viewSuffix v.isMap f ++ "_asU8")
            (if f.isRepeated then "Array<Uint8Array>" else "Uint8Array"),
          getterLine (f.pascalName ++ viewSuffix v.isMap f ++ "_asB64")
            (if f.isRepeated then "Array<string>" else "string")]
      else []
  /-- The mark of the entry is there just if the getter says that there may be nothing. -/
  marked : v.mayBeUndefined = true ↔ EndsUndefined v.getterType
  undefined : v.mayBeUndefined = true ↔
    v.isMap = false ∧ f.isMessage = true ∧ f.label = .optional
  setters : (linesFrom "set" v.block).length = if v.isMap then 0 else 1
  adders : (linesFrom "add" v.block).length = if v.isMap = false ∧ f.isRepeated then 1 else 0

/-! ## Lines of accessors -/

namespace TypeScript

/-- The words that accessors begin with. -/
def verbs : List String := ["has", "clear", "get", "set", "add"]

@[simp] theorem linesFrom_nil (word : String) : linesFrom word [] = [] := rfl

/-- Of the lines of accessors, those begin with a verb that are named by it. -/
theorem linesFrom_verb {word verb : String} (hw : word ∈ verbs) (hv : verb ∈ verbs) (name : String)
    (parameters : List Parameter) (result : TypeExpr) (lines : List String) :
    linesFrom word ((Member.call (verb ++ name) parameters result).render :: lines) =
      if word = verb then
        (Member.call (verb ++ name) parameters result).render :: linesFrom word lines
      else linesFrom word lines := by
  by_cases same : word = verb
  · have begins : word.toList <+: (Member.call (verb ++ name) parameters result).render.toList := by
      rw [← same, render_call, String.append_assoc, String.toList_append]
      exact List.prefix_append _ _
    rw [if_pos same, linesFrom, List.filter_cons_of_pos (by simpa using begins)]
    rfl
  · have other :
        ¬ word.toList <+: (Member.call (verb ++ name) parameters result).render.toList := by
      simp only [verbs, List.mem_cons, List.not_mem_nil, or_false] at hw hv
      rcases hw with rfl | rfl | rfl | rfl | rfl <;> rcases hv with rfl | rfl | rfl | rfl | rfl <;>
        first
          | exact absurd rfl same
          | exact not_prefix_call rfl rfl (by decide) name _ _
    rw [if_neg same, linesFrom, List.filter_cons_of_neg (by simpa using other)]
    rfl

theorem TypeExpr.render_union_undefined (t : TypeExpr) :
    (t.union .undefined).render = t.render ++ " | undefined" := by
  have parts : (t.union .undefined).render = t.render ++ " | " ++ "undefined" := rfl
  rw [parts, String.append_assoc]
  rfl

theorem TypeExpr.render_objectOf (message : TypeExpr) :
    (objectOf message).render = message.render ++ ".AsObject" := by
  have parts : (objectOf message).render = message.render ++ "." ++ "AsObject" := rfl
  rw [parts, String.append_assoc]
  rfl

theorem TypeExpr.render_qualified (qualifier path : String) :
    (declared (some qualifier) path).render = qualifier ++ "." ++ path := rfl

theorem TypeExpr.render_array (item : TypeExpr) :
    (array item).render = "Array<" ++ item.render ++ ">" := rfl

theorem TypeExpr.render_pair (first second : TypeExpr) :
    (pair first second).render = "[" ++ first.render ++ ", " ++ second.render ++ "]" := rfl

theorem render_getter (name : String) (type : TypeExpr) :
    (Member.getter name type).render = getterLine name type.render := by
  rw [Member.getter, render_call, getterLine]
  simp [String.append_assoc]

end TypeScript

namespace ExposedField

theorem linesFrom_presenceAccessors (e : ExposedField) (word : String)
    (hw : word ∈ ["get", "set", "add"]) :
    linesFrom word (e.presenceAccessors.map Member.render) = [] := by
  simp only [List.mem_cons, List.not_mem_nil, or_false] at hw
  rw [presenceAccessors, List.map_append, linesFrom_append]
  rcases hw with rfl | rfl | rfl <;> cases e.hasPresence <;> cases e.isClearable <;>
    simp (disch := decide) [Member.presence, Member.clearer, linesFrom_verb]

/-- The type that a getter gives where there is a value. -/
def heldType (e : ExposedField) : TypeExpr :=
  match e.exposure with
  | .map types => .map types.key types.value
  | .bytes => e.held .bytesOrText
  | .scalar type | .enumeration type | .message type => e.held type

/-- The entry of a field and the block of its accessors, as they are written. -/
def view (e : ExposedField) : FieldView :=
  { isMap := e.exposure.isMap
    mayBeUndefined := e.property.isOptional
    held := e.heldType.render
    plain := e.property.type.render
    entry := e.property.render
    block := e.accessors.map Member.render }

theorem length_linesFrom_set (e : ExposedField) :
    (linesFrom "set" e.view.block).length = if e.exposure.isMap then 0 else 1 := by
  have presence := e.linesFrom_presenceAccessors "set" (by decide)
  cases hx : e.exposure <;> cases hr : e.field.isRepeated <;>
    simp (disch := decide) [view, accessors, hx, linesFrom_append, presence, mapAccessors,
      bytesAccessors, valueAccessors, hr, Member.getter, Member.setter, Member.adder,
      Member.clearer, linesFrom_verb, Exposure.isMap]

theorem length_linesFrom_add (e : ExposedField) :
    (linesFrom "add" e.view.block).length =
      if e.exposure.isMap = false ∧ e.field.isRepeated then 1 else 0 := by
  have presence := e.linesFrom_presenceAccessors "add" (by decide)
  cases hx : e.exposure <;> cases hr : e.field.isRepeated <;>
    simp (disch := decide) [view, accessors, hx, linesFrom_append, presence, mapAccessors,
      bytesAccessors, valueAccessors, hr, Member.getter, Member.setter, Member.adder,
      Member.clearer, linesFrom_verb, Exposure.isMap]

/-- The type that the first getter of a block is written with. -/
def readType (e : ExposedField) : TypeExpr :=
  if e.property.isOptional then .union e.heldType .undefined else e.heldType

theorem render_readType (e : ExposedField) : e.readType.render = e.view.getterType := by
  have shown : e.view.getterType =
      e.heldType.render ++ if e.property.isOptional then " | undefined" else "" := rfl
  rw [shown, readType]
  cases e.property.isOptional with
  | true => rw [if_pos rfl, if_pos rfl, TypeExpr.render_union_undefined]
  | false => rw [if_neg Bool.false_ne_true, if_neg Bool.false_ne_true, String.append_empty]

end ExposedField

/-! ## Getters -/

theorem Proto.Field.mayBeUndefined_iff {f : Field} :
    f.mayBeUndefined = true ↔ f.isMessage = true ∧ f.label = .optional := by
  rw [mayBeUndefined, Bool.and_eq_true, beq_iff_eq]

theorem Proto.Field.not_mayBeUndefined {f : Field} (h : f.isRepeated = true ∨ f.isBytes = true) :
    f.mayBeUndefined = false := by
  rw [← Bool.not_eq_true, mayBeUndefined_iff]
  rintro ⟨message, label⟩
  rcases h with h | h
  · rw [isRepeated, label] at h
    cases h
  · rw [isBytes, beq_iff_eq] at h
    rw [isMessage, h] at message
    cases message

theorem Exposure.exists_of_isMap {x : Exposure} (h : x.isMap = true) : ∃ types, x = .map types := by
  cases x with
  | map types => exact ⟨types, rfl⟩
  | scalar _ | bytes | enumeration _ | message _ => cases h

def Exposure.isBytes : Exposure → Bool
  | bytes => true
  | scalar _ | enumeration _ | message _ | map _ => false

theorem Scope.isBytes_of_exposure {s : Scope} {f : Field} {x : Exposure}
    (h : s.exposure f = .ok x) : f.isBytes = x.isBytes := by
  unfold exposure at h
  split at h
  · rename_i hf
    cases h
    simp [Field.isBytes, hf, Exposure.isBytes]
  · rename_i scalar other hf
    cases h
    simpa [Field.isBytes, hf, Exposure.isBytes] using other
  · rename_i name hf
    obtain ⟨t, -, rfl⟩ := Check.map_eq_ok.1 h
    simp [Field.isBytes, hf, Exposure.isBytes]
  · rename_i name hf
    obtain ⟨symbol, -, h⟩ := Check.bind_eq_ok.1 h
    have other : f.isBytes = false := by simp [Field.isBytes, hf]
    split at h
    · obtain ⟨view, -, rfl⟩ := Check.map_eq_ok.1 h
      exact other
    · cases h
      exact other

namespace ExposedField

theorem linesFrom_get_bytesAccessors (e : ExposedField) :
    linesFrom "get" (e.bytesAccessors.map Member.render) =
      [(Member.getter (e.field.pascalName ++ e.listSuffix) (e.held .bytesOrText)).render,
        (Member.getter (e.field.pascalName ++ e.listSuffix ++ "_asU8")
          (e.held .uint8Array)).render,
        (Member.getter (e.field.pascalName ++ e.listSuffix ++ "_asB64")
          (e.held .string)).render] := by
  cases hr : e.field.isRepeated <;>
    simp (disch := decide) [bytesAccessors, hr, Member.getter, Member.setter, Member.adder,
      linesFrom_verb]

theorem linesFrom_get_valueAccessors (e : ExposedField) (type : TypeExpr) (mayOmit : Bool) :
    linesFrom "get" ((e.valueAccessors type mayOmit).map Member.render) =
      [(Member.getter (e.field.pascalName ++ e.listSuffix)
        (if e.field.mayBeUndefined then .union (e.held type) .undefined else e.held type)).render]
    := by
  cases hr : e.field.isRepeated with
  | true =>
    have never := Field.not_mayBeUndefined (.inl hr)
    simp (disch := decide) [valueAccessors, hr, never, held, Member.getter, Member.setter,
      Member.adder, linesFrom_verb]
  | false =>
    simp (disch := decide) [valueAccessors, hr, held, Member.getter, Member.setter,
      linesFrom_verb]

/-- The getters of a block: one for the field, and for bytes one more for each form of them. -/
theorem linesFrom_get {e : ExposedField} (bytes : e.field.isBytes = e.exposure.isBytes) :
    linesFrom "get" e.view.block =
      (Member.getter (e.field.pascalName ++ viewSuffix e.exposure.isMap e.field)
        e.readType).render ::
      if e.exposure.isBytes then
        [(Member.getter (e.field.pascalName ++ viewSuffix e.exposure.isMap e.field ++ "_asU8")
            (e.held .uint8Array)).render,
          (Member.getter (e.field.pascalName ++ viewSuffix e.exposure.isMap e.field ++ "_asB64")
            (e.held .string)).render]
      else [] := by
  have presence := e.linesFrom_presenceAccessors "get" (by decide)
  have suffix : viewSuffix false e.field = e.listSuffix := rfl
  cases hx : e.exposure with
  | map types =>
    simp (disch := decide) [view, accessors, hx, mapAccessors, readType, heldType, property,
      Member.getter, Member.clearer, linesFrom_verb, viewSuffix, Exposure.isMap, Exposure.isBytes]
  | bytes =>
    have never := Field.not_mayBeUndefined (f := e.field) (.inr (by rw [bytes, hx]; rfl))
    simp [view, accessors, hx, linesFrom_append, presence, linesFrom_get_bytesAccessors, readType,
      heldType, property, valueProperty, never, suffix, Exposure.isMap, Exposure.isBytes]
  | scalar type | enumeration type | message type =>
    simp [view, accessors, hx, linesFrom_append, presence, linesFrom_get_valueAccessors, readType,
      heldType, property, valueProperty, suffix, Exposure.isMap, Exposure.isBytes]

end ExposedField

/-! ## Types that say that there may be nothing -/

theorem endsUndefined_append (text : String) : EndsUndefined (text ++ " | undefined") := by
  rw [EndsUndefined, String.toList_append]
  exact List.suffix_append _ _

theorem not_endsUndefined_closed (text : String) : ¬ EndsUndefined (text ++ ">") := by
  rintro ⟨front, h⟩
  have last := congrArg List.getLast? h
  simp at last

/-- What comes after a dot and has no blank in it does not say so. -/
theorem not_endsUndefined_qualified (qualifier : List Char) {path : List Char} (h : ' ' ∉ path) :
    ¬ " | undefined".toList <:+ qualifier ++ '.' :: path := by
  intro ends
  rcases List.suffix_or_suffix_of_suffix ends (List.suffix_append qualifier ('.' :: path)) with
    inside | around
  · have blank : ' ' ∈ '.' :: path := inside.mem (by decide)
    simp [h] at blank
  · have dot : '.' ∈ " | undefined".toList := around.mem (by simp)
    exact absurd dot (by decide)

namespace Scope

variable {s : Scope}

theorem not_endsUndefined_declaredType {name : String} (symbol : Symbol)
    (word : ' ' ∉ name.toList) : ¬ EndsUndefined (s.declaredType name symbol).render := by
  have localWord : ' ' ∉ (symbol.localName name).toList := fun h =>
    word (symbol.mem_of_mem_localName h)
  unfold declaredType
  split
  · intro ends
    exact localWord (ends.mem (by decide))
  · have shown : (TypeExpr.declared (some (ModulePath.importAlias symbol.fileName))
        (symbol.localName name)).render.toList =
        (ModulePath.importAlias symbol.fileName).toList ++
          '.' :: (symbol.localName name).toList := by
      rw [TypeExpr.render_qualified, String.toList_append, String.toList_append]
      simp
    rw [EndsUndefined, shown]
    exact not_endsUndefined_qualified _ localWord

theorem not_endsUndefined_typeExpr {type : FieldType} {t : TypeExpr} (h : s.typeExpr type = .ok t)
    (word : ∀ name, type.name? = some name → ' ' ∉ name.toList) : ¬ EndsUndefined t.render := by
  cases type with
  | scalar scalar =>
    cases h
    cases scalar <;> unfold EndsUndefined <;> decide
  | message name | enumeration name =>
    obtain ⟨symbol, -, rfl⟩ := Check.map_eq_ok.1 h
    exact not_endsUndefined_declaredType symbol (word name rfl)

/-- The view of a map comes from the key and the value of its entry. -/
theorem entryView_of_exposure {f : Field} {types : MapView} (h : s.exposure f = .ok (.map types)) :
    ∃ entry, s.mapEntry f = .ok (some entry) ∧ s.entryView entry = .ok types := by
  unfold exposure at h
  split at h
  · cases h
  · cases h
  · obtain ⟨t, -, h⟩ := Check.map_eq_ok.1 h
    cases h
  · rename_i name hf
    obtain ⟨symbol, hs, h⟩ := Check.bind_eq_ok.1 h
    split at h
    · rename_i entry he
      obtain ⟨view, hv, h⟩ := Check.map_eq_ok.1 h
      cases h
      refine ⟨entry, ?_, hv⟩
      simp [mapEntry, hf, hs, Except.map, he]
    · cases h

end Scope

/-! ## The view of a field -/

theorem render_plainType (type : FieldType) (t : TypeExpr) :
    (plainType type t).render = objectText type t.render := by
  cases type with
  | message name => exact TypeExpr.render_objectOf t
  | scalar scalar | enumeration name => rfl

theorem render_pairs (types : MapView) :
    types.pairs.render = "Array<[" ++ objectText types.keyType types.key.render ++ ", " ++
      objectText types.valueType types.value.render ++ "]>" := by
  have opening : "Array<" ++ "[" = "Array<[" := rfl
  have closing : "]" ++ ">" = "]>" := rfl
  rw [← opening, ← closing, MapView.pairs, TypeExpr.render_array, TypeExpr.render_pair,
    render_plainType, render_plainType]
  simp only [String.append_assoc]

namespace ExposedField

variable {s : Scope} {e : ExposedField}

/-- A field that is no map holds values of one type, which is the type that it is referred to by
unless it is bytes. In plain objects each value is held as it is or, if it is a message, as its own
plain object. -/
theorem exists_value (h : s.exposure e.field = .ok e.exposure) (single : e.exposure.isMap = false) :
    ∃ t, e.heldType = e.held t ∧ e.property.type = e.held (plainType e.field.type t) ∧
      (t = .bytesOrText ∨ s.typeExpr e.field.type = .ok t) := by
  have bytes := Scope.isBytes_of_exposure h
  rcases e with ⟨f, exposure, hasPresence⟩
  cases Scope.exposes_of_exposure h with
  | map => cases single
  | bytes =>
    have type : f.type = .scalar .bytes := by simpa [Field.isBytes, Exposure.isBytes] using bytes
    exact ⟨.bytesOrText, rfl, by rw [type]; rfl, .inl rfl⟩
  | @scalar scalar hf => exact ⟨scalar.typeExpr, rfl, by rw [hf]; rfl, .inr (by rw [hf]; rfl)⟩
  | enumeration hf ht => exact ⟨_, rfl, by rw [hf]; rfl, .inr ht⟩
  | message hf _ ht => exact ⟨_, rfl, by rw [hf]; rfl, .inr ht⟩

theorem corresponds_held (e : ExposedField) (t : TypeExpr) :
    Corresponds s e.field false (e.held t).render (e.held (plainType e.field.type t)).render := by
  unfold held
  cases hr : e.field.isRepeated with
  | true =>
    rw [if_pos rfl, if_pos rfl, TypeExpr.render_array, TypeExpr.render_array, render_plainType]
    exact .list hr
  | false =>
    rw [if_neg Bool.false_ne_true, if_neg Bool.false_ne_true, render_plainType]
    exact .single hr

theorem corresponds (h : s.exposure e.field = .ok e.exposure) :
    Corresponds s e.field e.exposure.isMap e.heldType.render e.property.type.render := by
  cases isMap : e.exposure.isMap with
  | true =>
    obtain ⟨types, hx⟩ := Exposure.exists_of_isMap isMap
    have held : e.heldType = .map types.key types.value := by rw [heldType, hx]
    have plain : e.property.type = types.pairs := by rw [property, hx]
    rw [hx] at h
    obtain ⟨entry, he, hv⟩ := Scope.entryView_of_exposure h
    rw [held, plain, render_pairs]
    obtain ⟨key, value, -, -, rfl⟩ := Scope.exists_of_entryView hv
    exact .map he hv
  | false =>
    obtain ⟨t, held, plain, -⟩ := exists_value h isMap
    rw [held, plain]
    exact e.corresponds_held t

theorem not_endsUndefined_held {t : TypeExpr} (h : ¬ EndsUndefined t.render) :
    ¬ EndsUndefined (e.held t).render := by
  unfold held
  split
  · exact not_endsUndefined_closed ("Array<" ++ t.render)
  · exact h

theorem not_endsUndefined_heldType (h : s.exposure e.field = .ok e.exposure)
    (word : ∀ name, e.field.type.name? = some name → ' ' ∉ name.toList) :
    ¬ EndsUndefined e.heldType.render := by
  cases isMap : e.exposure.isMap with
  | true =>
    obtain ⟨types, hx⟩ := Exposure.exists_of_isMap isMap
    have held : e.heldType = .map types.key types.value := by rw [heldType, hx]
    rw [held]
    exact not_endsUndefined_closed ("jspb.Map<" ++ types.key.render ++ ", " ++ types.value.render)
  | false =>
    obtain ⟨t, held, -, own⟩ := exists_value h isMap
    rw [held]
    refine not_endsUndefined_held ?_
    rcases own with rfl | own
    · unfold EndsUndefined
      decide
    · exact Scope.not_endsUndefined_typeExpr own word

theorem property_key (e : ExposedField) :
    e.property.key = e.field.camelName ++ viewSuffix e.exposure.isMap e.field := by
  rcases e with ⟨f, exposure, hasPresence⟩
  cases exposure <;> rfl

theorem property_isOptional (e : ExposedField) :
    e.property.isOptional = (!e.exposure.isMap && e.field.mayBeUndefined) := by
  rcases e with ⟨f, exposure, hasPresence⟩
  cases exposure <;> rfl

/-- What is written about an exposed field agrees. -/
theorem view_agrees (h : s.exposure e.field = .ok e.exposure)
    (word : ∀ name, e.field.type.name? = some name → ' ' ∉ name.toList) :
    e.view.Agrees s e.field where
  map := Scope.isMap_of_exposure h
  types := corresponds h
  entry := by
    have written : e.view.entry = e.property.key ++ (if e.property.isOptional then "?" else "") ++
      ": " ++ e.property.type.render ++ "," := rfl
    rw [written, property_key]
    rfl
  getters := by
    have bytes := Scope.isBytes_of_exposure h
    have u8 : (e.held .uint8Array).render =
        if e.field.isRepeated then "Array<Uint8Array>" else "Uint8Array" := by
      unfold held
      split <;> rfl
    have b64 : (e.held .string).render =
        if e.field.isRepeated then "Array<string>" else "string" := by
      unfold held
      split <;> rfl
    rw [linesFrom_get bytes, render_getter, render_readType, render_getter, render_getter, u8, b64,
      bytes]
    rfl
  marked := by
    have shown : e.view.getterType =
      e.heldType.render ++ if e.property.isOptional then " | undefined" else "" := rfl
    have optional : e.view.mayBeUndefined = e.property.isOptional := rfl
    rw [shown, optional]
    cases e.property.isOptional with
    | true => simp [endsUndefined_append]
    | false => simp [not_endsUndefined_heldType h word]
  undefined := by
    have optional : e.view.mayBeUndefined = e.property.isOptional := rfl
    rw [optional, property_isOptional, Bool.and_eq_true, Field.mayBeUndefined_iff,
      Bool.not_eq_true']
    rfl
  setters := e.length_linesFrom_set
  adders := e.length_linesFrom_add

end ExposedField

/-! ## The lines of a message -/

namespace Proto

/-- Lines that begin with the class of a message and the object type in its namespace, with the
blocks and the entries of its fields in order. -/
def Message.LaidOut (m : Message) (views : List FieldView) (depth : Nat) (lines : List Line) :
    Prop :=
  ∃ rest, lines =
    .blank :: blockLines depth ("export class " ++ m.name ++ " extends jspb.Message \x7b")
      (views.flatMap (·.block) ++
        (m.oneofs.map m.caseGetter ++ messageMembers m.name).map Member.render) ++
    .blank :: .code depth ("export namespace " ++ m.name ++ " \x7b") ::
      blockLines (depth + 1) "export type AsObject = \x7b" (views.map (·.entry)) ++ rest

theorem Message.laidOut (m : Message) (exposed : List ExposedField) (inner : List Declaration)
    (depth : Nat) :
    m.LaidOut (exposed.map (·.view)) depth (declarationLines depth
      [.classDecl m.name (m.members exposed),
        .namespaceDecl m.name (m.namespaceBody exposed inner)]) := by
  have blocks : (exposed.map (·.view)).flatMap (·.block) =
      (exposed.flatMap (·.accessors)).map Member.render := by
    rw [List.flatMap_map, List.map_flatMap]
    rfl
  have entries : (exposed.map (·.view)).map (·.entry) =
      (exposed.map (·.property)).map Property.render := by
    rw [List.map_map, List.map_map]
    rfl
  rw [LaidOut, blocks, entries, ← List.map_append]
  refine ⟨declarationLines (depth + 1) (inner ++ m.enums.map (fun e => .enumDecl e.declaration) ++
    m.caseDeclarations.map .enumDecl) ++ [.code depth "\x7d"], ?_⟩
  simp [declarationLines, Declaration.lines, namespaceBody, members, declarationLines_append,
    TypeExpr.objectTypeName]

/-- The class of a message and its object type are about the same fields. A message that has its
typings either stands behind maps and is not declared, or has an entry and a block for each field,
and they agree. No reference of a field may have a blank in it. -/
theorem Message.object_agrees {s : Scope} {m : Message} {ds : List Declaration}
    (h : m.declarations s = .ok ds)
    (words : ∀ f ∈ m.fields, ∀ name, f.type.name? = some name → ' ' ∉ name.toList) :
    (m.isMapEntry = true ∧ ds = []) ∨
      ∃ views, List.Forall₂ (FieldView.Agrees s) m.fields views ∧
        ∀ depth, m.LaidOut views depth (declarationLines depth ds) := by
  rcases Message.declarations_eq_ok.1 h with undeclared | ⟨-, exposed, inner, he, -, rfl⟩
  · exact .inl undeclared
  refine .inr ⟨exposed.map (·.view), ?_, m.laidOut exposed inner⟩
  rw [List.forall₂_map_right_iff]
  refine forall₂_of_each he fun f hf e exposes => ?_
  obtain ⟨rfl, hx, -⟩ := Scope.expose_eq_ok.1 exposes
  exact ExposedField.view_agrees hx (words _ hf)

end Proto

namespace Sample

/-- A message with fields of every sort: bytes, a list of bytes, an optional and a repeated message,
and a map with bytes for values. -/
def vault : Message :=
  { name := "Vault", isMapEntry := false,
    fields := [
      .plain "seal" 1 (.scalar .bytes),
      { Field.plain "keys" 2 (.scalar .bytes) with label := .repeated },
      .plain "owner" 3 (.message "Vault"),
      { Field.plain "heirs" 4 (.message "Vault") with label := .repeated },
      { Field.plain "notes" 5 (.message "Vault.NotesEntry") with label := .repeated }],
    oneofs := [], nested := [.forMap "NotesEntry" (.scalar .string) (.scalar .bytes)], enums := [] }

def vaultFile : File :=
  { name := "vault.proto", package := none, dialect := .proto3, dependencies := [],
    messages := [vault], enums := [], extensions := [] }

end Sample

open Sample in
theorem sample_object_agrees : ∃ ds,
    vault.declarations ⟨.ofFiles [vaultFile], vaultFile⟩ = .ok ds ∧
      (∀ f ∈ vault.fields, ∀ name, f.type.name? = some name → ' ' ∉ name.toList) ∧
      ∃ views,
        List.Forall₂ (FieldView.Agrees ⟨.ofFiles [vaultFile], vaultFile⟩) vault.fields views ∧
        vault.LaidOut views 0 (declarationLines 0 ds) := by
  obtain ⟨ds, h⟩ : ∃ ds, vault.declarations ⟨.ofFiles [vaultFile], vaultFile⟩ = .ok ds := ⟨_, rfl⟩
  have words : ∀ f ∈ vault.fields, ∀ name, f.type.name? = some name → ' ' ∉ name.toList := by
    simp [vault, Field.plain, FieldType.name?]
  rcases Message.object_agrees h words with ⟨behind, -⟩ | ⟨views, agree, laidOut⟩
  · cases behind
  · exact ⟨ds, h, words, views, agree, laidOut 0⟩

end ProtoTypings
