import ProtoTypings.Proofs.FileTexts

/-!
# Proofs.NamedTypes

The declared types that are named in typings, by a path and, if another module declares them, the
alias of that module.

* `TypeName`, `TypeExpr.names` — the names in a type.
* `Scope.namedTypes` — the types that a field makes its message name.
* `ExposedField.names_accessors`, `ExposedField.names_property` — what a field becomes names no
  others.
-/

namespace ProtoTypings
namespace TypeScript

/-- A declared type as it is named: the alias of its module unless that is this one, and a path. -/
structure TypeName where
  qualifier : Option String
  path : String
deriving Repr, DecidableEq

/-- The name of the object type that goes with a message class. -/
def TypeName.object (n : TypeName) : TypeName :=
  { n with path := n.path ++ "." ++ TypeExpr.objectTypeName }

/-- The declared types that a type names. -/
def TypeExpr.names : TypeExpr → List TypeName
  | builtin _ => []
  | declared qualifier path => [{ qualifier, path }]
  | objectOf message => message.names.map .object
  | array item => item.names
  | pair first second => first.names ++ second.names
  | union left right => left.names ++ right.names
  | generic _ argument => argument.names
  | map key value => key.names ++ value.names
  | indexed value => value.names

def Member.types : Member → List TypeExpr
  | .method _ _ parameters result => parameters.map (·.type) ++ [result]
  | .property _ _ type => [type]

/-- The declared types that the types of a member name. -/
def Member.names (m : Member) : List TypeName := m.types.flatMap (·.names)

/-- The types that are written in a declaration, those of the declarations nested in it left out. -/
def Declaration.types : Declaration → List TypeExpr
  | .classDecl _ members => members.flatMap (·.types)
  | .objectType properties => properties.map (·.type)
  | .constDecl _ type => [type]
  | .namespaceDecl _ _ | .enumDecl _ => []

/-! ## Members -/

@[simp] theorem names_getter (name : String) (type : TypeExpr) :
    (Member.getter name type).names = type.names := by
  simp [Member.getter, Member.call, Member.names, Member.types]

@[simp] theorem names_setter (name : String) (mayOmit : Bool) (type : TypeExpr) :
    (Member.setter name mayOmit type).names = type.names := by
  simp [Member.setter, Member.call, Member.names, Member.types, TypeExpr.void, TypeExpr.names]

@[simp] theorem mem_names_adder {name : String} {mayOmit : Bool} {item : TypeExpr} {n : TypeName} :
    n ∈ (Member.adder name mayOmit item).names ↔ n ∈ item.names := by
  simp [Member.adder, Member.call, Member.names, Member.types, TypeExpr.number, TypeExpr.names]

@[simp] theorem names_presence (name : String) : (Member.presence name).names = [] := rfl

@[simp] theorem names_clearer (name : String) : (Member.clearer name).names = [] := rfl

end TypeScript

open TypeScript

/-! ## What a field names -/

/-- The fields of a type, if it is a message. -/
def Proto.TypeDefinition.fields : Proto.TypeDefinition → List Proto.Field
  | .message m => m.fields
  | .enumeration _ => []

def Proto.FieldType.name? : Proto.FieldType → Option String
  | .scalar _ => none
  | .message name | .enumeration name => some name

/-- The types that a field makes its message name: those of the key and the value if it is a map
field, its own type if it is not. -/
def Scope.namedTypes (s : Scope) (f : Proto.Field) : List Proto.FieldType :=
  match s.mapEntry f with
  | .ok (some entry) => [entry.key.type, entry.value.type]
  | _ => [f.type]

namespace Scope

variable {s : Scope}

theorem names_scalar (scalar : Proto.Scalar) : scalar.typeExpr.names = [] := by
  cases scalar <;> rfl

/-- A type names nothing, or it names a symbol of the table. -/
theorem names_typeExpr {type : Proto.FieldType} {t : TypeExpr} (h : s.typeExpr type = .ok t)
    {n : TypeName} (hn : n ∈ t.names) :
    ∃ name symbol, type.name? = some name ∧ s.symbols.get? name = some symbol ∧
      symbol.isMessage = (type == .message name) ∧ t = s.declaredType name symbol := by
  cases type with
  | scalar scalar =>
    cases h
    rw [names_scalar] at hn
    cases hn
  | message name =>
    obtain ⟨symbol, hs, rfl⟩ := Check.map_eq_ok.1 h
    have found := Option.filter_eq_some_iff.1 (resolved_eq_ok.1 hs)
    exact ⟨name, symbol, rfl, found.1, by simpa using found.2, rfl⟩
  | enumeration name =>
    obtain ⟨symbol, hs, rfl⟩ := Check.map_eq_ok.1 h
    have found := Option.filter_eq_some_iff.1 (resolved_eq_ok.1 hs)
    have noMessage : symbol.isMessage = false := by simpa using found.2
    exact ⟨name, symbol, rfl, found.1, noMessage, rfl⟩

/-- The ways in which a field may be exposed, by its type and the map that it may be. -/
inductive Exposes (s : Scope) (f : Proto.Field) : Exposure → Prop where
  | scalar {scalar : Proto.Scalar} :
      f.type = .scalar scalar → Exposes s f (.scalar scalar.typeExpr)
  | bytes : Exposes s f .bytes
  | enumeration {name : String} {t : TypeExpr} :
      f.type = .enumeration name → s.typeExpr f.type = .ok t → Exposes s f (.enumeration t)
  | message {name : String} {t : TypeExpr} :
      f.type = .message name → s.mapEntry f = .ok none → s.typeExpr f.type = .ok t →
      Exposes s f (.message t)
  | map {entry : MapEntry} {key value : TypeExpr} :
      s.mapEntry f = .ok (some entry) → s.typeExpr entry.key.type = .ok key →
      (value.names = [] ∨ s.typeExpr entry.value.type = .ok value) →
      Exposes s f (.map ⟨entry.key.type, key, entry.value.type, value⟩)

theorem exists_of_entryView {entry : MapEntry} {view : MapView} (h : s.entryView entry = .ok view) :
    ∃ key value, s.typeExpr entry.key.type = .ok key ∧
      (value.names = [] ∨ s.typeExpr entry.value.type = .ok value) ∧
      view = ⟨entry.key.type, key, entry.value.type, value⟩ := by
  unfold entryView at h
  obtain ⟨key, hk, h⟩ := Check.bind_eq_ok.1 h
  split at h <;> obtain ⟨value, hv, h⟩ := Check.bind_eq_ok.1 h <;> cases h
  · cases hv
    exact ⟨key, .bytesOrText, hk, .inl rfl, rfl⟩
  · exact ⟨key, value, hk, .inr hv, rfl⟩

theorem exposes_of_exposure {f : Proto.Field} {e : Exposure} (h : s.exposure f = .ok e) :
    s.Exposes f e := by
  unfold exposure at h
  split at h
  · cases h
    exact .bytes
  · cases h
    exact .scalar ‹_›
  · rename_i name hf
    obtain ⟨t, ht, rfl⟩ := Check.map_eq_ok.1 h
    exact .enumeration hf ht
  · rename_i name hf
    obtain ⟨symbol, hs, h⟩ := Check.bind_eq_ok.1 h
    have entry : s.mapEntry f = .ok symbol.mapEntry := by
      simp [mapEntry, hf, hs, Except.map]
    split at h
    · rename_i found he
      obtain ⟨view, hv, rfl⟩ := Check.map_eq_ok.1 h
      obtain ⟨key, value, hk, own, rfl⟩ := exists_of_entryView hv
      exact .map (by rw [entry, he]) hk own
    · rename_i he
      cases h
      refine .message hf (by rw [entry, he]) ?_
      rw [hf]
      exact Check.map_eq_ok.2 ⟨symbol, hs, rfl⟩

end Scope

/-! ## What a field becomes -/

/-- The types that an exposed field is made of, each with what it was made from. -/
def ExposedField.parts (f : ExposedField) : List (Proto.FieldType × TypeExpr) :=
  match f.exposure with
  | .scalar type | .enumeration type | .message type => [(f.field.type, type)]
  | .bytes => []
  | .map types => [(types.keyType, types.key), (types.valueType, types.value)]

namespace ExposedField

variable {s : Scope} {f : Proto.Field} {e : ExposedField}

/-- What an exposed field is made of, if it names anything, is made from the types that the field
names. -/
theorem parts_of_expose (h : s.expose f = .ok e) : ∀ p ∈ e.parts,
    p.2.names = [] ∨ p.1 ∈ s.namedTypes f ∧ s.typeExpr p.1 = .ok p.2 := by
  obtain ⟨exposure, exposed, rfl⟩ := Check.map_eq_ok.1 h
  cases Scope.exposes_of_exposure exposed with
  | bytes => simp [parts]
  | scalar hf => simp [parts, Scope.names_scalar]
  | enumeration hf ht =>
    have own : s.namedTypes f = [f.type] := by simp [Scope.namedTypes, Scope.mapEntry, hf]
    simp [parts, own, ht]
  | message hf he ht =>
    have own : s.namedTypes f = [f.type] := by simp [Scope.namedTypes, he]
    simp [parts, own, ht]
  | @map entry key value he hk hv =>
    have both : s.namedTypes f = [entry.key.type, entry.value.type] := by
      simp [Scope.namedTypes, he]
    simp only [parts, both, List.forall_mem_cons]
    exact ⟨.inr ⟨by simp, hk⟩, hv.imp_right fun h => ⟨by simp, h⟩, by simp⟩

/-! ### Accessors -/

theorem names_held {t : TypeExpr} : (e.held t).names = t.names := by
  unfold held
  split <;> rfl

theorem names_bytesAccessors : ∀ m ∈ e.bytesAccessors, m.names = [] := by
  intro m hm
  simp only [bytesAccessors, List.mem_append, List.mem_cons, List.not_mem_nil, or_false] at hm
  rcases hm with (rfl | rfl | rfl | rfl) | hm
  · rw [names_getter, names_held]
    rfl
  · rw [names_getter, names_held]
    rfl
  · rw [names_getter, names_held]
    rfl
  · rw [names_setter, names_held]
    rfl
  · split at hm <;> simp only [List.mem_singleton, List.not_mem_nil] at hm
    rw [hm]
    rfl

theorem names_valueAccessors {t : TypeExpr} {mayOmit : Bool} {n : TypeName} :
    ∀ m ∈ e.valueAccessors t mayOmit, n ∈ m.names → n ∈ t.names := by
  intro m hm hn
  unfold valueAccessors at hm
  split at hm <;> simp only [List.mem_cons, List.not_mem_nil, or_false] at hm
  · rcases hm with rfl | rfl | rfl
    · rwa [names_getter] at hn
    · rwa [names_setter] at hn
    · rwa [mem_names_adder] at hn
  · have value : (if e.field.mayBeUndefined then TypeExpr.union t .undefined else t).names =
        t.names := by
      split
      · exact List.append_nil _
      · rfl
    rcases hm with rfl | rfl
    · rwa [names_getter, value] at hn
    · rwa [names_setter, value] at hn

theorem names_presenceAccessors : ∀ m ∈ e.presenceAccessors, m.names = [] := by
  intro m hm
  simp only [presenceAccessors, List.mem_append] at hm
  rcases hm with hm | hm <;> split at hm <;> simp only [List.mem_singleton, List.not_mem_nil] at hm
  · rw [hm, names_presence]
  · rw [hm, names_clearer]

/-- The accessors of a field name what the parts of the field name. -/
theorem exists_part_of_accessors {m : Member} (hm : m ∈ e.accessors) {n : TypeName}
    (hn : n ∈ m.names) : ∃ p ∈ e.parts, n ∈ p.2.names := by
  have silent (ms : List Member) (h : ∀ m ∈ ms, m.names = []) : m ∉ ms := by
    intro hm
    rw [h m hm] at hn
    cases hn
  cases he : e.exposure with
  | map types =>
    simp only [accessors, he, mapAccessors, List.mem_cons, List.not_mem_nil, or_false] at hm
    rcases hm with rfl | rfl
    · rw [names_getter] at hn
      simpa [parts, he, TypeExpr.names] using hn
    · cases hn
  | bytes =>
    simp only [accessors, he, List.mem_append] at hm
    rcases hm with hm | hm
    · exact absurd hm (silent _ e.names_presenceAccessors)
    · exact absurd hm (silent _ e.names_bytesAccessors)
  | scalar type | enumeration type | message type =>
    simp only [accessors, he, List.mem_append] at hm
    rcases hm with hm | hm
    · exact absurd hm (silent _ e.names_presenceAccessors)
    · exact ⟨(e.field.type, type), by simp [parts, he], names_valueAccessors m hm hn⟩

/-- The accessors of a field name what the types that the field names are referred to by. -/
theorem names_accessors (h : s.expose f = .ok e) {m : Member} (hm : m ∈ e.accessors)
    {n : TypeName} (hn : n ∈ m.names) :
    ∃ type ∈ s.namedTypes f, ∃ t, s.typeExpr type = .ok t ∧ n ∈ t.names := by
  obtain ⟨p, hp, hn⟩ := exists_part_of_accessors hm hn
  rcases parts_of_expose h p hp with none_ | ⟨named, ok⟩
  · rw [none_] at hn
    cases hn
  · exact ⟨p.1, named, p.2, ok, hn⟩

/-! ### Properties -/

/-- What a name for a type becomes in plain objects, where object types stand for messages. -/
def plainName (type : Proto.FieldType) (n : TypeName) : TypeName :=
  match type with
  | .message _ => n.object
  | _ => n

@[simp] theorem qualifier_plainName (type : Proto.FieldType) (n : TypeName) :
    (plainName type n).qualifier = n.qualifier := by
  cases type <;> rfl

theorem names_plainType (type : Proto.FieldType) (t : TypeExpr) :
    (plainType type t).names = t.names.map (plainName type) := by
  cases type with
  | message name => rfl
  | scalar scalar => exact (List.map_id _).symm
  | enumeration name => exact (List.map_id _).symm

/-- The property of a field names what the parts of the field name, in their plain form. -/
theorem exists_part_of_property (h : s.expose f = .ok e) {n : TypeName}
    (hn : n ∈ e.property.type.names) : ∃ p ∈ e.parts, n ∈ (plainType p.1 p.2).names := by
  have value (t : TypeExpr) : (e.valueProperty t).type.names = t.names := e.names_held
  obtain ⟨exposure, exposed, rfl⟩ := Check.map_eq_ok.1 h
  cases Scope.exposes_of_exposure exposed with
  | bytes =>
    rw [property, value] at hn
    cases hn
  | scalar hf => simp [property, value, Scope.names_scalar] at hn
  | @enumeration name t hf ht =>
    rw [property, value] at hn
    exact ⟨(f.type, t), by simp [parts], by simpa [plainType, hf] using hn⟩
  | @message name t hf he ht =>
    rw [property, value] at hn
    exact ⟨(f.type, t), by simp [parts], by simpa [plainType, hf] using hn⟩
  | map he hk hv => simpa [property, parts, MapView.pairs, TypeExpr.names] using hn

/-- The property of a field names what the types that the field names are referred to by, in their
plain form. -/
theorem names_property (h : s.expose f = .ok e) {n : TypeName}
    (hn : n ∈ e.property.type.names) :
    ∃ type ∈ s.namedTypes f, ∃ t, s.typeExpr type = .ok t ∧
      ∃ c ∈ t.names, n = plainName type c := by
  obtain ⟨p, hp, hn⟩ := exists_part_of_property h hn
  rcases parts_of_expose h p hp with none_ | ⟨named, ok⟩
  · rw [names_plainType, none_] at hn
    cases hn
  · rw [names_plainType] at hn
    obtain ⟨c, hc, rfl⟩ := List.mem_map.1 hn
    exact ⟨p.1, named, p.2, ok, c, hc, rfl⟩

end ExposedField

end ProtoTypings
