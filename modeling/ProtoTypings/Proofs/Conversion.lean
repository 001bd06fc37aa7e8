import ProtoTypings.Proofs.Checks
import ProtoTypings.Proto.OfDescriptor

/-!
# Proofs.Conversion

When the checks of descriptors succeed, and with which definitions.

* `File.ofDescriptor_eq_ok`, `Message.ofDescriptor_eq_ok`, `Enum.ofDescriptor_eq_ok`,
  `Field.ofDescriptor_eq_ok` — success of a check, part by part.
* `Descriptor.Message.nested_induction` — induction over a message and those nested in it.
-/

namespace ProtoTypings

/-- A property that a message descriptor has once all nested in it have it holds of every one. -/
@[elab_as_elim]
theorem Descriptor.Message.nested_induction {P : Descriptor.Message → Prop}
    (step : ∀ d : Descriptor.Message, (∀ n ∈ d.nested, P n) → P d) : ∀ d, P d
  | ⟨name, fields, nested, enums, oneofs, options⟩ =>
    step _ fun n (_hn : n ∈ nested) => nested_induction step n
termination_by d => sizeOf d
decreasing_by
  have := List.sizeOf_lt_of_mem _hn
  simp only [Descriptor.Message.mk.sizeOf_spec]
  omega

namespace Proto

theorem required_eq_ok {element : Descriptor.Element} {scope : String} {name : Option String}
    {given : String} : required element scope name = .ok given ↔ name = some given := by
  cases name <;> simp [required]

theorem Field.ofDescriptor_eq_ok {scope : String} {d : Descriptor.Field} {f : Field} :
    Field.ofDescriptor scope d = .ok f ↔
      ∃ name label type, d.name = some name ∧ labelOf name d.label = .ok label ∧
        typeOf name d.type d.typeName = .ok type ∧
        f = { name, label, type
              number := d.number.getD 0
              oneofIndex := d.oneofIndex.bind fun i => i.toInt.toNat?
              proto3Optional := d.proto3Optional.getD false } := by
  simp only [Field.ofDescriptor, Check.bind_eq_ok, required_eq_ok]
  constructor
  · rintro ⟨name, hn, label, hl, type, ht, h⟩
    cases h
    exact ⟨name, label, type, hn, hl, ht, rfl⟩
  · rintro ⟨name, label, type, hn, hl, ht, rfl⟩
    exact ⟨name, hn, label, hl, type, ht, rfl⟩

theorem Enum.ofDescriptor_eq_ok {scope : String} {d : Descriptor.Enum} {e : Enum} :
    Enum.ofDescriptor scope d = .ok e ↔
      ∃ name values, d.name = some name ∧ each (EnumValue.ofDescriptor name) d.values = .ok values ∧
        e = { name, values } := by
  simp only [Enum.ofDescriptor, Check.bind_eq_ok, required_eq_ok]
  constructor
  · rintro ⟨name, hn, values, hv, h⟩
    cases h
    exact ⟨name, values, hn, hv, rfl⟩
  · rintro ⟨name, values, hn, hv, rfl⟩
    exact ⟨name, hn, values, hv, rfl⟩

theorem Message.ofDescriptor_eq_ok {scope : String} {d : Descriptor.Message} {m : Message} :
    Message.ofDescriptor scope d = .ok m ↔
      ∃ name fields oneofs nested enums, d.name = some name ∧
        each (Field.ofDescriptor (scope ++ "." ++ name)) d.fields = .ok fields ∧
        each (fun o => required .oneof (scope ++ "." ++ name) o.name) (realOneofs d) = .ok oneofs ∧
        each (Message.ofDescriptor (scope ++ "." ++ name)) d.nested = .ok nested ∧
        each (Enum.ofDescriptor (scope ++ "." ++ name)) d.enums = .ok enums ∧
        m = { name, oneofs, nested, enums
              isMapEntry := (d.options.bind (·.mapEntry)).getD false
              fields := fields.map (Field.renumbered (syntheticOneofs d)) } := by
  simp only [Message.ofDescriptor_eq, Check.bind_eq_ok, required_eq_ok,
    messagesOfDescriptors_eq_each]
  constructor
  · rintro ⟨name, hn, fields, hf, oneofs, ho, nested, hm, enums, he, h⟩
    cases h
    exact ⟨name, fields, oneofs, nested, enums, hn, hf, ho, hm, he, rfl⟩
  · rintro ⟨name, fields, oneofs, nested, enums, hn, hf, ho, hm, he, rfl⟩
    exact ⟨name, hn, fields, hf, oneofs, ho, nested, hm, enums, he, rfl⟩

theorem File.ofDescriptor_eq_ok {d : Descriptor.File} {file : File} :
    File.ofDescriptor d = .ok file ↔
      ∃ name dialect messages enums extensions, d.name = some name ∧
        Dialect.ofName name d.syntaxName = .ok dialect ∧
        each (Message.ofDescriptor name) d.messages = .ok messages ∧
        each (Enum.ofDescriptor name) d.enums = .ok enums ∧
        each (Field.ofDescriptor name) d.extensions = .ok extensions ∧
        file = { name, dialect, messages, enums, extensions
                 package := d.package.filter (· ≠ "")
                 dependencies := d.dependencies } := by
  simp only [File.ofDescriptor, Check.bind_eq_ok, required_eq_ok]
  constructor
  · rintro ⟨name, hn, dialect, hd, messages, hm, enums, he, extensions, hx, h⟩
    cases h
    exact ⟨name, dialect, messages, enums, extensions, hn, hd, hm, he, hx, rfl⟩
  · rintro ⟨name, dialect, messages, enums, extensions, hn, hd, hm, he, hx, rfl⟩
    exact ⟨name, hn, dialect, hd, messages, hm, enums, he, extensions, hx, rfl⟩

theorem File.ofDescriptor_name {d : Descriptor.File} {file : File}
    (h : File.ofDescriptor d = .ok file) : d.name = some file.name := by
  obtain ⟨name, dialect, messages, enums, extensions, hn, -, -, -, -, rfl⟩ :=
    File.ofDescriptor_eq_ok.1 h
  exact hn

end Proto
end ProtoTypings
