import ProtoTypings.Descriptor.Basic
import ProtoTypings.Descriptor.Fault
import ProtoTypings.Proto.Basic
import ProtoTypings.Sequence
import ProtoTypings.Text

/-!
# Proto.OfDescriptor

Checking descriptors. A descriptor becomes a definition, or the check stops at the first fault of a
fixed walk: the file's name, its syntax, then messages, enums and extensions in order; inside a
message its name, fields, oneofs, nested messages and nested enums.

A `proto3_optional` field is the only member of a oneof that the compiler made up for it. Such a
*synthetic* oneof is no oneof of the definition: it is left out, and the others are numbered anew.

* `File.ofDescriptor`, `Message.ofDescriptor`, `Enum.ofDescriptor`, `Field.ofDescriptor` — the
  checks.
* `realIndex` — the new number of a oneof.
-/

namespace ProtoTypings
namespace Proto

open Descriptor (Fault)

/-- What a type number of the descriptor format stands for. -/
inductive TypeCode where
  | scalar (scalar : Scalar)
  | message
  | enumeration
deriving Repr, DecidableEq

/-- The meaning of a type number. Number 10 is a group, which is a message of its own. -/
def TypeCode.ofNumber? (n : Int32) : Option TypeCode :=
  match n.toInt with
  | 1 => some (.scalar .double)
  | 2 => some (.scalar .float)
  | 3 => some (.scalar .int64)
  | 4 => some (.scalar .uint64)
  | 5 => some (.scalar .int32)
  | 6 => some (.scalar .fixed64)
  | 7 => some (.scalar .fixed32)
  | 8 => some (.scalar .bool)
  | 9 => some (.scalar .string)
  | 10 => some .message
  | 11 => some .message
  | 12 => some (.scalar .bytes)
  | 13 => some (.scalar .uint32)
  | 14 => some .enumeration
  | 15 => some (.scalar .sfixed32)
  | 16 => some (.scalar .sfixed64)
  | 17 => some (.scalar .sint32)
  | 18 => some (.scalar .sint64)
  | _ => none

/-- The meaning of a label number. -/
def Label.ofNumber? (n : Int32) : Option Label :=
  match n.toInt with
  | 1 => some .optional
  | 2 => some .required
  | 3 => some .repeated
  | _ => none

/-- The dialect that the `syntax` of a file names; proto2 if it names none. -/
def Dialect.ofName (file : String) : Option String → Except Fault Dialect
  | none => .ok .proto2
  | some name =>
    if name = "" ∨ name = "proto2" then .ok .proto2
    else if name = "proto3" then .ok .proto3
    else .error (.unknownSyntax name file)

/-- The name of an element, which it must have. -/
def required (element : Descriptor.Element) (scope : String) : Option String → Except Fault String
  | none => .error (.unnamed element scope)
  | some name => .ok name

/-! ## Fields -/

/-- The full name that a reference holds, its leading dot removed. -/
def referenceName (typeName : String) : String :=
  match typeName.toList with
  | '.' :: rest => String.ofList rest
  | _ => typeName

/-- The reference of a field to a message or an enum. -/
def reference (field : String) (typeName : Option String) : Except Fault String :=
  match typeName with
  | none => .error (.untyped field)
  | some typeName =>
    if typeName = "" then .error (.untyped field) else .ok (referenceName typeName)

namespace Field

/-- The label of a field; one that is not set is `optional`. -/
def labelOf (field : String) : Option Int32 → Except Fault Label
  | none => .ok .optional
  | some n =>
    match Label.ofNumber? n with
    | none => .error (.unknownLabel field n)
    | some label => .ok label

/-- The type of a field, from its type number and the reference beside it. -/
def typeOf (field : String) (type : Option Int32) (typeName : Option String) :
    Except Fault FieldType :=
  match type with
  | none => .error (.untyped field)
  | some n =>
    match TypeCode.ofNumber? n with
    | none => .error (.unknownType field n)
    | some (.scalar s) => .ok (.scalar s)
    | some .message => (reference field typeName).map .message
    | some .enumeration => (reference field typeName).map .enumeration

/-- Checks name, label and type, in this order. The oneof index is kept unless negative. -/
def ofDescriptor (scope : String) (d : Descriptor.Field) : Except Fault Field := do
  let name ← required .field scope d.name
  let label ← labelOf name d.label
  let type ← typeOf name d.type d.typeName
  return {
    name, label, type
    number := d.number.getD 0
    oneofIndex := d.oneofIndex.bind fun i => i.toInt.toNat?
    proto3Optional := d.proto3Optional.getD false }

end Field

/-! ## Enums -/

namespace EnumValue

def ofDescriptor (scope : String) (d : Descriptor.EnumValue) : Except Fault EnumValue := do
  let name ← required .enumValue scope d.name
  return { name, number := d.number.getD 0 }

end EnumValue

namespace Enum

def ofDescriptor (scope : String) (d : Descriptor.Enum) : Except Fault Enum := do
  let name ← required .enumeration scope d.name
  let values ← each (EnumValue.ofDescriptor name) d.values
  return { name, values }

end Enum

/-! ## Oneofs -/

/-- Whether the oneof at `index` is synthetic: a `proto3_optional` field points at it. -/
def isSynthetic (fields : List Descriptor.Field) (index : Nat) : Bool :=
  fields.any fun f => f.proto3Optional.getD false && f.oneofIndex == some (Int32.ofNat index)

/-- For each oneof of a message descriptor, whether it is synthetic. -/
def syntheticOneofs (d : Descriptor.Message) : List Bool :=
  (List.range d.oneofs.length).map (isSynthetic d.fields)

/-- The number of the oneof at `index` among those that are not synthetic; none for a synthetic one
and beyond the end. -/
def realIndex (synthetic : List Bool) (index : Nat) : Option Nat :=
  match synthetic[index]? with
  | some false => some ((synthetic.take index).count false)
  | _ => none

/-- The oneofs that are not synthetic. -/
def realOneofs (d : Descriptor.Message) : List Descriptor.Oneof :=
  ((d.oneofs.zip (syntheticOneofs d)).filter fun p => !p.2).map Prod.fst

/-! ## Messages and files -/

/-- The field with the oneof it points at numbered anew. -/
def Field.renumbered (synthetic : List Bool) (f : Field) : Field :=
  { f with oneofIndex := f.oneofIndex.bind (realIndex synthetic) }

mutual

/-- Checks a message inside `scope`, the full name of what is around it. -/
def Message.ofDescriptor (scope : String) : Descriptor.Message → Except Fault Message
  | ⟨name, fields, nested, enums, oneofs, options⟩ => do
    let d : Descriptor.Message := ⟨name, fields, nested, enums, oneofs, options⟩
    let name ← required .message scope name
    let inner := scope ++ "." ++ name
    let fields ← each (Field.ofDescriptor inner) fields
    let oneofs ← each (fun o => required .oneof inner o.name) (realOneofs d)
    let nested ← messagesOfDescriptors inner nested
    let enums ← each (Enum.ofDescriptor inner) enums
    return {
      name, oneofs, nested, enums
      isMapEntry := (options.bind (·.mapEntry)).getD false
      fields := fields.map (Field.renumbered (syntheticOneofs d)) }

/-- Checks messages in order. -/
def messagesOfDescriptors (scope : String) : List Descriptor.Message → Except Fault (List Message)
  | [] => .ok []
  | d :: ds => do
    let m ← Message.ofDescriptor scope d
    let ms ← messagesOfDescriptors scope ds
    return m :: ms

end

theorem Message.ofDescriptor_eq (scope : String) (d : Descriptor.Message) :
    Message.ofDescriptor scope d = (do
      let name ← required .message scope d.name
      let inner := scope ++ "." ++ name
      let fields ← each (Field.ofDescriptor inner) d.fields
      let oneofs ← each (fun o => required .oneof inner o.name) (realOneofs d)
      let nested ← messagesOfDescriptors inner d.nested
      let enums ← each (Enum.ofDescriptor inner) d.enums
      return {
        name, oneofs, nested, enums
        isMapEntry := (d.options.bind (·.mapEntry)).getD false
        fields := fields.map (Field.renumbered (syntheticOneofs d)) }) := by
  cases d
  rfl

theorem messagesOfDescriptors_eq_each (scope : String) (ds : List Descriptor.Message) :
    messagesOfDescriptors scope ds = each (Message.ofDescriptor scope) ds := by
  induction ds with
  | nil => rfl
  | cons d ds ih =>
    simp only [messagesOfDescriptors, each, ih]
    cases Message.ofDescriptor scope d with
    | error e => rfl
    | ok m => cases each (Message.ofDescriptor scope) ds <;> rfl

/-- Checks a file. An empty package name is no package. -/
def File.ofDescriptor (d : Descriptor.File) : Except Fault File := do
  let name ← required .file "<request>" d.name
  let dialect ← Dialect.ofName name d.syntaxName
  let messages ← each (Message.ofDescriptor name) d.messages
  let enums ← each (Enum.ofDescriptor name) d.enums
  let extensions ← each (Field.ofDescriptor name) d.extensions
  return {
    name, dialect, messages, enums, extensions
    package := d.package.filter (· ≠ "")
    dependencies := d.dependencies }

end Proto
end ProtoTypings
