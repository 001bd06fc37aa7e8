/-!
# Proto.Basic

Protocol buffer definitions after checking: everything that needs a name has one, types and labels
are known, and references to messages and enums are full names (`shop.Order.Item`, no leading dot).

* `Proto.File`, `Proto.Message`, `Proto.Field`, `Proto.Enum` — the definitions.
* `Proto.FieldType`, `Proto.Scalar`, `Proto.Label`, `Proto.Dialect` — their attributes.
* `Message.oneofMembers` — the members of a oneof.
-/

namespace ProtoTypings
namespace Proto

/-- The version of the language that a file is written in. -/
inductive Dialect where
  | proto2
  | proto3
deriving Repr, DecidableEq

inductive Label where
  | optional
  | required
  | repeated
deriving Repr, DecidableEq

inductive Scalar where
  | double
  | float
  | int32
  | int64
  | uint32
  | uint64
  | sint32
  | sint64
  | fixed32
  | fixed64
  | sfixed32
  | sfixed64
  | bool
  | string
  | bytes
deriving Repr, DecidableEq

/-- The type of a field: a scalar, or the full name of a message (groups included) or of an enum. -/
inductive FieldType where
  | scalar (scalar : Scalar)
  | message (name : String)
  | enumeration (name : String)
deriving Repr, DecidableEq

/-- A field of a message, or an extension. `oneofIndex` counts in the oneofs of the message. -/
structure Field where
  name : String
  number : Int32
  label : Label
  type : FieldType
  oneofIndex : Option Nat
  proto3Optional : Bool
deriving Repr, DecidableEq

structure EnumValue where
  name : String
  number : Int32
deriving Repr, DecidableEq

structure Enum where
  name : String
  values : List EnumValue
deriving Repr, DecidableEq

/-- A message. `isMapEntry` marks the messages that stand behind `map<K, V>` fields, and `oneofs`
holds the names of the oneofs. -/
structure Message where
  name : String
  isMapEntry : Bool
  fields : List Field
  oneofs : List String
  nested : List Message
  enums : List Enum
deriving Repr

structure File where
  name : String
  package : Option String
  dialect : Dialect
  dependencies : List String
  messages : List Message
  enums : List Enum
  extensions : List Field
deriving Repr

namespace Field

/-- An optional field of the given type that belongs to no oneof. -/
def plain (name : String) (number : Int32) (type : FieldType) : Field :=
  { name, number, label := .optional, type, oneofIndex := none, proto3Optional := false }

def isRepeated (f : Field) : Bool := f.label == .repeated

def isMessage (f : Field) : Bool :=
  match f.type with
  | .message _ => true
  | _ => false

def isBytes (f : Field) : Bool := f.type == .scalar .bytes

/-- Reading the field may give `undefined`: it is an optional message, which may be unset. -/
def mayBeUndefined (f : Field) : Bool := f.isMessage && f.label == .optional

end Field

namespace Message

/-- The message behind a `map<key, value>` field: the key has number 1 and the value number 2. -/
def forMap (name : String) (key value : FieldType) : Message :=
  { name, isMapEntry := true, fields := [.plain "key" 1 key, .plain "value" 2 value],
    oneofs := [], nested := [], enums := [] }

/-- The members of the oneof at `index`, in the order of the fields. -/
def oneofMembers (m : Message) (index : Nat) : List Field :=
  m.fields.filter fun f => f.oneofIndex == some index

end Message

end Proto
end ProtoTypings
