import ProtoTypings.Scope
import ProtoTypings.Surface.Name
import ProtoTypings.TypeScript.Declaration

/-!
# Surface.Accessor

The members of a message class: the accessors of its fields, the case of each oneof, and what every
message can do.

* `ExposedField.accessors` — the accessors of one field.
* `Proto.Message.members` — all members of the class.
-/

namespace ProtoTypings

open TypeScript

/-! ## Kinds of accessors -/

namespace TypeScript.Member

/-- A method of an instance. -/
def call (name : String) (parameters : List Parameter) (result : TypeExpr) : Member :=
  .method false name parameters result

def getter (name : String) (type : TypeExpr) : Member := call ("get" ++ name) [] type

/-- Sets a value; a call without one is allowed if `mayOmit`. -/
def setter (name : String) (mayOmit : Bool) (type : TypeExpr) : Member :=
  call ("set" ++ name) [⟨"value", mayOmit, type⟩] .void

/-- Adds an item to a list, at an index or at the end. -/
def adder (name : String) (mayOmit : Bool) (item : TypeExpr) : Member :=
  call ("add" ++ name) [⟨"value", mayOmit, item⟩, ⟨"index", true, .number⟩] item

def presence (name : String) : Member := call ("has" ++ name) [] .boolean

def clearer (name : String) : Member := call ("clear" ++ name) [] .void

end TypeScript.Member

/-! ## The accessors of a field -/

namespace ExposedField

/-- The ending of the names of what holds a whole list. -/
def listSuffix (f : ExposedField) : String := if f.field.isRepeated then "List" else ""

/-- The type of all that a field holds, from the type of one value. -/
def held (f : ExposedField) (value : TypeExpr) : TypeExpr :=
  if f.field.isRepeated then .array value else value

/-- Asking whether the field is set, and clearing it. -/
def presenceAccessors (f : ExposedField) : List Member :=
  (if f.hasPresence then [.presence f.field.pascalName] else []) ++
    (if f.isClearable then [.clearer (f.field.pascalName ++ f.listSuffix)] else [])

/-- A map is read as a whole and changed through what is read. -/
def mapAccessors (f : ExposedField) (types : MapView) : List Member :=
  let name := f.field.pascalName ++ "Map"
  [.getter name (.map types.key types.value), .clearer name]

/-- Bytes are read as they were set, as bytes, or as base64 text. -/
def bytesAccessors (f : ExposedField) : List Member :=
  let name := f.field.pascalName ++ f.listSuffix
  [.getter name (f.held .bytesOrText),
    .getter (name ++ "_asU8") (f.held .uint8Array),
    .getter (name ++ "_asB64") (f.held .string),
    .setter name false (f.held .bytesOrText)] ++
    if f.field.isRepeated then [.adder f.field.pascalName false .bytesOrText] else []

/-- Reading and setting values of a type. A message may be left out where one value is set or
added: a fresh one is stored. -/
def valueAccessors (f : ExposedField) (value : TypeExpr) (mayOmit : Bool) : List Member :=
  let name := f.field.pascalName ++ f.listSuffix
  if f.field.isRepeated then
    [.getter name (.array value), .setter name false (.array value),
      .adder f.field.pascalName mayOmit value]
  else
    let type := if f.field.mayBeUndefined then .union value .undefined else value
    [.getter name type, .setter name mayOmit type]

/-- The accessors of a field. -/
def accessors (f : ExposedField) : List Member :=
  match f.exposure with
  | .map types => f.mapAccessors types
  | .bytes => f.presenceAccessors ++ f.bytesAccessors
  | .scalar type => f.presenceAccessors ++ f.valueAccessors type false
  | .enumeration type => f.presenceAccessors ++ f.valueAccessors type false
  | .message type => f.presenceAccessors ++ f.valueAccessors type true

end ExposedField

/-! ## The members of a class -/

/-- What every message class has: conversion to plain objects and to and from bytes. -/
def messageMembers (name : String) : List Member :=
  let self : TypeExpr := .declared none name
  let extensionInfo (kind : String) : TypeExpr :=
    .indexed (.generic kind (.builtin "jspb.Message"))
  [ .call "serializeBinary" [] .uint8Array,
    .call "toObject" [⟨"includeInstance", true, .boolean⟩] (.objectOf self),
    .method true "toObject" [⟨"includeInstance", false, .boolean⟩, ⟨"msg", false, self⟩]
      (.objectOf self),
    .property true "extensions" (extensionInfo "jspb.ExtensionFieldInfo"),
    .property true "extensionsBinary" (extensionInfo "jspb.ExtensionFieldBinaryInfo"),
    .method true "serializeBinaryToWriter"
      [⟨"message", false, self⟩, ⟨"writer", false, .builtin "jspb.BinaryWriter"⟩] .void,
    .method true "deserializeBinary" [⟨"bytes", false, .uint8Array⟩] self,
    .method true "deserializeBinaryFromReader"
      [⟨"message", false, self⟩, ⟨"reader", false, .builtin "jspb.BinaryReader"⟩] self ]

namespace Proto

/-- The method that tells which member of a oneof is set. -/
def Message.caseGetter (m : Message) (oneof : String) : Member :=
  .getter (caseName oneof) (.declared none (m.name ++ "." ++ caseName oneof))

/-- The members of the class of a message whose fields are exposed as given. -/
def Message.members (m : Message) (fields : List ExposedField) : List Member :=
  fields.flatMap (·.accessors) ++ m.oneofs.map m.caseGetter ++ messageMembers m.name

end Proto

end ProtoTypings
