import ProtoTypings.ModulePath
import ProtoTypings.SymbolTable
import ProtoTypings.TypeScript.TypeExpr

/-!
# Scope

How a field looks from inside the file that is being declared: the TypeScript name of its type, the
way it is exposed, and whether its presence can be asked for.

* `Scope.typeExpr` — the type a field type is referred to by.
* `Scope.isMap`, `Scope.mapView` — map fields.
* `Scope.expose` — all that is needed to declare the accessors of a field.
* `ReferenceError` — a reference that cannot be followed.
-/

namespace ProtoTypings

open TypeScript

inductive ReferenceError where
  /-- A reference from a file to a name that no symbol of the right kind has. -/
  | unresolved (typeName fileName : String)
  /-- A field was taken for a map field and is not one. -/
  | notAMap (field : String)
deriving Repr, DecidableEq

def ReferenceError.message : ReferenceError → String
  | .unresolved typeName fileName =>
    "could not resolve type '" ++ typeName ++ "' in '" ++ fileName ++ "'"
  | .notAMap field => "invalid usage: expected field '" ++ field ++ "' to be a map"

/-- The type of a scalar in the runtime's interface. All numbers, 64-bit ones included, are plain
numbers. -/
def Proto.Scalar.typeExpr : Proto.Scalar → TypeExpr
  | .bool => .boolean
  | .string => .string
  | .bytes => .uint8Array
  | .double | .float | .int32 | .int64 | .uint32 | .uint64 | .sint32 | .sint64
  | .fixed32 | .fixed64 | .sfixed32 | .sfixed64 => .number

/-- The key and value of a map field, each with the type it is referred to by. -/
structure MapView where
  keyType : Proto.FieldType
  key : TypeExpr
  valueType : Proto.FieldType
  value : TypeExpr
deriving Repr, DecidableEq

/-- The way a field is exposed: the kind of its accessors and the types in them. -/
inductive Exposure where
  /-- A scalar other than bytes. -/
  | scalar (type : TypeExpr)
  | bytes
  | enumeration (type : TypeExpr)
  | message (type : TypeExpr)
  | map (types : MapView)
deriving Repr, DecidableEq

/-- A field with the way it is exposed. -/
structure ExposedField where
  field : Proto.Field
  exposure : Exposure
  hasPresence : Bool
deriving Repr, DecidableEq

/-- A file among all known symbols. -/
structure Scope where
  symbols : SymbolTable
  file : Proto.File

namespace Scope

/-- The result of a look-up, an unresolved reference if there is none. -/
def resolved (s : Scope) (name : String) : Option Symbol → Except ReferenceError Symbol
  | some symbol => .ok symbol
  | none => .error (.unresolved name s.file.name)

/-- The message of that full name. -/
def message (s : Scope) (name : String) : Except ReferenceError Symbol :=
  s.resolved name (s.symbols.message? name)

/-- The enum of that full name. -/
def enum (s : Scope) (name : String) : Except ReferenceError Symbol :=
  s.resolved name (s.symbols.enum? name)

/-- The type of a symbol's full name: its local name, qualified unless this file declares it. -/
def declaredType (s : Scope) (name : String) (symbol : Symbol) : TypeExpr :=
  if symbol.fileName = s.file.name then .declared none (symbol.localName name)
  else .declared (some (ModulePath.importAlias symbol.fileName)) (symbol.localName name)

/-- The type that a field type is referred to by. -/
def typeExpr (s : Scope) : Proto.FieldType → Except ReferenceError TypeExpr
  | .scalar scalar => .ok scalar.typeExpr
  | .message name => (s.message name).map (s.declaredType name)
  | .enumeration name => (s.enum name).map (s.declaredType name)

/-! ## Maps -/

/-- The key and value fields of the map that a field is, if it is one. -/
def mapEntry (s : Scope) (f : Proto.Field) : Except ReferenceError (Option MapEntry) :=
  match f.type with
  | .message name => (s.message name).map (·.mapEntry)
  | _ => .ok none

/-- Whether a field is a map. -/
def isMap (s : Scope) (f : Proto.Field) : Except ReferenceError Bool :=
  (s.mapEntry f).map (·.isSome)

/-- The types of a map whose key and value fields are known; a bytes value may be set as text. -/
def entryView (s : Scope) (entry : MapEntry) : Except ReferenceError MapView := do
  let key ← s.typeExpr entry.key.type
  let value ←
    if entry.value.isBytes then .ok TypeExpr.bytesOrText else s.typeExpr entry.value.type
  return { keyType := entry.key.type, key, valueType := entry.value.type, value }

/-- The types of a field that must be a map. -/
def mapView (s : Scope) (f : Proto.Field) : Except ReferenceError MapView := do
  match ← s.mapEntry f with
  | none => .error (.notAMap f.name)
  | some entry => s.entryView entry

/-! ## Presence -/

/-- Whether a field can be asked if it is set. Repeated fields cannot; members of oneofs, messages
and `proto3_optional` fields can, and in proto2 all others too. -/
def hasPresence (s : Scope) (f : Proto.Field) : Bool :=
  !f.isRepeated &&
    (f.oneofIndex.isSome || f.isMessage || f.proto3Optional || s.file.dialect == .proto2)

/-- Whether a field can be cleared: if its presence can be asked for or it is repeated. -/
def isClearable (s : Scope) (f : Proto.Field) : Bool := s.hasPresence f || f.isRepeated

/-! ## Exposing fields -/

/-- The way a field is exposed. -/
def exposure (s : Scope) (f : Proto.Field) : Except ReferenceError Exposure :=
  match f.type with
  | .scalar .bytes => .ok .bytes
  | .scalar scalar => .ok (.scalar scalar.typeExpr)
  | .enumeration _ => (s.typeExpr f.type).map .enumeration
  | .message name => do
    let symbol ← s.message name
    match symbol.mapEntry with
    | some entry => (s.entryView entry).map .map
    | none => .ok (.message (s.declaredType name symbol))

/-- The field with the way it is exposed. -/
def expose (s : Scope) (f : Proto.Field) : Except ReferenceError ExposedField :=
  (s.exposure f).map fun exposure => { field := f, exposure, hasPresence := s.hasPresence f }

end Scope

/-- Whether the field has a method that clears it. -/
def ExposedField.isClearable (f : ExposedField) : Bool := f.hasPresence || f.field.isRepeated

end ProtoTypings
