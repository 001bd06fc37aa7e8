import ProtoTypings.Scope
import ProtoTypings.Surface.Accessor

/-!
# Surface.ObjectType

The plain object that a message is converted to, with one property for every field. Where the
class holds a message, the object holds that message's own object.
-/

namespace ProtoTypings

open TypeScript

/-- The type of a key or value of a map in the plain object. -/
def plainType (type : Proto.FieldType) (t : TypeExpr) : TypeExpr :=
  match type with
  | .message _ => .objectOf t
  | _ => t

/-- A map in the plain object: a list of its pairs. -/
def MapView.pairs (types : MapView) : TypeExpr :=
  .array (.pair (plainType types.keyType types.key) (plainType types.valueType types.value))

/-- A property that holds values of a type. -/
def ExposedField.valueProperty (f : ExposedField) (value : TypeExpr) : Property :=
  { key := f.field.camelName ++ f.listSuffix
    isOptional := f.field.mayBeUndefined
    type := f.held value }

/-- The property of a field. -/
def ExposedField.property (f : ExposedField) : Property :=
  match f.exposure with
  | .map types => { key := f.field.camelName ++ "Map", isOptional := false, type := types.pairs }
  | .bytes => f.valueProperty .bytesOrText
  | .scalar type => f.valueProperty type
  | .enumeration type => f.valueProperty type
  | .message type => f.valueProperty (.objectOf type)

end ProtoTypings
