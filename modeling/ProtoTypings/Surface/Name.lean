import ProtoTypings.Casing
import ProtoTypings.Proto.Basic

/-!
# Surface.Name

The names that the parts of a definition take in TypeScript.

* `Field.camelName`, `Field.pascalName` — a field in object types and in accessors. The name is put
  in lower case first, so `ID` and `id` give the same.
* `caseName` — the enumeration of a oneof's cases.
* `constantName` — an entry of an enumeration.
-/

namespace ProtoTypings
namespace Proto

/-- The words of the name as one, all but the first capitalised: `shippingAddress`. -/
def Field.camelName (f : Field) : String :=
  String.ofList (Casing.lowerCamel (Unicode.lowercased f.name.toList))

/-- The words of the name as one, all capitalised: `ShippingAddress`. -/
def Field.pascalName (f : Field) : String :=
  String.ofList (Casing.upperCamel (Unicode.lowercased f.name.toList))

/-- The enumeration that tells which member of a oneof is set. -/
def caseName (oneof : String) : String :=
  String.ofList (Casing.upperCamel oneof.toList) ++ "Case"

/-- An entry of an enumeration. -/
def constantName (name : String) : String := String.ofList (Unicode.uppercased name.toList)

end Proto
end ProtoTypings
