/-!
# Descriptor.Fault

What can be wrong with a descriptor, and the wording of each fault.
-/

namespace ProtoTypings
namespace Descriptor

/-- The parts of a file that must have a name. -/
inductive Element where
  | file
  | message
  | field
  | oneof
  | enumeration
  | enumValue
deriving Repr, DecidableEq

/-- The word for an element in messages to the user. -/
def Element.noun : Element → String
  | .file => "file"
  | .message => "message"
  | .field => "field"
  | .oneof => "oneof"
  | .enumeration => "enum"
  | .enumValue => "enum value"

inductive Fault where
  /-- An element has no name; `scope` is the file, message or enum around it. -/
  | unnamed (element : Element) (scope : String)
  /-- A field has no type, or refers to a message or enum without naming it. -/
  | untyped (field : String)
  | unknownType (field : String) (type : Int32)
  | unknownLabel (field : String) (label : Int32)
  | unknownSyntax (syntaxName file : String)
deriving Repr, DecidableEq

def Fault.message : Fault → String
  | .unnamed element scope => element.noun ++ " without a name in '" ++ scope ++ "'"
  | .untyped field => "field '" ++ field ++ "' has no type"
  | .unknownType field type =>
    "field '" ++ field ++ "' has unknown type number " ++ toString type.toInt
  | .unknownLabel field label =>
    "field '" ++ field ++ "' has unknown label " ++ toString label.toInt
  | .unknownSyntax name file => "unsupported syntax '" ++ name ++ "' in '" ++ file ++ "'"

end Descriptor
end ProtoTypings
