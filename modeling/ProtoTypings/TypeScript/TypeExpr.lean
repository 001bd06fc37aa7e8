/-!
# TypeScript.TypeExpr

The types that appear in declarations, and how they are written.
-/

namespace ProtoTypings
namespace TypeScript

inductive TypeExpr where
  /-- A type of the language or of the runtime: `string`, `Uint8Array`, `jspb.Message`. -/
  | builtin (name : String)
  /-- A declared type by its path, under the alias of its module if that is not this one. -/
  | declared (qualifier : Option String) (path : String)
  /-- The plain object type that goes with a message class. -/
  | objectOf (message : TypeExpr)
  | array (item : TypeExpr)
  | pair (first second : TypeExpr)
  | union (left right : TypeExpr)
  /-- A generic type with one argument. -/
  | generic (head : String) (argument : TypeExpr)
  | map (key value : TypeExpr)
  /-- An object with numbers for keys. -/
  | indexed (value : TypeExpr)
deriving Repr, DecidableEq

namespace TypeExpr

/-- The name of the object type in the namespace of a message. -/
def objectTypeName : String := "AsObject"

def render : TypeExpr → String
  | builtin name => name
  | declared none path => path
  | declared (some qualifier) path => qualifier ++ "." ++ path
  | objectOf message => message.render ++ "." ++ objectTypeName
  | array item => "Array<" ++ item.render ++ ">"
  | pair first second => "[" ++ first.render ++ ", " ++ second.render ++ "]"
  | union left right => left.render ++ " | " ++ right.render
  | generic head argument => head ++ "<" ++ argument.render ++ ">"
  | map key value => "jspb.Map<" ++ key.render ++ ", " ++ value.render ++ ">"
  | indexed value => "\x7b[key: number]: " ++ value.render ++ "\x7d"

def string : TypeExpr := builtin "string"
def number : TypeExpr := builtin "number"
def boolean : TypeExpr := builtin "boolean"
def void : TypeExpr := builtin "void"
def undefined : TypeExpr := builtin "undefined"
def uint8Array : TypeExpr := builtin "Uint8Array"

/-- What stands for a bytes value: the bytes themselves or their base64 text. -/
def bytesOrText : TypeExpr := union uint8Array string

end TypeExpr

end TypeScript
end ProtoTypings
