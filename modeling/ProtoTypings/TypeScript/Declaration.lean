import ProtoTypings.TypeScript.TypeExpr

/-!
# TypeScript.Declaration

The declarations that a module of typings is made of.

* `Member` — a method or a property of a class.
* `Property` — an entry of an object type.
* `EnumDeclaration` — an enumeration with its entries.
* `Declaration` — classes, namespaces, object types, enumerations and constants.
* `Module` — a module: comments, imports and declarations.
-/

namespace ProtoTypings
namespace TypeScript

structure Parameter where
  name : String
  isOptional : Bool
  type : TypeExpr
deriving Repr, DecidableEq

inductive Member where
  | method (isStatic : Bool) (name : String) (parameters : List Parameter) (result : TypeExpr)
  | property (isStatic : Bool) (name : String) (type : TypeExpr)
deriving Repr, DecidableEq

/-- An entry of an object type. -/
structure Property where
  key : String
  isOptional : Bool
  type : TypeExpr
deriving Repr, DecidableEq

structure EnumEntry where
  name : String
  number : Int32
deriving Repr, DecidableEq

structure EnumDeclaration where
  name : String
  entries : List EnumEntry
deriving Repr, DecidableEq

inductive Declaration where
  /-- A message class. -/
  | classDecl (name : String) (members : List Member)
  | namespaceDecl (name : String) (body : List Declaration)
  | objectType (properties : List Property)
  | enumDecl (declaration : EnumDeclaration)
  | constDecl (name : String) (type : TypeExpr)
deriving Repr

/-- `import * as name from "source"`. -/
structure Import where
  name : String
  source : String
deriving Repr, DecidableEq

structure Module where
  comments : List String
  imports : List Import
  body : List Declaration
deriving Repr

end TypeScript
end ProtoTypings
