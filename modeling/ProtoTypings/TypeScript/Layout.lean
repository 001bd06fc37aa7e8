import ProtoTypings.TypeScript.Declaration

/-!
# TypeScript.Layout

How declarations are laid out in lines. A line has a depth, which becomes two spaces each, and what
is nested in a block stands one deeper than the block. Classes, namespaces, enumerations and
constants are set off by a blank line before them. A blank line has no depth, so that moving
declarations inwards changes the depth of lines and nothing else.

* `Line` — a line of a module, before it is indented.
* `EnumDeclaration.lines`, `Declaration.lines`, `Module.lines` — the lines of a declaration.
* `render` — the text of lines.
-/

namespace ProtoTypings
namespace TypeScript

/-- A blank line, or a text at some depth. -/
inductive Line where
  | blank
  | code (depth : Nat) (text : String)
deriving Repr, DecidableEq

/-- The spaces in front of a line. -/
def indentation (depth : Nat) : String := String.ofList (List.replicate (2 * depth) ' ')

def Line.render : Line → String
  | .blank => "\n"
  | .code depth text => indentation depth ++ text ++ "\n"

/-- The text of lines, each with its line break. -/
def render (lines : List Line) : String := String.join (lines.map Line.render)

theorem render_append (ls ms : List Line) : render (ls ++ ms) = render ls ++ render ms := by
  simp [render]

/-! ## Parts of declarations -/

def Parameter.render (p : Parameter) : String :=
  p.name ++ (if p.isOptional then "?" else "") ++ ": " ++ p.type.render

def staticMark (isStatic : Bool) : String := if isStatic then "static " else ""

def Member.render : Member → String
  | .method isStatic name parameters result =>
    staticMark isStatic ++ name ++ "(" ++ ", ".intercalate (parameters.map Parameter.render) ++
      "): " ++ result.render ++ ";"
  | .property isStatic name type => staticMark isStatic ++ name ++ ": " ++ type.render ++ ";"

def Property.render (p : Property) : String :=
  p.key ++ (if p.isOptional then "?" else "") ++ ": " ++ p.type.render ++ ","

def EnumEntry.render (e : EnumEntry) : String :=
  e.name ++ " = " ++ toString e.number.toInt ++ ","

def Import.render (i : Import) : String :=
  "import * as " ++ i.name ++ " from \"" ++ i.source ++ "\";"

/-! ## Blocks -/

/-- A block: its opening line, the texts in it one deeper, and the closing brace. -/
def blockLines (depth : Nat) (opening : String) (texts : List String) : List Line :=
  .code depth opening :: texts.map (.code (depth + 1)) ++ [.code depth "\x7d"]

def EnumDeclaration.lines (depth : Nat) (e : EnumDeclaration) : List Line :=
  blockLines depth ("export enum " ++ e.name ++ " \x7b") (e.entries.map EnumEntry.render)

mutual

/-- The lines of a declaration at a depth. -/
def Declaration.lines (depth : Nat) : Declaration → List Line
  | .classDecl name members =>
    .blank :: blockLines depth ("export class " ++ name ++ " extends jspb.Message \x7b")
      (members.map Member.render)
  | .namespaceDecl name body =>
    .blank :: .code depth ("export namespace " ++ name ++ " \x7b") ::
      declarationLines (depth + 1) body ++ [.code depth "\x7d"]
  | .objectType properties =>
    blockLines depth ("export type " ++ TypeExpr.objectTypeName ++ " = \x7b")
      (properties.map Property.render)
  | .enumDecl e => .blank :: e.lines depth
  | .constDecl name type =>
    [.blank, .code depth ("export const " ++ name ++ ": " ++ type.render ++ ";")]

/-- The lines of declarations one after the other. -/
def declarationLines (depth : Nat) : List Declaration → List Line
  | [] => []
  | d :: ds => d.lines depth ++ declarationLines depth ds

end

theorem declarationLines_append (depth : Nat) (ds es : List Declaration) :
    declarationLines depth (ds ++ es) = declarationLines depth ds ++ declarationLines depth es := by
  induction ds with
  | nil => rfl
  | cons d ds ih => simp only [List.cons_append, declarationLines, ih, List.append_assoc]

/-- The lines of a module: comments, imports and declarations, and a blank line to end with. -/
def Module.lines (m : Module) : List Line :=
  m.comments.map (fun c => .code 0 ("// " ++ c)) ++ [.blank] ++
    m.imports.map (fun i => .code 0 i.render) ++ declarationLines 0 m.body ++ [.blank]

end TypeScript
end ProtoTypings
