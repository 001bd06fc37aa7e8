import ProtoTypings.Settings
import ProtoTypings.Surface.Message
import ProtoTypings.TypeScript.Layout

/-!
# Surface.File

The typings of a file: the runtime import, one import for each dependency, and the declarations of
its messages, extensions and enums.

* `File.typings` — the typings of a file as a module.
* `File.text` — their text.
* `generate` — the generated files for several files; one that fails fails them all.
-/

namespace ProtoTypings
namespace Proto

open TypeScript

/-- An extension is declared by its description, with the type that it holds. -/
def Field.extensionDeclaration (s : Scope) (f : Field) : Except ReferenceError Declaration :=
  (s.typeExpr f.type).map fun type =>
    .constDecl f.camelName (.generic "jspb.ExtensionFieldInfo" type)

/-- The imports of a file: the runtime first, then its dependencies in order. -/
def File.imports (settings : Settings) (file : File) : List Import :=
  { name := "jspb", source := settings.runtimeModule } ::
    file.dependencies.map fun dependency =>
      { name := ModulePath.importAlias dependency
        source := ModulePath.specifier settings.runtimeModule file.name dependency }

/-- The lines of comment at the top. -/
def File.comments (file : File) : List String :=
  ["package: " ++ file.package.getD "", "file: " ++ file.name]

/-- The declarations of a file: messages, extensions, enums. -/
def File.declarations (symbols : SymbolTable) (file : File) :
    Except ReferenceError (List Declaration) := do
  let s : Scope := { symbols, file }
  let messages ← messageDeclarations s file.messages
  let extensions ← each (Field.extensionDeclaration s) file.extensions
  return messages ++ extensions ++ file.enums.map fun e => .enumDecl e.declaration

/-- The typings of a file. -/
def File.typings (settings : Settings) (symbols : SymbolTable) (file : File) :
    Except ReferenceError Module :=
  (file.declarations symbols).map fun body =>
    { comments := file.comments, imports := file.imports settings, body }

/-- The text of a file's typings. -/
def File.text (settings : Settings) (symbols : SymbolTable) (file : File) :
    Except ReferenceError String :=
  (file.typings settings symbols).map fun m => render m.lines

end Proto

/-- A file to be written: its name, relative to the output root, and its text. -/
structure GeneratedFile where
  name : String
  content : String
deriving Repr, DecidableEq

/-- The generated file for one file. -/
def generateFile (settings : Settings) (symbols : SymbolTable) (file : Proto.File) :
    Except ReferenceError GeneratedFile :=
  (file.text settings symbols).map fun content =>
    { name := settings.outputName file.name, content }

/-- The generated files for several files, or the first failure. -/
def generate (settings : Settings) (symbols : SymbolTable) (files : List Proto.File) :
    Except ReferenceError (List GeneratedFile) :=
  each (generateFile settings symbols) files

end ProtoTypings
