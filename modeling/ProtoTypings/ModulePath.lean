import ProtoTypings.Text

/-!
# ModulePath

Module paths and import aliases of generated code, from the paths of `.proto` files.

The code for `shop/order.proto` is the module `shop/order_pb`. Another file imports it by a path
that climbs to the output root and descends again, under an alias made of the path. The standard
files are an exception: their code comes with the runtime, and is imported from there.

* `modulePath`, `importAlias` — module and import alias of a file.
* `toRoot` — the way from a file's directory to the output root.
* `specifier` — what one file writes to import the module of another.
-/

namespace ProtoTypings
namespace ModulePath

/-- A path without its `.proto` extension, if it has it. -/
def stem (path : String) : String :=
  match Text.dropSuffix? ".proto".toList path.toList with
  | some rest => String.ofList rest
  | none => path

/-- The module of the code generated for a file, relative to the output root. -/
def modulePath (path : String) : String := stem path ++ "_pb"

/-- A character of a path in an alias: separators become underscores. -/
def aliasChar (c : Char) : Char := if c = '/' ∨ c = '.' ∨ c = '-' then '_' else c

/-- The name under which the module of a file is imported. -/
def importAlias (path : String) : String :=
  String.ofList ((stem path).toList.map aliasChar) ++ "_pb"

/-- The way from the directory of a file to the output root. -/
def toRoot (path : String) : String :=
  match path.toList.count '/' with
  | 0 => "./"
  | depth => String.join (List.replicate depth "../")

/-- The standard files, whose code comes with the runtime. -/
def standardFiles : List String := [
  "google/protobuf/any.proto",
  "google/protobuf/api.proto",
  "google/protobuf/compiler/plugin.proto",
  "google/protobuf/descriptor.proto",
  "google/protobuf/duration.proto",
  "google/protobuf/empty.proto",
  "google/protobuf/field_mask.proto",
  "google/protobuf/source_context.proto",
  "google/protobuf/struct.proto",
  "google/protobuf/timestamp.proto",
  "google/protobuf/type.proto",
  "google/protobuf/wrappers.proto"]

/-- The path by which `file` imports the module of `dependency`. -/
def specifier (runtimeModule file dependency : String) : String :=
  if dependency ∈ standardFiles then runtimeModule ++ "/" ++ modulePath dependency
  else toRoot file ++ modulePath dependency

end ModulePath
end ProtoTypings
