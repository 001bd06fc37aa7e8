import ProtoTypings.Plugin.Protocol
import ProtoTypings.Proto.OfDescriptor
import ProtoTypings.Surface.File

/-!
# Plugin.Respond

Answering a request. The parameter is read first, then all files are checked, and last the files
asked for are generated, in the order of the request. The first failure is the answer, and then
there are no files. A file asked for that was not sent is passed over.

* `Request.generate` — the generated files, or the failure.
* `respond` — the response to a request.
* `run` — the bytes of the response to the bytes of a request.
* `outcome` — how the plugin ends: exit code, standard output and standard error.
-/

namespace ProtoTypings
namespace Plugin

/-- Why a request cannot be served. -/
inductive Failure where
  | settings (error : SettingsError)
  | descriptor (fault : Descriptor.Fault)
  | reference (error : ReferenceError)
deriving Repr, DecidableEq

def Failure.message : Failure → String
  | .settings error => error.message
  | .descriptor fault => fault.message
  | .reference error => error.message

/-- For each name the first file of that name; names of no file are passed over. -/
def targets (names : List String) (files : List Proto.File) : List Proto.File :=
  names.filterMap fun name => files.find? (·.name == name)

/-- The generated files for the files asked for, among all files of the request. -/
def Request.generate (q : Request) : Except Failure (List GeneratedFile) := do
  let settings ← (Settings.parse (q.parameter.getD "")).mapError .settings
  let files ← (each Proto.File.ofDescriptor q.files).mapError .descriptor
  let symbols := SymbolTable.ofFiles files
  (ProtoTypings.generate settings symbols (targets q.filesToGenerate files)).mapError .reference

/-- The bit by which a plugin declares that it knows `proto3_optional` fields. -/
def proto3OptionalFeature : UInt64 := 1

/-- The response to a request. -/
def respond (q : Request) : Response :=
  match q.generate with
  | .ok files =>
    { error := none
      supportedFeatures := some proto3OptionalFeature
      files := files.map fun f => { name := some f.name, content := some f.content } }
  | .error failure =>
    { error := some failure.message
      supportedFeatures := some proto3OptionalFeature
      files := [] }

/-- The bytes of the response to the bytes of a request, if they encode one. -/
def run (input : List UInt8) : Option (List UInt8) :=
  (Request.read? input).map fun q => (respond q).encode

/-- How a run of the plugin ends: its exit code, the bytes on standard output and the complaint on
standard error, if there is one. -/
structure Outcome where
  exitCode : UInt32
  output : List UInt8
  complaint : Option String
deriving Repr, DecidableEq

/-- How the plugin ends on some input. If the input is no request, nothing is written. The complaint
is worded here and says no more than that: what is wrong with the bytes, which a decoder tells in
words of its own, is not part of the model. -/
def outcome (input : List UInt8) : Outcome :=
  match run input with
  | none =>
    { exitCode := 1
      output := []
      complaint := some "error: the input is not a code generator request" }
  | some output => { exitCode := 0, output, complaint := none }

end Plugin
end ProtoTypings
