import ProtoTypings.Descriptor.Record
import ProtoTypings.Plugin.RecordType

/-!
# Plugin.Protocol

What the protocol compiler sends to a plugin and what it gets back, as values and as bytes.

* `Request`, `Response` — the two sides.
* `Request.read?`, `Request.encode`, `Response.read?`, `Response.encode` — their bytes.
-/

namespace ProtoTypings
namespace Plugin

open Wire

/-- All files of a compilation, those among them to generate code for, and the user's parameter. -/
structure Request where
  filesToGenerate : List String
  parameter : Option String
  files : List Descriptor.File
deriving Repr

structure ResponseFile where
  name : Option String
  content : Option String
deriving Repr, DecidableEq

/-- The generated files, or the error that prevented them. -/
structure Response where
  error : Option String
  supportedFeatures : Option UInt64
  files : List ResponseFile
deriving Repr, DecidableEq

namespace Request

def ofRecord (r : Record) : Request :=
  { filesToGenerate := r.texts 1
    parameter := r.text? 2
    files := (r.records 15).map Descriptor.File.ofRecord }

def toRecord (q : Request) : Record :=
  q.filesToGenerate.map (.text 1) ++ Record.textField 2 q.parameter ++
    q.files.map fun f => .record 15 f.toRecord

/-- The request that some bytes encode. -/
def read? (bytes : List UInt8) : Option Request := (format.read? .request bytes).map ofRecord

def encode (q : Request) : List UInt8 := q.toRecord.encode

end Request

namespace ResponseFile

def ofRecord (r : Record) : ResponseFile := { name := r.text? 1, content := r.text? 15 }

def toRecord (f : ResponseFile) : Record :=
  Record.textField 1 f.name ++ Record.textField 15 f.content

end ResponseFile

namespace Response

def ofRecord (r : Record) : Response :=
  { error := r.text? 1
    supportedFeatures := r.number? 2
    files := (r.records 15).map ResponseFile.ofRecord }

def toRecord (s : Response) : Record :=
  Record.textField 1 s.error ++ Record.wordField 2 s.supportedFeatures ++
    s.files.map fun f => .record 15 f.toRecord

/-- The response that some bytes encode. -/
def read? (bytes : List UInt8) : Option Response := (format.read? .response bytes).map ofRecord

def encode (s : Response) : List UInt8 := s.toRecord.encode

end Response

end Plugin
end ProtoTypings
