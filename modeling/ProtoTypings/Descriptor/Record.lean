import ProtoTypings.Descriptor.Basic
import ProtoTypings.Wire.Record

/-!
# Descriptor.Record

Descriptors as records, with the tags that the descriptor format gives their fields. Reading takes
any record; writing gives one with ascending tags, and reading it back gives the descriptor.

* `File.ofRecord`, `Message.ofRecord`, `Field.ofRecord`, `Enum.ofRecord` — reading.
* `File.toRecord`, `Message.toRecord`, `Field.toRecord`, `Enum.toRecord` — writing.
-/

namespace ProtoTypings
namespace Descriptor

open Wire Wire.Record

namespace EnumValue

def ofRecord (r : Record) : EnumValue :=
  { name := r.text? 1, number := (r.number? 2).map toInt32 }

def toRecord (v : EnumValue) : Record := textField 1 v.name ++ int32Field 2 v.number

end EnumValue

namespace Enum

def ofRecord (r : Record) : Enum :=
  { name := r.text? 1, values := (r.records 2).map EnumValue.ofRecord }

def toRecord (e : Enum) : Record :=
  textField 1 e.name ++ e.values.map fun v => .record 2 v.toRecord

end Enum

namespace Field

def ofRecord (r : Record) : Field :=
  { name := r.text? 1
    number := (r.number? 3).map toInt32
    label := (r.number? 4).map toInt32
    type := (r.number? 5).map toInt32
    typeName := r.text? 6
    oneofIndex := (r.number? 9).map toInt32
    proto3Optional := (r.number? 17).map toBool }

def toRecord (f : Field) : Record :=
  textField 1 f.name ++ int32Field 3 f.number ++ int32Field 4 f.label ++
    int32Field 5 f.type ++ textField 6 f.typeName ++ int32Field 9 f.oneofIndex ++
    boolField 17 f.proto3Optional

end Field

namespace Oneof

def ofRecord (r : Record) : Oneof := { name := r.text? 1 }

def toRecord (o : Oneof) : Record := textField 1 o.name

end Oneof

namespace MessageOptions

def ofRecord (r : Record) : MessageOptions := { mapEntry := (r.number? 7).map toBool }

def toRecord (o : MessageOptions) : Record := boolField 7 o.mapEntry

end MessageOptions

/-! ## Messages -/

mutual

/-- The message that a field holds, if it has the given tag. -/
def messageAt? (tag : Nat) : Wire.Field → Option Message
  | .record t fields =>
    if t = tag then
      some {
        name := Record.text? 1 fields
        fields := (Record.records 2 fields).map Field.ofRecord
        nested := messagesAt 3 fields
        enums := (Record.records 4 fields).map Enum.ofRecord
        options := (Record.record? 7 fields).map MessageOptions.ofRecord
        oneofs := (Record.records 8 fields).map Oneof.ofRecord }
    else none
  | _ => none

/-- The messages at a tag. -/
def messagesAt (tag : Nat) : List Wire.Field → List Message
  | [] => []
  | f :: fields =>
    match messageAt? tag f with
    | some m => m :: messagesAt tag fields
    | none => messagesAt tag fields

end

mutual

def Message.toRecord : Message → Record
  | ⟨name, fields, nested, enums, oneofs, options⟩ =>
    textField 1 name ++ fields.map (fun f => .record 2 f.toRecord) ++ nestedFields nested ++
      enums.map (fun e => .record 4 e.toRecord) ++
      (options.map fun o => .record 7 o.toRecord).toList ++
      oneofs.map fun o => .record 8 o.toRecord

/-- The fields of nested messages. -/
def nestedFields : List Message → Record
  | [] => []
  | m :: ms => .record 3 m.toRecord :: nestedFields ms

end

/-! ## Files -/

namespace File

def ofRecord (r : Record) : File :=
  { name := r.text? 1
    package := r.text? 2
    dependencies := r.texts 3
    messages := messagesAt 4 r
    enums := (r.records 5).map Enum.ofRecord
    extensions := (r.records 7).map Field.ofRecord
    syntaxName := r.text? 12 }

def toRecord (f : File) : Record :=
  textField 1 f.name ++ textField 2 f.package ++ f.dependencies.map (.text 3) ++
    f.messages.map (fun m => .record 4 m.toRecord) ++
    f.enums.map (fun e => .record 5 e.toRecord) ++
    f.extensions.map (fun e => .record 7 e.toRecord) ++ textField 12 f.syntaxName

end File

end Descriptor
end ProtoTypings
