import ProtoTypings.Wire.Format

/-!
# Plugin.RecordType

The record types of the plugin protocol and their known fields, as the definitions of descriptors
and of plugin requests and responses lay them down. Most fields are only known so that their payload
can be checked: typings do not depend on them.

* `RecordType` — the types of records, `request` and `response` at the top.
* `RecordType.fields` — the known fields of a type with their tags.
* `format` — the format that requests and responses are read by.
-/

namespace ProtoTypings
namespace Plugin

open Wire

inductive RecordType where
  | request
  | version
  | response
  | generatedFile
  | generatedCodeInfo
  | sourceSpan
  | file
  | fileOptions
  | sourceCodeInfo
  | location
  | message
  | messageOptions
  | extensionRange
  | extensionRangeOptions
  | reservedRange
  | field
  | fieldOptions
  | oneof
  | oneofOptions
  | enum
  | enumOptions
  | enumValue
  | enumValueOptions
  | service
  | serviceOptions
  | method
  | methodOptions
  | uninterpretedOption
  | namePart
deriving Repr, DecidableEq

/-- The field in which every kind of options keeps what the compiler did not interpret. -/
def uninterpreted : Nat × FieldFormat RecordType := (999, .record .uninterpretedOption)

/-- The known fields of a record type. -/
def RecordType.fields : RecordType → List (Nat × FieldFormat RecordType)
  | .request => [(1, .text), (2, .text), (3, .record .version), (15, .record .file)]
  | .version => [(1, .number), (2, .number), (3, .number), (4, .text)]
  | .response => [(1, .text), (2, .number), (15, .record .generatedFile)]
  | .generatedFile =>
    [(1, .text), (2, .text), (15, .text), (16, .record .generatedCodeInfo)]
  | .generatedCodeInfo => [(1, .record .sourceSpan)]
  | .sourceSpan => [(1, .numbers), (2, .text), (3, .number), (4, .number)]
  | .file =>
    [(1, .text), (2, .text), (3, .text), (4, .record .message), (5, .record .enum),
      (6, .record .service), (7, .record .field), (8, .record .fileOptions),
      (9, .record .sourceCodeInfo), (10, .numbers), (11, .numbers), (12, .text)]
  | .fileOptions =>
    [(1, .text), (8, .text), (9, .number), (10, .number), (11, .text), (16, .number),
      (17, .number), (18, .number), (20, .number), (23, .number), (27, .number), (31, .number),
      (36, .text), (37, .text), (39, .text), (40, .text), (41, .text), (42, .number), (44, .text),
      (45, .text), uninterpreted]
  | .sourceCodeInfo => [(1, .record .location)]
  | .location => [(1, .numbers), (2, .numbers), (3, .text), (4, .text), (6, .text)]
  | .message =>
    [(1, .text), (2, .record .field), (3, .record .message), (4, .record .enum),
      (5, .record .extensionRange), (6, .record .field), (7, .record .messageOptions),
      (8, .record .oneof), (9, .record .reservedRange), (10, .text)]
  | .messageOptions => [(1, .number), (2, .number), (3, .number), (7, .number), uninterpreted]
  | .extensionRange => [(1, .number), (2, .number), (3, .record .extensionRangeOptions)]
  | .extensionRangeOptions => [uninterpreted]
  | .reservedRange => [(1, .number), (2, .number)]
  | .field =>
    [(1, .text), (2, .text), (3, .number), (4, .number), (5, .number), (6, .text), (7, .text),
      (8, .record .fieldOptions), (9, .number), (10, .text), (17, .number)]
  | .fieldOptions =>
    [(1, .number), (2, .number), (3, .number), (5, .number), (6, .number), (10, .number),
      uninterpreted]
  | .oneof => [(1, .text), (2, .record .oneofOptions)]
  | .oneofOptions => [uninterpreted]
  | .enum =>
    [(1, .text), (2, .record .enumValue), (3, .record .enumOptions),
      (4, .record .reservedRange), (5, .text)]
  | .enumOptions => [(2, .number), (3, .number), uninterpreted]
  | .enumValue => [(1, .text), (2, .number), (3, .record .enumValueOptions)]
  | .enumValueOptions => [(1, .number), uninterpreted]
  | .service => [(1, .text), (2, .record .method), (3, .record .serviceOptions)]
  | .serviceOptions => [(33, .number), uninterpreted]
  | .method =>
    [(1, .text), (2, .text), (3, .text), (4, .record .methodOptions), (5, .number), (6, .number)]
  | .methodOptions => [(33, .number), (34, .number), uninterpreted]
  | .uninterpretedOption =>
    [(2, .record .namePart), (3, .text), (4, .number), (5, .number), (6, .double), (7, .bytes),
      (8, .text)]
  | .namePart => [(1, .text), (2, .number)]

/-- The format of the plugin protocol. -/
def format : Format RecordType where
  field? type tag := type.fields.lookup tag

end Plugin
end ProtoTypings
