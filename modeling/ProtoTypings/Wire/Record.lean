import ProtoTypings.Wire.Scalar
import ProtoTypings.Wire.Token

/-!
# Wire.Record

Records: what a message holds once its type is known, as the list of its fields in the order of the
bytes. A field that may occur once and occurs again is kept each time. Its last value counts, and a
record in it is the concatenation of its occurrences.

* `Field`, `Record` — a field with its tag and value, and a message.
* `Record.encode` — the bytes of a record.
* `Record.texts`, `Record.numbers`, `Record.records` — the values at a tag, in order.
* `Record.text?`, `Record.number?`, `Record.record?` — the value at a tag that may occur once.
* `Record.textField`, `Record.int32Field`, `Record.boolField` — fields that may be unset.
-/

namespace ProtoTypings
namespace Wire

inductive Field where
  /-- An integer, a boolean or an enum value, as the 64 bits of its varint. -/
  | number (tag : Nat) (value : UInt64)
  | text (tag : Nat) (value : String)
  | record (tag : Nat) (fields : List Field)
deriving Repr

abbrev Record := List Field

/-- A length and as many bytes. -/
def delimited (bytes : List UInt8) : List UInt8 :=
  Varint.encode (UInt64.ofNat bytes.length) ++ bytes

mutual

def Field.encode : Field → List UInt8
  | .number tag value => key tag 0 ++ Varint.encode value
  | .text tag value => key tag 2 ++ delimited (utf8Bytes value)
  | .record tag fields => key tag 2 ++ delimited (encodeFields fields)

/-- The bytes of fields one after the other. -/
def encodeFields : List Field → List UInt8
  | [] => []
  | f :: fields => f.encode ++ encodeFields fields

end

namespace Record

def encode (r : Record) : List UInt8 := encodeFields r

/-! ## The values at a tag -/

/-- The texts at a tag. -/
def texts (tag : Nat) (r : Record) : List String :=
  r.filterMap fun
    | .text t value => if t = tag then some value else none
    | _ => none

/-- The numbers at a tag. -/
def numbers (tag : Nat) (r : Record) : List UInt64 :=
  r.filterMap fun
    | .number t value => if t = tag then some value else none
    | _ => none

/-- The records at a tag. -/
def records (tag : Nat) (r : Record) : List Record :=
  r.filterMap fun
    | .record t fields => if t = tag then some fields else none
    | _ => none

/-- The text at a tag that occurs once: the last one. -/
def text? (tag : Nat) (r : Record) : Option String := (r.texts tag).getLast?

/-- The number at a tag that occurs once: the last one. -/
def number? (tag : Nat) (r : Record) : Option UInt64 := (r.numbers tag).getLast?

/-- The record at a tag that occurs once: all occurrences together. -/
def record? (tag : Nat) (r : Record) : Option Record :=
  match r.records tag with
  | [] => none
  | occurrences => some occurrences.flatten

/-! ## Fields that may be unset -/

/-- The field of a text. -/
def textField (tag : Nat) (value : Option String) : Record := (value.map (.text tag)).toList

/-- The field of a 64-bit number. -/
def wordField (tag : Nat) (value : Option UInt64) : Record := (value.map (.number tag)).toList

/-- The field of a 32-bit number. -/
def int32Field (tag : Nat) (value : Option Int32) : Record := wordField tag (value.map ofInt32)

/-- The field of a boolean. -/
def boolField (tag : Nat) (value : Option Bool) : Record := wordField tag (value.map ofBool)

end Record

end Wire
end ProtoTypings
