import ProtoTypings.Wire.Record

/-!
# Wire.Format

Reading records. The format of a record type says which tags it knows and what they hold. A known
field must come with the payload that it asks for; a field of numbers may also come packed, many
numbers in one payload. All other fields are skipped, groups with everything in them, provided that
the groups are closed in order.

Nesting is limited: a record may only be entered, and a field only skipped, while the depth left is
not 0.

* `Format`, `FieldFormat` — what is known of the fields of each record type.
* `Format.read?` — the record that some bytes encode.
-/

namespace ProtoTypings
namespace Wire

/-- What a known field holds; `R` is the type of record types. -/
inductive FieldFormat (R : Type) where
  | number
  | numbers
  | double
  | text
  | bytes
  | record (type : R)
deriving Repr, DecidableEq

/-- The known fields of each record type. -/
structure Format (R : Type) where
  field? : R → (tag : Nat) → Option (FieldFormat R)

/-- The open groups after a token that is skipped, of which `groups` are open before it, the
innermost first. -/
def skip? (depth : Nat) (groups : List Nat) (token : Token) : Option (List Nat) :=
  match token.payload with
  | .groupEnd =>
    match groups with
    | [] => none
    | innermost :: outer => if innermost = token.tag then some outer else none
  | .groupStart => if groups.length < depth then some (token.tag :: groups) else none
  | _ => if groups.length < depth then some groups else none

variable {R : Type}

/-- The fields that the payload of a known field gives. Records are read by `record?`. Doubles and
bytes have the right payload or are refused, and are not kept. -/
def FieldFormat.fields? (record? : R → List UInt8 → Option Record) (tag : Nat) :
    FieldFormat R → Payload → Option Record
  | .number, .varint value => some [.number tag value]
  | .numbers, .varint value => some [.number tag value]
  | .numbers, .delimited data => (Varint.readAll? data).map (·.map (.number tag))
  | .double, .fixed64 _ => some []
  | .text, .delimited data => (Wire.text? data).map fun s => [.text tag s]
  | .bytes, .delimited _ => some []
  | .record type, .delimited data => (record? type data).map fun r => [.record tag r]
  | _, _ => none

namespace Format

/-- The fields that tokens give in a record type, with some groups open. -/
def fieldsOf? (format : Format R) (record? : R → List UInt8 → Option Record) (depth : Nat)
    (type : R) : (groups : List Nat) → List Token → Option Record
  | [], [] => some []
  | _ :: _, [] => none
  | groups, token :: tokens =>
    match groups, format.field? type token.tag with
    | [], some field =>
      match field.fields? record? token.tag token.payload with
      | none => none
      | some first => (format.fieldsOf? record? depth type [] tokens).map (first ++ ·)
    | _, _ =>
      match skip? depth groups token with
      | none => none
      | some groups => format.fieldsOf? record? depth type groups tokens

/-- The record of a type that some bytes encode, with so much depth left. -/
def readWithin? (format : Format R) : (depth : Nat) → R → List UInt8 → Option Record
  | 0, type, bytes =>
    match Token.readAll? bytes with
    | none => none
    | some tokens => format.fieldsOf? (fun _ _ => none) 0 type [] tokens
  | depth + 1, type, bytes =>
    match Token.readAll? bytes with
    | none => none
    | some tokens => format.fieldsOf? (format.readWithin? depth) (depth + 1) type [] tokens

/-- How deep records may nest. -/
def maxDepth : Nat := 100

/-- The record of a type that some bytes encode. -/
def read? (format : Format R) (type : R) (bytes : List UInt8) : Option Record :=
  format.readWithin? maxDepth type bytes

end Format

end Wire
end ProtoTypings
