import ProtoTypings.Wire.Varint

/-!
# Wire.Token

The outermost structure of an encoded message, which needs no knowledge of the message's type: a
sequence of tokens, each a field's tag with a payload. Groups are not nested here; their two ends
are tokens of their own.

* `Token.read?`, `Token.readAll?` — one token, and all tokens of some bytes.
* `key` — the bytes in front of a payload.
-/

namespace ProtoTypings
namespace Wire

inductive Payload where
  | varint (value : UInt64)
  | fixed64 (bytes : List UInt8)
  | delimited (bytes : List UInt8)
  | groupStart
  | groupEnd
  | fixed32 (bytes : List UInt8)
deriving Repr, DecidableEq

structure Token where
  tag : Nat
  payload : Payload
deriving Repr, DecidableEq

/-- The key of a field: its tag and the wire type of the payload that follows. -/
def key (tag wireType : Nat) : List UInt8 := Varint.encode (UInt64.ofNat (tag * 8 + wireType))

/-- The first `count` bytes and those after them. -/
def takeExactly? (count : Nat) (bytes : List UInt8) : Option (List UInt8 × List UInt8) :=
  let taken := bytes.take count
  if taken.length = count then some (taken, bytes.drop count) else none

/-- A length and as many bytes, and the bytes after them. -/
def readDelimited? (bytes : List UInt8) : Option (List UInt8 × List UInt8) :=
  match Varint.read? bytes with
  | none => none
  | some (length, rest) => takeExactly? length.toNat rest

/-- A payload of the given wire type, and the bytes after it. -/
def Payload.read? (wireType : Nat) (bytes : List UInt8) : Option (Payload × List UInt8) :=
  match wireType with
  | 0 => (Varint.read? bytes).map fun (value, rest) => (.varint value, rest)
  | 1 => (takeExactly? 8 bytes).map fun (taken, rest) => (.fixed64 taken, rest)
  | 2 => (readDelimited? bytes).map fun (taken, rest) => (.delimited taken, rest)
  | 3 => some (.groupStart, bytes)
  | 4 => some (.groupEnd, bytes)
  | 5 => (takeExactly? 4 bytes).map fun (taken, rest) => (.fixed32 taken, rest)
  | _ => none

/-- A token, and the bytes after it. A key has at most 32 bits, and its tag is not 0. -/
def Token.read? (bytes : List UInt8) : Option (Token × List UInt8) :=
  match Varint.read? bytes with
  | none => none
  | some (key, rest) =>
    let tag := key.toNat / 8
    if key.toNat < UInt32.size ∧ tag ≠ 0 then
      (Payload.read? (key.toNat % 8) rest).map fun (payload, rest) => ({ tag, payload }, rest)
    else none

/-- The tokens that some bytes consist of, at most `count` of them. -/
def Token.readMany? : (count : Nat) → List UInt8 → Option (List Token)
  | _, [] => some []
  | 0, _ :: _ => none
  | count + 1, b :: bytes =>
    match Token.read? (b :: bytes) with
    | none => none
    | some (token, rest) =>
      match Token.readMany? count rest with
      | none => none
      | some tokens => some (token :: tokens)

/-- The tokens that some bytes consist of. Each takes at least one byte. -/
def Token.readAll? (bytes : List UInt8) : Option (List Token) :=
  Token.readMany? bytes.length bytes

end Wire
end ProtoTypings
