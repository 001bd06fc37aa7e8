/-!
# Wire.Scalar

Numbers, booleans and texts as they stand in a message. All integers are varints of 64 bits: a
32-bit number is read from the low half, and is written with its sign in the high half. Texts are
UTF-8.

* `toInt32`, `toBool`, `text?` — reading.
* `ofInt32`, `ofBool`, `utf8Bytes` — writing.
* `text?_eq_some_iff` — a text is read from exactly the bytes that write it.
-/

namespace ProtoTypings
namespace Wire

/-- A 32-bit number from a varint: the low 32 bits, signed. -/
def toInt32 (value : UInt64) : Int32 := value.toUInt32.toInt32

/-- The varint of a 32-bit number: its sign fills the high bits. -/
def ofInt32 (n : Int32) : UInt64 := n.toInt64.toUInt64

/-- A boolean from a varint: false is 0. -/
def toBool (value : UInt64) : Bool := value != 0

/-- The varint of a boolean. -/
def ofBool (b : Bool) : UInt64 := if b then 1 else 0

/-- The bytes of a text in UTF-8. -/
def utf8Bytes (s : String) : List UInt8 := s.toByteArray.data.toList

/-- The text that some bytes encode in UTF-8. -/
def text? (bytes : List UInt8) : Option String := String.fromUTF8? ⟨bytes.toArray⟩

@[simp] theorem toInt32_ofInt32 (n : Int32) : toInt32 (ofInt32 n) = n := by
  apply Int32.toBitVec_inj.1
  change (n.toBitVec.signExtend 64).setWidth 32 = n.toBitVec
  ext i hi
  have h : i < 64 := by omega
  simp [h, hi, BitVec.getElem_signExtend]

@[simp] theorem toBool_ofBool (b : Bool) : toBool (ofBool b) = b := by cases b <;> rfl

theorem text?_eq_some_iff {bytes : List UInt8} {s : String} :
    text? bytes = some s ↔ bytes = utf8Bytes s := by
  constructor
  · intro h
    simp only [text?, String.fromUTF8?] at h
    split at h
    · cases h
      simp [utf8Bytes, String.fromUTF8]
    · cases h
  · rintro rfl
    have h : (⟨(utf8Bytes s).toArray⟩ : ByteArray) = s.toByteArray := by simp [utf8Bytes]
    simp only [text?, h, String.fromUTF8?, s.isValidUTF8, dite_true]
    rfl

end Wire
end ProtoTypings
