/-!
# Wire.Varint

Variable-length integers: base-128 digits, least significant first, all bytes but the last with the
high bit set. A reader takes at most ten bytes and a value of at most 64 bits, and does not insist
on the shortest form; the writer always uses it.

* `Varint.encode` — the shortest form of a 64-bit value.
* `Varint.read?` — a value and the bytes after it.
* `Varint.read?_encode` — a value is read back, whatever follows it.
-/

namespace ProtoTypings
namespace Wire
namespace Varint

/-- The most bytes that a 64-bit value takes. -/
def maxLength : Nat := 10

/-- The digits of `n`, at most `count` of them. -/
def digits : (count n : Nat) → List UInt8
  | 0, _ => []
  | count + 1, n =>
    if n < 128 then [UInt8.ofNat n] else UInt8.ofNat (n % 128 + 128) :: digits count (n / 128)

def encode (value : UInt64) : List UInt8 := digits maxLength value.toNat

/-- A number of at most `count` digits, and the bytes after it. -/
def readDigits? : (count : Nat) → List UInt8 → Option (Nat × List UInt8)
  | 0, _ => none
  | _ + 1, [] => none
  | count + 1, b :: bytes =>
    if b.toNat < 128 then some (b.toNat, bytes)
    else match readDigits? count bytes with
      | none => none
      | some (n, rest) => some (b.toNat % 128 + 128 * n, rest)

/-- A value, and the bytes after it. -/
def read? (bytes : List UInt8) : Option (UInt64 × List UInt8) :=
  match readDigits? maxLength bytes with
  | none => none
  | some (n, rest) => if n < UInt64.size then some (UInt64.ofNat n, rest) else none

/-- The values that some bytes consist of, at most `count` of them. -/
def readMany? : (count : Nat) → List UInt8 → Option (List UInt64)
  | _, [] => some []
  | 0, _ :: _ => none
  | count + 1, b :: bytes =>
    match read? (b :: bytes) with
    | none => none
    | some (value, rest) =>
      match readMany? count rest with
      | none => none
      | some values => some (value :: values)

/-- The values that some bytes consist of. Each takes at least one byte. -/
def readAll? (bytes : List UInt8) : Option (List UInt64) := readMany? bytes.length bytes

/-- How many numbers have at most `count` digits. -/
def capacity : (count : Nat) → Nat
  | 0 => 1
  | count + 1 => capacity count * 128

theorem readDigits?_digits {count n : Nat} (h : n < capacity (count + 1)) (rest : List UInt8) :
    readDigits? (count + 1) (digits (count + 1) n ++ rest) = some (n, rest) := by
  induction count generalizing n with
  | zero =>
    have hn : n < 128 := h
    have hb : (UInt8.ofNat n).toNat = n := by simp [UInt8.toNat_ofNat']; omega
    simp [digits, readDigits?, hn, hb]
  | succ count ih =>
    rw [digits]
    split
    · rename_i hn
      have hb : (UInt8.ofNat n).toNat = n := by simp [UInt8.toNat_ofNat']; omega
      simp [readDigits?, hn, hb]
    · rename_i hn
      have hb : (UInt8.ofNat (n % 128 + 128)).toNat = n % 128 + 128 := by
        simp [UInt8.toNat_ofNat']; omega
      have hq : n / 128 < capacity (count + 1) := by
        rw [Nat.div_lt_iff_lt_mul (by decide)]
        exact h
      rw [List.cons_append, readDigits?, hb, if_neg (by omega), ih hq]
      simp only [Option.some.injEq, Prod.mk.injEq, and_true]
      omega

theorem read?_encode (value : UInt64) (rest : List UInt8) :
    read? (encode value ++ rest) = some (value, rest) := by
  have hv : value.toNat < UInt64.size := value.toNat_lt
  have hc : UInt64.size ≤ capacity maxLength := by decide
  have h : readDigits? maxLength (digits maxLength value.toNat ++ rest) =
      some (value.toNat, rest) :=
    readDigits?_digits (Nat.lt_of_lt_of_le hv hc) rest
  simp only [read?, encode, h, if_pos hv, UInt64.ofNat_toNat]

end Varint
end Wire
end ProtoTypings
