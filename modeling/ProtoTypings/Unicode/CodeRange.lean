/-!
# Unicode.CodeRange

Sets of code points as they stand in the tables of the Unicode character database: a table is a
list of ranges, and a range takes every `step`-th code point from `first` to `last`. A step of 2
covers the alphabets in which capital and small letters alternate.

* `CodeRange.contains`, `tableContains` — membership of a code point.
-/

namespace ProtoTypings
namespace Unicode

/-- Every `step`-th code point from `first` to `last`, both included. -/
structure CodeRange where
  first : Nat
  last : Nat
  step : Nat
deriving Repr, DecidableEq

/-- Whether `n` is one of the code points of the range. -/
def CodeRange.contains (r : CodeRange) (n : Nat) : Bool :=
  r.first ≤ n && n ≤ r.last && (n - r.first) % r.step == 0

/-- Whether the code point of `c` lies in a range of `table`. -/
def tableContains (table : List CodeRange) (c : Char) : Bool :=
  table.any fun r => r.contains c.toNat

end Unicode
end ProtoTypings
