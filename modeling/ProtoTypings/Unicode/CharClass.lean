import ProtoTypings.Unicode.Alphabetic
import ProtoTypings.Unicode.Numeric
import ProtoTypings.Unicode.LetterCase
import ProtoTypings.Unicode.CaseContext

/-!
# Unicode.CharClass

The character classes that splitting, trimming and re-casing of names rely on. Each is the Unicode
property of its name; for ASCII it is the familiar class, decided without a table.

* `isAlphanumeric`, `isLowercase`, `isUppercase` — letters, digits and the case of a letter.
* `isCased`, `isCaseIgnorable` — the surroundings that matter for a capital sigma.
* `isWhiteSpace` — what trimming removes.
-/

namespace ProtoTypings
namespace Unicode

/-- Letters and numbers: `Alphabetic`, or general category `Nd`, `Nl` or `No`. -/
def isAlphanumeric (c : Char) : Bool :=
  if c.toNat < 128 then c.isAlphanum else tableContains alphabetic c || tableContains numeric c

/-- The property `Lowercase`. -/
def isLowercase (c : Char) : Bool :=
  if c.toNat < 128 then c.isLower else tableContains lowercase c

/-- The property `Uppercase`. -/
def isUppercase (c : Char) : Bool :=
  if c.toNat < 128 then c.isUpper else tableContains uppercase c

/-- The property `Cased`. -/
def isCased (c : Char) : Bool := tableContains cased c

/-- The property `Case_Ignorable`. -/
def isCaseIgnorable (c : Char) : Bool := tableContains caseIgnorable c

/-- The code points of the property `White_Space`, ascending. -/
def whiteSpace : List CodeRange := [
  ⟨0x9, 0xD, 1⟩, ⟨0x20, 0x20, 1⟩, ⟨0x85, 0x85, 1⟩, ⟨0xA0, 0xA0, 1⟩, ⟨0x1680, 0x1680, 1⟩,
  ⟨0x2000, 0x200A, 1⟩, ⟨0x2028, 0x2029, 1⟩, ⟨0x202F, 0x202F, 1⟩, ⟨0x205F, 0x205F, 1⟩,
  ⟨0x3000, 0x3000, 1⟩]

/-- The property `White_Space`. -/
def isWhiteSpace (c : Char) : Bool := tableContains whiteSpace c

end Unicode
end ProtoTypings
