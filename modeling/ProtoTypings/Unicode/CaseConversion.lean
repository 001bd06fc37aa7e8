import ProtoTypings.Unicode.CharClass
import ProtoTypings.Unicode.CaseMapping

/-!
# Unicode.CaseConversion

Upper and lower case of characters and of text.

A character may map to several (`ß` to `SS`), so a character's case is a list. The case of a text
is that of its characters one by one, with one exception: a capital sigma that ends a word becomes
the final small sigma.

* `upperChar`, `lowerChar` — one character, out of context.
* `uppercased` — a text in upper case.
* `lowercased` — a text in lower case, with the sigma rule.
-/

namespace ProtoTypings
namespace Unicode

/-- The character `shift` code points after `c`. -/
def displace (c : Char) (shift : Int) : Char := Char.ofNat (c.toNat + shift).toNat

/-- The mapping of `c` by tables of expansions and of runs; `c` itself if neither has it. -/
def mapCase (expansions : List (Nat × List Nat)) (runs : List CaseRun) (c : Char) : List Char :=
  match expansions.lookup c.toNat with
  | some codes => codes.map Char.ofNat
  | none =>
    match runs.find? fun r => r.range.contains c.toNat with
    | some r => [displace c r.shift]
    | none => [c]

/-- `c` in upper case. -/
def upperChar (c : Char) : List Char :=
  if c.toNat < 128 then [c.toUpper] else mapCase upperExpansions upperRuns c

/-- `c` in lower case. -/
def lowerChar (c : Char) : List Char :=
  if c.toNat < 128 then [c.toLower] else mapCase lowerExpansions lowerRuns c

/-- A text in upper case, character by character. -/
def uppercased (s : List Char) : List Char := s.flatMap upperChar

/-- Whether the first character of `s` that is not `Case_Ignorable` is `Cased`. -/
def startsCased (s : List Char) : Bool :=
  match s.dropWhile isCaseIgnorable with
  | c :: _ => isCased c
  | [] => false

/-- Lower case of a text that follows `before`, which is held in reverse. A capital sigma is final
if a cased letter stands before it and none after it, `Case_Ignorable` characters aside. -/
def lowercasedAfter : List Char → List Char → List Char
  | _, [] => []
  | before, c :: rest =>
    (if c = 'Σ' then [if startsCased before && !startsCased rest then 'ς' else 'σ']
      else lowerChar c) ++ lowercasedAfter (c :: before) rest

/-- A text in lower case. -/
def lowercased (s : List Char) : List Char := lowercasedAfter [] s

/-! ## ASCII -/

theorem upperChar_of_ascii {c : Char} (h : c.toNat < 128) : upperChar c = [c.toUpper] := by
  simp [upperChar, h]

theorem lowerChar_of_ascii {c : Char} (h : c.toNat < 128) : lowerChar c = [c.toLower] := by
  simp [lowerChar, h]

end Unicode
end ProtoTypings
