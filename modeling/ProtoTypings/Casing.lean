import ProtoTypings.Text
import ProtoTypings.Unicode.CaseConversion

/-!
# Casing

Camel case. A name is cut into words at everything that is neither letter nor digit, and inside a
run of letters and digits where the case of the letters shows a seam: before a capital that follows
a small letter (`orderItem`), and before the last capital of several that a small letter follows
(`HTTPServer`). Digits belong to the word they stand in.

* `words` — the words of a name.
* `upperCamel` — every word capitalised.
* `lowerCamel` — every word but the first capitalised.
-/

namespace ProtoTypings
namespace Casing

/-- The case of the last cased letter read since the current word began. -/
inductive LetterCase where
  | undecided
  | lower
  | upper
deriving Repr, DecidableEq

/-- The case after reading `c`. -/
def LetterCase.after (before : LetterCase) (c : Char) : LetterCase :=
  if Unicode.isLowercase c then .lower else if Unicode.isUppercase c then .upper else before

/-- The words of a run of letters and digits, of which `word` has been read, in reverse. -/
def wordsFrom : LetterCase → (word run : List Char) → List (List Char)
  | _, _, [] => []
  | _, word, [c] => [(c :: word).reverse]
  | before, word, c :: next :: rest =>
    if before.after c = .lower && Unicode.isUppercase next then
      (c :: word).reverse :: wordsFrom .undecided [] (next :: rest)
    else if before = .upper && Unicode.isUppercase c && Unicode.isLowercase next then
      word.reverse :: wordsFrom .undecided [c] (next :: rest)
    else
      wordsFrom (before.after c) (c :: word) (next :: rest)

/-- The maximal runs of letters and digits of a name; two separators in a row leave an empty run. -/
def runs (name : List Char) : List (List Char) :=
  Text.splitWhere (fun c => !Unicode.isAlphanumeric c) name

/-- The words of a name. -/
def words (name : List Char) : List (List Char) := (runs name).flatMap (wordsFrom .undecided [])

/-- A word in lower case; a capital sigma is final only as its last character. -/
def lowerWord : List Char → List Char
  | [] => []
  | [c] => if c = 'Σ' then ['ς'] else Unicode.lowerChar c
  | c :: rest => Unicode.lowerChar c ++ lowerWord rest

/-- A word with its first character in upper case and the others in lower case. -/
def capitalised : List Char → List Char
  | [] => []
  | c :: rest => Unicode.upperChar c ++ lowerWord rest

/-- `OrderItem` for `order_item`. -/
def upperCamel (name : List Char) : List Char := (words name).flatMap capitalised

/-- `orderItem` for `order_item`. -/
def lowerCamel (name : List Char) : List Char :=
  match words name with
  | [] => []
  | first :: rest => lowerWord first ++ rest.flatMap capitalised

end Casing
end ProtoTypings
