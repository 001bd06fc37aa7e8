import ProtoTypings.Unicode.CharClass

/-!
# Text

Cutting text into pieces, on lists of characters.

* `splitWhere`, `splitOn` — the pieces between separators; joining them with the separator gives the
  text back.
* `cutAt` — the parts before and after the first separator.
* `trim` — white space removed at both ends.
* `dropPrefix?`, `dropSuffix?` — what is left when a text starts, or ends, as given.
-/

namespace ProtoTypings
namespace Text

/-- The pieces of a text between the characters that satisfy `p`, empty pieces included. -/
def splitWhere (p : Char → Bool) : List Char → List (List Char)
  | [] => [[]]
  | c :: cs => if p c then [] :: splitWhere p cs else (splitWhere p cs).modifyHead (c :: ·)

/-- The pieces of a text between occurrences of `sep`, empty pieces included. -/
def splitOn (sep : Char) (s : List Char) : List (List Char) := splitWhere (· == sep) s

/-- The parts before and after the first `sep`. -/
def cutAt (sep : Char) : List Char → Option (List Char × List Char)
  | [] => none
  | c :: cs =>
    if c == sep then some ([], cs)
    else match cutAt sep cs with
      | none => none
      | some (before, after) => some (c :: before, after)

/-- A text without the white space at its start and end. -/
def trim (s : List Char) : List Char :=
  ((s.dropWhile Unicode.isWhiteSpace).reverse.dropWhile Unicode.isWhiteSpace).reverse

/-- What follows `start`, if the text begins with it. -/
def dropPrefix? : (start s : List Char) → Option (List Char)
  | [], s => some s
  | _ :: _, [] => none
  | a :: start, c :: s => if a = c then dropPrefix? start s else none

/-- What precedes `ending`, if the text finishes with it. -/
def dropSuffix? (ending s : List Char) : Option (List Char) :=
  (dropPrefix? ending.reverse s.reverse).map List.reverse

/-! ## Splitting -/

theorem splitWhere_ne_nil (p : Char → Bool) (s : List Char) : splitWhere p s ≠ [] := by
  cases s with
  | nil => simp [splitWhere]
  | cons c cs =>
    simp only [splitWhere]
    split
    · simp
    · cases h : splitWhere p cs with
      | nil => exact absurd h (splitWhere_ne_nil p cs)
      | cons w ws => simp

theorem splitWhere_append {p : Char → Bool} {c : Char} (hc : p c) (s t : List Char) :
    splitWhere p (s ++ c :: t) = splitWhere p s ++ splitWhere p t := by
  induction s with
  | nil => simp [splitWhere, hc]
  | cons a s ih =>
    simp only [List.cons_append, splitWhere, ih]
    split
    · rfl
    · cases h : splitWhere p s with
      | nil => exact absurd h (splitWhere_ne_nil p s)
      | cons w ws => rfl

theorem splitOn_ne_nil (sep : Char) (s : List Char) : splitOn sep s ≠ [] :=
  splitWhere_ne_nil _ s

theorem splitOn_append (sep : Char) (s t : List Char) :
    splitOn sep (s ++ sep :: t) = splitOn sep s ++ splitOn sep t :=
  splitWhere_append (by simp) s t

/-! ## Prefixes and suffixes -/

theorem dropPrefix?_eq_some_iff {start s rest : List Char} :
    dropPrefix? start s = some rest ↔ s = start ++ rest := by
  induction start generalizing s with
  | nil => simp [dropPrefix?]
  | cons a start ih =>
    cases s with
    | nil => simp [dropPrefix?]
    | cons c s =>
      by_cases h : a = c
      · subst h; simp [dropPrefix?, ih]
      · simp [dropPrefix?, h, Ne.symm h]

theorem dropSuffix?_eq_some_iff {ending s rest : List Char} :
    dropSuffix? ending s = some rest ↔ s = rest ++ ending := by
  simp only [dropSuffix?, Option.map_eq_some_iff, dropPrefix?_eq_some_iff]
  constructor
  · rintro ⟨r, h, rfl⟩
    have := congrArg List.reverse h
    simpa using this
  · rintro rfl
    exact ⟨rest.reverse, by simp, by simp⟩

end Text
end ProtoTypings
