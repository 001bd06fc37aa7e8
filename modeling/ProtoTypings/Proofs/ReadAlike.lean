import ProtoTypings.Proofs.CaseImage

/-!
# Proofs.ReadAlike

What camel case keeps of a name: its letters and digits, and which of the letters begin a part of
the name. Names that agree in this much are written the same, and no others are.

A field's name is put in lower case before it is cut into words, so case shows no seams in it, and
its parts are what lies between the characters that are no letters or digits. In the name of a oneof
case does show seams, and its parts are its words.

* `letters`, `ReadAlike` — what is kept of a name, and names that agree in it.
* `inUpperCamel`, `inLowerCamel` — camel case made of it; `inUpperCamel_inj`, `inLowerCamel_inj`.
* `words_of_small` — the words of a text without capitals.
* `Field.pascalName_eq`, `Field.camelName_eq` — the names of fields.
* `caseSpelling`, `caseName_eq` — the name of the cases of a oneof.
-/

namespace ProtoTypings

/-- A text in ASCII. -/
def IsAscii (s : String) : Prop := ∀ c ∈ s.toList, c.toNat < 128

instance (s : String) : Decidable (IsAscii s) :=
  List.decidableBAll (fun c : Char => c.toNat < 128) s.toList

namespace Casing

/-! ## Letters -/

/-- A letter or digit of a name, a letter in small, and whether it is a letter that begins a part of
the name. -/
@[ext]
structure Letter where
  char : Char
  isInitial : Bool
deriving Repr, DecidableEq

/-- The letters and digits of a name. Parts lie between other characters; `starts` says that what
comes next begins one. -/
def lettersFrom : (starts : Bool) → List Char → List Letter
  | _, [] => []
  | starts, c :: rest =>
    if c.isAlphanum then ⟨c.toLower, starts && c.isAlpha⟩ :: lettersFrom false rest
    else lettersFrom true rest

/-- The letters and digits of a name. -/
def letters (name : String) : List Letter := lettersFrom true name.toList

/-- Names with the same letters and digits in the same order, whatever the case of the letters, of
which the same stand first in the name or right after something else. -/
def ReadAlike (a b : String) : Prop := letters a = letters b

instance (a b : String) : Decidable (ReadAlike a b) :=
  inferInstanceAs (Decidable (letters a = letters b))

theorem toNat_lt_of_isAlphanum {c : Char} (hc : c.isAlphanum) : c.toNat < 128 := by
  delta Char.isAlphanum Char.isAlpha Char.isUpper Char.isLower Char.isDigit at hc
  simp only [Bool.or_eq_true, Bool.and_eq_true, decide_eq_true_eq, UInt32.le_iff_toNat_le,
    ge_iff_le] at hc
  change ((65 ≤ c.toNat ∧ c.toNat ≤ 90) ∨ 97 ≤ c.toNat ∧ c.toNat ≤ 122) ∨
    48 ≤ c.toNat ∧ c.toNat ≤ 57 at hc
  omega

/-- A property of all letters and digits, checked one by one. -/
theorem forall_alphanum {P : Char → Prop}
    (h : ∀ n < 128, (Char.ofNat n).isAlphanum → P (Char.ofNat n)) (c : Char)
    (hc : c.isAlphanum) : P c :=
  Unicode.forall_ascii (P := fun c => c.isAlphanum → P c) h c (toNat_lt_of_isAlphanum hc) hc

theorem lettersFrom_append {c : Char} (hc : c.isAlphanum = false) (starts : Bool)
    (s t : List Char) :
    lettersFrom starts (s ++ c :: t) = lettersFrom starts s ++ lettersFrom true t := by
  induction s generalizing starts with
  | nil => simp [lettersFrom, hc]
  | cons a s ih =>
    simp only [List.cons_append, lettersFrom, ih]
    split <;> rfl

theorem letters_append (a b : String) : letters (a ++ ("_" ++ b)) = letters a ++ letters b := by
  rw [letters, String.toList_append, String.toList_append]
  exact lettersFrom_append (c := '_') (by decide) true _ _

theorem exists_of_mem_lettersFrom {starts : Bool} {s : List Char} {l : Letter}
    (h : l ∈ lettersFrom starts s) :
    ∃ c : Char, c.isAlphanum ∧ ∃ begins, l = ⟨c.toLower, begins && c.isAlpha⟩ := by
  induction s generalizing starts with
  | nil => cases h
  | cons c s ih =>
    rw [lettersFrom] at h
    split at h
    · rename_i hc
      rcases List.mem_cons.1 h with rfl | h
      · exact ⟨c, hc, starts, rfl⟩
      · exact ih h
    · exact ih h

/-- The first letter of all begins a part. -/
theorem isInitial_of_letters {s : List Char} {l : Letter} {ls : List Letter}
    (h : lettersFrom true s = l :: ls) : l.isInitial = l.char.isAlpha := by
  induction s with
  | nil => cases h
  | cons c s ih =>
    rw [lettersFrom] at h
    split at h
    · rename_i hc
      obtain ⟨rfl, -⟩ := List.cons.inj h
      exact forall_alphanum (P := fun c => (true && c.isAlpha) = c.toLower.isAlpha)
        (by decide +kernel) c hc
    · exact ih h

theorem isUpper_of_mem_lettersFrom {starts : Bool} {s : List Char} {l : Letter}
    (h : l ∈ lettersFrom starts s) : l.char.isUpper = false := by
  obtain ⟨c, hc, begins, rfl⟩ := exists_of_mem_lettersFrom h
  exact forall_alphanum (P := fun c => c.toLower.isUpper = false) (by decide +kernel) c hc

/-! ## Writing -/

/-- A letter as camel case has it: a capital where it begins a part. -/
def Letter.written (l : Letter) : Char := if l.isInitial then l.char.toUpper else l.char

/-- Letters as camel case has them, but the first in small. -/
def lowerWritten : List Letter → List Char
  | [] => []
  | l :: ls => l.char :: ls.map Letter.written

/-- What is kept of a name in camel case: `OrderItem` for `order_item`. -/
def inUpperCamel (name : String) : String := String.ofList ((letters name).map Letter.written)

/-- What is kept of a name in camel case: `orderItem` for `order_item`. -/
def inLowerCamel (name : String) : String := String.ofList (lowerWritten (letters name))

/-- The letter that is written as the character. -/
def Letter.ofWritten (c : Char) : Letter := ⟨c.toLower, c.isUpper⟩

theorem Letter.ofWritten_written {starts : Bool} {s : List Char} {l : Letter}
    (h : l ∈ lettersFrom starts s) : ofWritten l.written = l := by
  obtain ⟨c, hc, begins, rfl⟩ := exists_of_mem_lettersFrom h
  exact forall_alphanum (P := fun c => ∀ begins : Bool,
    ofWritten (written ⟨c.toLower, begins && c.isAlpha⟩) = ⟨c.toLower, begins && c.isAlpha⟩)
    (by decide +kernel) c hc begins

theorem isAlphanum_of_mem_inUpperCamel {name : String} {x : Char}
    (h : x ∈ (inUpperCamel name).toList) : x.isAlphanum := by
  rw [inUpperCamel, String.toList_ofList] at h
  obtain ⟨l, hl, rfl⟩ := List.mem_map.1 h
  obtain ⟨c, hc, begins, rfl⟩ := exists_of_mem_lettersFrom hl
  exact forall_alphanum (P := fun c => ∀ begins : Bool,
    (Letter.written ⟨c.toLower, begins && c.isAlpha⟩).isAlphanum) (by decide +kernel) c hc begins

theorem map_ofWritten (starts : Bool) (s : List Char) :
    ((lettersFrom starts s).map Letter.written).map Letter.ofWritten = lettersFrom starts s := by
  have back : ∀ l ∈ lettersFrom starts s, (Letter.ofWritten ∘ Letter.written) l = id l :=
    fun _ h => Letter.ofWritten_written h
  rw [List.map_map, List.map_congr_left back, List.map_id]

theorem inUpperCamel_inj {a b : String} : inUpperCamel a = inUpperCamel b ↔ ReadAlike a b := by
  rw [inUpperCamel, inUpperCamel, String.ofList_inj]
  constructor
  · intro same
    rw [ReadAlike, letters, letters, ← map_ofWritten true a.toList, ← map_ofWritten true b.toList]
    exact congrArg (List.map Letter.ofWritten) same
  · intro same
    rw [same]

example : ReadAlike "item_list" "_Item__LIST" ∧ ¬ ReadAlike "item_list" "itemlist" := by
  decide +kernel

/-- Only the first letter is written otherwise, and it is known to begin a part. -/
theorem lowerWritten_inj {s t : List Char}
    (h : lowerWritten (lettersFrom true s) = lowerWritten (lettersFrom true t)) :
    lettersFrom true s = lettersFrom true t := by
  have hs := map_ofWritten true s
  have ht := map_ofWritten true t
  cases es : lettersFrom true s with
  | nil =>
    cases et : lettersFrom true t with
    | nil => rfl
    | cons m ms =>
      rw [es, et] at h
      cases h
  | cons l ls =>
    cases et : lettersFrom true t with
    | nil =>
      rw [es, et] at h
      cases h
    | cons m ms =>
      rw [es, et, lowerWritten, lowerWritten, List.cons.injEq] at h
      obtain ⟨first, rest⟩ := h
      rw [es, List.map_cons, List.map_cons, List.cons.injEq] at hs
      rw [et, List.map_cons, List.map_cons, List.cons.injEq] at ht
      have initial : l.isInitial = m.isInitial := by
        rw [isInitial_of_letters es, isInitial_of_letters et, first]
      have tail : ls = ms := by rw [← hs.2, rest, ht.2]
      rw [tail, Letter.ext first initial]

theorem inLowerCamel_inj {a b : String} : inLowerCamel a = inLowerCamel b ↔ ReadAlike a b := by
  rw [inLowerCamel, inLowerCamel, String.ofList_inj]
  constructor
  · exact lowerWritten_inj
  · intro same
    rw [same]

/-- What has letters begins with no capital. -/
theorem inLowerCamel_head {name : String} (h : letters name ≠ []) :
    ∃ c rest, (inLowerCamel name).toList = c :: rest ∧ c.isUpper = false := by
  obtain ⟨l, ls, e⟩ := List.exists_cons_of_ne_nil h
  have first : l ∈ letters name := e ▸ List.mem_cons_self
  have small : l.char.isUpper = false := isUpper_of_mem_lettersFrom first
  exact ⟨l.char, ls.map Letter.written, by rw [inLowerCamel, e, String.toList_ofList, lowerWritten],
    small⟩

theorem inUpperCamel_append (a b : String) :
    inUpperCamel (a ++ ("_" ++ b)) = inUpperCamel a ++ inUpperCamel b := by
  rw [inUpperCamel, letters_append, List.map_append, String.ofList_append]
  rfl

theorem inLowerCamel_append {a : String} (ha : letters a ≠ []) (b : String) :
    inLowerCamel (a ++ ("_" ++ b)) = inLowerCamel a ++ inUpperCamel b := by
  obtain ⟨l, ls, e⟩ := List.exists_cons_of_ne_nil ha
  rw [inLowerCamel, letters_append, inLowerCamel, e, List.cons_append, lowerWritten, lowerWritten,
    List.map_append, ← List.cons_append, String.ofList_append]
  rfl

/-! ## Words -/

theorem lettersFrom_cons {c : Char} (hc : c.isAlphanum) (starts : Bool) (s : List Char) :
    lettersFrom starts (c :: s) = ⟨c.toLower, starts && c.isAlpha⟩ :: lettersFrom false s := by
  rw [lettersFrom, if_pos hc]

theorem lowerWord_eq {w : List Char} (h : ∀ c ∈ w, c.isAlphanum) :
    lowerWord w = (lettersFrom false w).map Letter.written := by
  have lower : ∀ c : Char, c.isAlphanum → Unicode.lowerChar c = [c.toLower] :=
    fun _ hc => Unicode.lowerChar_of_ascii (toNat_lt_of_isAlphanum hc)
  fun_induction lowerWord w with
  | case1 => rfl
  | case2 => exact absurd (h 'Σ' (by simp)) (by decide)
  | case3 c _ =>
    have hc := h c (by simp)
    rw [lower c hc, lettersFrom_cons hc]
    rfl
  | case4 c rest _ ih =>
    obtain ⟨hc, hw⟩ := List.forall_mem_cons.1 h
    rw [lower c hc, lettersFrom_cons hc, ih hw]
    rfl

theorem capitalised_eq {w : List Char} (h : ∀ c ∈ w, c.isAlphanum) :
    capitalised w = (lettersFrom true w).map Letter.written := by
  cases w with
  | nil => rfl
  | cons c w =>
    obtain ⟨hc, hw⟩ := List.forall_mem_cons.1 h
    have upper : c.toUpper = Letter.written ⟨c.toLower, true && c.isAlpha⟩ :=
      forall_alphanum (P := fun c => c.toUpper = Letter.written ⟨c.toLower, true && c.isAlpha⟩)
        (by decide +kernel) c hc
    rw [capitalised, Unicode.upperChar_of_ascii (toNat_lt_of_isAlphanum hc), upper,
      lowerWord_eq hw, lettersFrom_cons hc]
    rfl

section Ascii

variable {name : List Char} (ascii : ∀ c ∈ name, c.toNat < 128)
include ascii

theorem isAlphanum_of_mem_words {w : List Char} (h : w ∈ words name) :
    ∀ c ∈ w, c.isAlphanum := by
  intro c hc
  obtain ⟨run, hrun, hw⟩ := List.mem_flatMap.1 h
  rcases mem_of_mem_wordsFrom hw hc with inNil | inRun
  · cases inNil
  · exact isAlphanum_of_mem_word h hc (ascii c (Text.mem_of_mem_splitWhere hrun inRun))

theorem flatMap_capitalised {ws : List (List Char)} (h : ∀ w ∈ ws, w ∈ words name) :
    ws.flatMap capitalised = (ws.flatMap (lettersFrom true)).map Letter.written := by
  rw [List.map_flatMap]
  exact List.flatMap_congr fun w hw => capitalised_eq (isAlphanum_of_mem_words ascii (h w hw))

theorem upperCamel_eq :
    upperCamel name = ((words name).flatMap (lettersFrom true)).map Letter.written :=
  flatMap_capitalised ascii fun _ h => h

/-- The letters of a name are those of its runs, each of which but the first begins a part. -/
theorem lettersFrom_runs (starts : Bool) :
    ∃ first rest, runs name = first :: rest ∧
      lettersFrom starts name = lettersFrom starts first ++ rest.flatMap (lettersFrom true) := by
  induction name generalizing starts with
  | nil => exact ⟨[], [], rfl, rfl⟩
  | cons c s ih =>
    obtain ⟨hc, hs⟩ := List.forall_mem_cons.1 ascii
    have own : Unicode.isAlphanumeric c = c.isAlphanum := by rw [Unicode.isAlphanumeric, if_pos hc]
    rw [runs, Text.splitWhere, own, lettersFrom]
    cases h : c.isAlphanum with
    | true =>
      obtain ⟨first, rest, e, letters⟩ := ih hs false
      rw [runs] at e
      refine ⟨c :: first, rest, by simp [e], ?_⟩
      rw [lettersFrom_cons h, letters]
      rfl
    | false =>
      obtain ⟨first, rest, e, letters⟩ := ih hs true
      rw [runs] at e
      refine ⟨[], first :: rest, by simp [e], ?_⟩
      rw [letters]
      rfl

end Ascii

/-- A run without capitals is a word. -/
theorem wordsFrom_of_small {before : LetterCase} {word run : List Char}
    (small : ∀ c ∈ run, Unicode.isUppercase c = false) (nonempty : run ≠ []) :
    wordsFrom before word run = [word.reverse ++ run] := by
  fun_induction wordsFrom before word run with
  | case1 => exact absurd rfl nonempty
  | case2 => simp
  -- Each of the seams has a capital at it.
  | case3 before word c next rest seam _ => simp [small] at seam
  | case4 before word c next rest _ seam _ => simp [small] at seam
  | case5 before word c next rest _ _ ih =>
    rw [ih (fun d hd => small d (List.mem_cons_of_mem _ hd)) (by simp)]
    simp

/-- The words of a text without capitals are its runs, as far as there is something in them. -/
theorem words_of_small {name : List Char} (small : ∀ c ∈ name, Unicode.isUppercase c = false) :
    words name = (runs name).filter (· ≠ []) := by
  have each : ∀ rs : List (List Char), (∀ r ∈ rs, r ∈ runs name) →
      rs.flatMap (wordsFrom .undecided []) = rs.filter (· ≠ []) := by
    intro rs hrs
    induction rs with
    | nil => rfl
    | cons r rs ih =>
      obtain ⟨hr, hrs⟩ := List.forall_mem_cons.1 hrs
      rw [List.flatMap_cons, ih hrs]
      cases r with
      | nil => rfl
      | cons c r =>
        rw [wordsFrom_of_small (fun d hd => small d (Text.mem_of_mem_splitWhere hr hd)) (by simp)]
        rfl
  exact each _ fun _ h => h

section Small

variable {name : List Char} (ascii : ∀ c ∈ name, c.toNat < 128)
  (small : ∀ c ∈ name, Unicode.isUppercase c = false)
include ascii small

theorem lettersFrom_words : (words name).flatMap (lettersFrom true) = lettersFrom true name := by
  have nonempty : ∀ rs : List (List Char),
      (rs.filter (· ≠ [])).flatMap (lettersFrom true) = rs.flatMap (lettersFrom true) := by
    intro rs
    induction rs with
    | nil => rfl
    | cons r rs ih =>
      cases r with
      | nil => exact ih
      | cons c r => exact congrArg (lettersFrom true (c :: r) ++ ·) ih
  obtain ⟨first, rest, e, letters⟩ := lettersFrom_runs ascii true
  rw [words_of_small small, nonempty, e, letters]
  rfl

theorem upperCamel_of_small : upperCamel name = (lettersFrom true name).map Letter.written := by
  rw [upperCamel_eq ascii, lettersFrom_words ascii small]

theorem lowerCamel_of_small : lowerCamel name = lowerWritten (lettersFrom true name) := by
  rw [← lettersFrom_words ascii small, lowerCamel]
  cases e : words name with
  | nil => rfl
  | cons first rest =>
    have hf : first ∈ words name := e ▸ List.mem_cons_self
    have hr : ∀ w ∈ rest, w ∈ words name := fun w hw => e ▸ List.mem_cons_of_mem _ hw
    have plain := isAlphanum_of_mem_words ascii hf
    cases first with
    | nil => simp [words_of_small small] at hf
    | cons c w =>
      have hc := plain c (by simp)
      simp only
      rw [lowerWord_eq plain, flatMap_capitalised ascii hr, List.flatMap_cons, lettersFrom_cons hc,
        lettersFrom_cons hc, List.cons_append, lowerWritten, List.map_append]
      rfl

end Small

/-! ## Lower case -/

theorem lowercased_of_ascii {s : List Char} (ascii : ∀ c ∈ s, c.toNat < 128) :
    Unicode.lowercased s = s.map Char.toLower := by
  have after : ∀ before, Unicode.lowercasedAfter before s = s.map Char.toLower := by
    induction s with
    | nil => exact fun _ => rfl
    | cons c s ih =>
      obtain ⟨hc, hs⟩ := List.forall_mem_cons.1 ascii
      have other : c ≠ 'Σ' := by
        rintro rfl
        exact absurd hc (by decide)
      intro before
      rw [Unicode.lowercasedAfter, if_neg other, Unicode.lowerChar_of_ascii hc, ih hs]
      rfl
  exact after []

theorem lettersFrom_map_toLower {s : List Char} (ascii : ∀ c ∈ s, c.toNat < 128)
    (starts : Bool) : lettersFrom starts (s.map Char.toLower) = lettersFrom starts s := by
  induction s generalizing starts with
  | nil => rfl
  | cons c s ih =>
    obtain ⟨hc, hs⟩ := List.forall_mem_cons.1 ascii
    obtain ⟨alphanum, alpha, again⟩ := Unicode.forall_ascii
      (P := fun c => c.toLower.isAlphanum = c.isAlphanum ∧ c.toLower.isAlpha = c.isAlpha ∧
        c.toLower.toLower = c.toLower) (by decide +kernel) c hc
    rw [List.map_cons, lettersFrom, lettersFrom, alphanum, alpha, again, ih hs, ih hs]

theorem toLower_small {s : List Char} (ascii : ∀ c ∈ s, c.toNat < 128) :
    ∀ c ∈ s.map Char.toLower, c.toNat < 128 ∧ Unicode.isUppercase c = false := by
  intro c hc
  obtain ⟨d, hd, rfl⟩ := List.mem_map.1 hc
  exact Unicode.forall_ascii
    (P := fun d => d.toLower.toNat < 128 ∧ Unicode.isUppercase d.toLower = false)
    (by decide +kernel) d (ascii d hd)

end Casing

namespace Proto

open Casing

theorem Field.pascalName_eq {f : Field} (ascii : IsAscii f.name) :
    f.pascalName = inUpperCamel f.name := by
  have small := toLower_small ascii
  rw [pascalName, lowercased_of_ascii ascii, upperCamel_of_small (fun c hc => (small c hc).1)
    (fun c hc => (small c hc).2), lettersFrom_map_toLower ascii]
  rfl

theorem Field.camelName_eq {f : Field} (ascii : IsAscii f.name) :
    f.camelName = inLowerCamel f.name := by
  have small := toLower_small ascii
  rw [camelName, lowercased_of_ascii ascii, lowerCamel_of_small (fun c hc => (small c hc).1)
    (fun c hc => (small c hc).2), lettersFrom_map_toLower ascii]
  rfl

/-- The words of a oneof with underscores between them, and `case` as one more. -/
def caseSpelling (oneof : String) : String :=
  String.ofList ((words oneof.toList).flatMap (· ++ ['_'])) ++ "case"

theorem letters_caseSpelling (oneof : String) :
    letters (caseSpelling oneof) =
      (words oneof.toList).flatMap (lettersFrom true) ++ letters "case" := by
  rw [caseSpelling, letters, String.toList_append, String.toList_ofList]
  induction words oneof.toList with
  | nil => rfl
  | cons w ws ih =>
    rw [List.flatMap_cons, List.flatMap_cons, List.append_assoc, List.append_assoc,
      List.append_assoc, ← ih]
    exact lettersFrom_append (c := '_') (by decide) true w _

theorem caseName_eq {oneof : String} (ascii : IsAscii oneof) :
    caseName oneof = inUpperCamel (caseSpelling oneof) := by
  rw [caseName, upperCamel_eq ascii, inUpperCamel, letters_caseSpelling, List.map_append,
    String.ofList_append]
  rfl

end Proto
end ProtoTypings
