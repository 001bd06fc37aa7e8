import ProtoTypings.Proofs.MemberNames

/-!
# Proofs.FieldNames

The names of fields whose given names are in ASCII. The parts of such a name are the maximal runs of
letters and digits in it. It is put in lower case before it is cut into words, so the scan finds no
seam inside a run, whatever the case of its letters and wherever digits stand in it.

* `Casing.words_eq_iff` — the words of a text in lower case are its maximal runs.
* `Field.NamedByRuns` — the key of a field and the name in its accessors, made of runs.
* `Field.named_by_runs` — the names of a field in ASCII.
-/

namespace ProtoTypings

/-! ## Words -/

namespace Casing

open Text

/-- A text with its first character in upper case. -/
def inCapital (s : List Char) : List Char := s.modifyHead Char.toUpper

section Word

variable {w : List Char} (lower : ∀ c ∈ w, c.toNat < 128 ∧ Unicode.isUppercase c = false)
include lower

theorem lowerWord_of_lower : lowerWord w = w := by
  have own : ∀ c : Char, c.toNat < 128 ∧ Unicode.isUppercase c = false →
      Unicode.lowerChar c = [c] := by
    rintro c ⟨ascii, small⟩
    rw [Unicode.lowerChar_of_ascii ascii]
    exact Unicode.forall_ascii (P := fun c => Unicode.isUppercase c = false → [c.toLower] = [c])
      (by decide +kernel) c ascii small
  fun_induction lowerWord w with
  | case1 => rfl
  -- A sigma at the end of a word has a form of its own, but none is in ASCII.
  | case2 => exact absurd (lower 'Σ' (by simp)).1 (by decide)
  | case3 c _ => exact own c (lower c (by simp))
  | case4 c rest _ ih =>
    obtain ⟨hc, hrest⟩ := List.forall_mem_cons.1 lower
    rw [own c hc, ih hrest]
    rfl

theorem capitalised_of_lower : capitalised w = inCapital w := by
  cases w with
  | nil => rfl
  | cons c w =>
    obtain ⟨hc, hw⟩ := List.forall_mem_cons.1 lower
    rw [capitalised, Unicode.upperChar_of_ascii hc.1, lowerWord_of_lower hw]
    rfl

end Word

section Lower

variable {s : List Char} (lower : ∀ c ∈ s, c.toNat < 128 ∧ Unicode.isUppercase c = false)
  {ws : List (List Char)}
include lower

/-- No seam is in a run of a text in lower case, so its words are its maximal runs. -/
theorem words_eq_iff : words s = ws ↔ MaximalRuns Char.isAlphanum s ws := by
  have alphanumeric : ∀ c ∈ s, (!Unicode.isAlphanumeric c) = !c.isAlphanum := by
    intro c hc
    rw [Unicode.isAlphanumeric, if_pos (lower c hc).1]
  rw [words_of_small fun c hc => (lower c hc).2, runs, splitWhere_congr alphanumeric,
    maximalRuns_iff]

variable (runs : MaximalRuns Char.isAlphanum s ws)
include runs

theorem lower_of_mem {w : List Char} (hw : w ∈ ws) :
    ∀ c ∈ w, c.toNat < 128 ∧ Unicode.isUppercase c = false :=
  fun c hc => lower c ((runs.inside w hw).2 c hc).2

theorem upperCamel_of_runs : upperCamel s = ws.flatMap inCapital := by
  rw [upperCamel, (words_eq_iff lower).2 runs]
  exact List.flatMap_congr fun w hw => capitalised_of_lower (lower_of_mem lower runs hw)

theorem lowerCamel_of_runs :
    lowerCamel s = (ws.take 1).flatten ++ (ws.drop 1).flatMap inCapital := by
  rw [lowerCamel, (words_eq_iff lower).2 runs]
  cases ws with
  | nil => rfl
  | cons w ws =>
    have first : lowerWord w = w := lowerWord_of_lower (lower_of_mem lower runs (by simp))
    have others : ws.flatMap capitalised = ws.flatMap inCapital :=
      List.flatMap_congr fun v hv =>
        capitalised_of_lower (lower_of_mem lower runs (List.mem_cons_of_mem w hv))
    simp [first, others]

end Lower

/-- Only capitals in ASCII are changed, and they stay in it, so no character comes into it. -/
theorem toNat_lt_of_toLower {c : Char} (h : c.toLower.toNat < 128) : c.toNat < 128 := by
  delta Char.toLower at h
  split at h
  · rename_i upper
    exact Nat.lt_of_le_of_lt (UInt32.le_iff_toNat_le.1 upper.2) (by decide)
  · exact h

end Casing

/-! ## Names -/

namespace Proto

open Casing Text TypeScript

/-- A field whose names are made of these runs of letters and digits. -/
structure Field.NamedByRuns (f : Field) (ws : List (List Char)) : Prop where
  /-- They are the maximal runs of the given name in lower case. -/
  runs : ∀ vs, MaximalRuns Char.isAlphanum (f.name.toList.map Char.toLower) vs ↔ vs = ws
  /-- The case of letters in the given name does not matter to where they begin and end. -/
  places : ∃ given, MaximalRuns Char.isAlphanum f.name.toList given ∧
    ws = given.map (·.map Char.toLower)
  /-- The name is cut into words there and nowhere else. -/
  words : words (Unicode.lowercased f.name.toList) = ws
  camel : f.camelName.toList = (ws.take 1).flatten ++ (ws.drop 1).flatMap inCapital
  pascal : f.pascalName.toList = ws.flatMap inCapital

section Ascii

variable {f : Field} (ascii : IsAscii f.name)
include ascii

theorem Field.exists_namedByRuns : ∃ ws, f.NamedByRuns ws := by
  have lower := toLower_small ascii
  have alphanum : ∀ c ∈ f.name.toList, c.toLower.isAlphanum = c.isAlphanum := fun c hc =>
    Unicode.forall_ascii (P := fun c => c.toLower.isAlphanum = c.isAlphanum) (by decide +kernel) c
      (ascii c hc)
  obtain ⟨given, places⟩ := exists_maximalRuns (p := Char.isAlphanum) f.name.toList
  have runs := places.map alphanum
  have words := (words_eq_iff lower).2 runs
  refine ⟨given.map (·.map Char.toLower), fun vs => ?_, ⟨given, places, rfl⟩, ?_, ?_, ?_⟩
  · rw [← words_eq_iff lower, words, eq_comm]
  · rw [lowercased_of_ascii ascii, words]
  · rw [camelName, String.toList_ofList, lowercased_of_ascii ascii, lowerCamel_of_runs lower runs]
  · rw [pascalName, String.toList_ofList, lowercased_of_ascii ascii, upperCamel_of_runs lower runs]

/-- The case of letters in the given name does not matter. -/
theorem Field.names_eq_of_toLower {g : Field}
    (same : g.name.toList.map Char.toLower = f.name.toList.map Char.toLower) :
    g.camelName = f.camelName ∧ g.pascalName = f.pascalName := by
  have ascii' : IsAscii g.name := by
    intro c hc
    have among : c.toLower ∈ f.name.toList.map Char.toLower := same ▸ List.mem_map_of_mem hc
    exact toNat_lt_of_toLower (toLower_small ascii _ among).1
  rw [camelName, pascalName, lowercased_of_ascii ascii', same, ← lowercased_of_ascii ascii]
  exact ⟨rfl, rfl⟩

/-- The two names differ in the first character only, a capital in the one and not in the other. -/
theorem Field.pascalName_eq_inCapital :
    f.pascalName.toList = inCapital f.camelName.toList ∧
      f.camelName.toList = f.pascalName.toList.modifyHead Char.toLower := by
  obtain ⟨ws, named⟩ := Field.exists_namedByRuns ascii
  have runs := (named.runs ws).2 rfl
  rw [named.camel, named.pascal]
  cases ws with
  | nil => exact ⟨rfl, rfl⟩
  | cons w ws =>
    obtain ⟨c, rest, rfl⟩ := List.exists_cons_of_ne_nil (runs.inside w (by simp)).1
    have lower := lower_of_mem (toLower_small ascii) runs (List.mem_cons_self) c (by simp)
    have back : c.toUpper.toLower = c :=
      Unicode.forall_ascii (P := fun c => Unicode.isUppercase c = false → c.toUpper.toLower = c)
        (by decide +kernel) c lower.1 lower.2
    simp [inCapital, back]

theorem Field.isAlphanum_of_mem_names :
    (∀ c ∈ f.camelName.toList, c.isAlphanum) ∧ ∀ c ∈ f.pascalName.toList, c.isAlphanum := by
  have pascal : ∀ c ∈ f.pascalName.toList, c.isAlphanum := by
    rw [Field.pascalName_eq ascii]
    exact fun _ => isAlphanum_of_mem_inUpperCamel
  refine ⟨?_, pascal⟩
  rw [(Field.pascalName_eq_inCapital ascii).2]
  cases e : f.pascalName.toList with
  | nil => simp
  | cons c rest =>
    rw [e] at pascal
    obtain ⟨hc, hrest⟩ := List.forall_mem_cons.1 pascal
    exact List.forall_mem_cons.2 ⟨forall_alphanum (P := fun c => c.toLower.isAlphanum)
      (by decide +kernel) c hc, hrest⟩

end Ascii

/-- The names of a field in ASCII. They are made of the maximal runs of letters and digits of the
given name in lower case, each run but the first of the key beginning with a capital, so they are
the same but for the first character. They have letters and digits only, and given names that differ
in the case of letters lead to the same. The key and the accessors of the field, wherever it is
exposed, have these names with the same ending. -/
theorem Field.named_by_runs {f : Field} (ascii : IsAscii f.name) :
    (∃ ws, f.NamedByRuns ws) ∧
      (f.pascalName.toList = inCapital f.camelName.toList ∧
        f.camelName.toList = f.pascalName.toList.modifyHead Char.toLower) ∧
      ((∀ c ∈ f.camelName.toList, c.isAlphanum) ∧ ∀ c ∈ f.pascalName.toList, c.isAlphanum) ∧
      (∀ g : Field, g.name.toList.map Char.toLower = f.name.toList.map Char.toLower →
        g.camelName = f.camelName ∧ g.pascalName = f.pascalName) ∧
      ∀ (s : Scope) (e : ExposedField), s.expose f = .ok e → ∃ ending ∈ ["", "List", "Map"],
        e.property.key = f.camelName ++ ending ∧
        (∃ x ∈ e.accessors, x.name = "get" ++ (f.pascalName ++ ending)) ∧
        ∀ x ∈ e.accessors, IsAccessorName (f.pascalName ++ ending) x.name := by
  refine ⟨Field.exists_namedByRuns ascii, Field.pascalName_eq_inCapital ascii,
    Field.isAlphanum_of_mem_names ascii, fun _ => Field.names_eq_of_toLower ascii, ?_⟩
  intro s e exposes
  have names := e.accessorName_of_expose exposes
  obtain ⟨rfl, -, -⟩ := Scope.expose_eq_ok.1 exposes
  refine ⟨viewSuffix e.exposure.isMap e.field, ?_, e.property_key, e.exists_getter, names⟩
  unfold viewSuffix
  split
  · simp
  · split <;> simp

end Proto

namespace Sample

open Proto

/-- A field in whose name capitals, digits and several sorts of separators stand. -/
def port : Field := .plain "HTTPServer2__line-ITEM3d_" 1 (.scalar .int32)

end Sample

open Proto Sample in
theorem sample_named_by_runs : IsAscii port.name ∧
    port.NamedByRuns ["httpserver2".toList, "line".toList, "item3d".toList] ∧
    port.camelName = "httpserver2LineItem3d" ∧ port.pascalName = "Httpserver2LineItem3d" := by
  have ascii : IsAscii port.name := by decide +kernel
  obtain ⟨⟨ws, named⟩, -⟩ := Field.named_by_runs ascii
  have runs : ws = ["httpserver2".toList, "line".toList, "item3d".toList] :=
    named.words.symm.trans (by decide +kernel)
  exact ⟨ascii, runs ▸ named, by decide +kernel, by decide +kernel⟩

end ProtoTypings
