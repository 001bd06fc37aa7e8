import ProtoTypings.Proofs.Checks
import ProtoTypings.Proofs.Splitting
import ProtoTypings.Settings

/-!
# Proofs.Parameter

The grammar of parameters. A parameter is cut into pieces at its commas. A piece sets a key if it is
a known key, `=` and a value, with white space around each; any other piece is at fault.

* `HasPieces` — the pieces of a parameter, without the white space around them and without blanks.
* `Sets`, `Faulty` — a piece that sets a key, and one at fault with the error it causes.
* `LastValue`, `Overrides` — what is set in the end, over what was set before.
* `sets_or_faulty`, `applyPair_of_sets`, `applyPair_of_faulty` — one piece.
* `applyPairs_eq_ok`, `applyPairs_eq_error_iff` — pieces in order.
* `parse_follows_grammar` — parameters are read by the grammar.
-/

namespace ProtoTypings
namespace Settings

open Text

/-! ## The grammar -/

/-- The pieces of a parameter that is cut at every comma, without the white space around each and
without those of which nothing is left. -/
def HasPieces (parameter : String) (pieces : List (List Char)) : Prop :=
  ∃ cuts cores, cuts ≠ [] ∧ (∀ cut ∈ cuts, ',' ∉ cut) ∧
    [','].intercalate cuts = parameter.toList ∧ List.Forall₂ IsTrim cuts cores ∧
    pieces = cores.filter (· ≠ [])

def keys : List String := ["runtime_module", "output_suffix"]

/-- A piece that gives a key a value: a known key, the first `=`, and a value that is not blank. -/
def Sets (piece : List Char) (key value : String) : Prop :=
  ∃ before after, piece = before ++ '=' :: after ∧ '=' ∉ before ∧ IsTrim before key.toList ∧
    IsTrim after value.toList ∧ key ∈ keys ∧ value ≠ ""

/-- A piece at fault, with its error. A blank value is reported whatever the key. -/
inductive Faulty : List Char → SettingsError → Prop where
  | notAPair {piece : List Char} : '=' ∉ piece → Faulty piece (.notAPair (String.ofList piece))
  | emptyValue {before after : List Char} : '=' ∉ before → Blank after →
      Faulty (before ++ '=' :: after) (.emptyValue (String.ofList before))
  | unknownKey {before after : List Char} {key : String} : '=' ∉ before → ¬ Blank after →
      IsTrim before key.toList → key ∉ keys → Faulty (before ++ '=' :: after) (.unknownKey key)

/-- The value of a key after some pieces: that of the last piece that sets it, or the initial one if
none does. -/
def LastValue (pieces : List (List Char)) (key initial value : String) : Prop :=
  (∃ before piece after, pieces = before ++ piece :: after ∧ Sets piece key value ∧
    ∀ p ∈ after, ∀ v, ¬ Sets p key v) ∨
  (value = initial ∧ ∀ p ∈ pieces, ∀ v, ¬ Sets p key v)

/-- Settings that some pieces make of others. -/
structure Overrides (s : Settings) (pieces : List (List Char)) (t : Settings) : Prop where
  runtimeModule : LastValue pieces "runtime_module" s.runtimeModule t.runtimeModule
  outputSuffix : LastValue pieces "output_suffix" s.outputSuffix t.outputSuffix

/-! ## Pieces -/

/-- The pairs of a parameter are its pieces. -/
theorem pairs_eq_iff {parameter : String} {pieces : List (List Char)} :
    pairs parameter = pieces ↔ HasPieces parameter pieces := by
  have trimmed : ∀ cuts cores : List (List Char),
      List.Forall₂ IsTrim cuts cores ↔ cuts.map trim = cores := by
    intro cuts cores
    rw [← List.forall₂_eq_eq_eq, List.forall₂_map_left_iff]
    simp only [trim_eq_iff]
  constructor
  · rintro rfl
    obtain ⟨ne, free, whole⟩ := splitOn_eq_iff.1 (rfl : splitOn ',' parameter.toList = _)
    exact ⟨_, _, ne, free, whole, (trimmed _ _).2 rfl, rfl⟩
  · rintro ⟨cuts, cores, ne, free, whole, trims, rfl⟩
    rw [pairs, splitOn_eq_iff.2 ⟨ne, free, whole⟩, (trimmed _ _).1 trims]

theorem pairs_append (p q : String) : pairs (p ++ "," ++ q) = pairs p ++ pairs q := by
  have parts : (p ++ "," ++ q).toList = p.toList ++ ',' :: q.toList := by simp
  rw [pairs, parts, splitOn_append, List.map_append, List.filter_append]
  rfl

/-! ## One piece -/

theorem Sets.mem_keys {piece : List Char} {key value : String} (h : Sets piece key value) :
    key ∈ keys := by
  obtain ⟨-, -, -, -, -, -, known, -⟩ := h
  exact known

/-- A piece sets at most one key, and to one value. -/
theorem Sets.unique {piece : List Char} {key key' value value' : String}
    (h : Sets piece key value) (h' : Sets piece key' value') : key = key' ∧ value = value' := by
  obtain ⟨before, after, rfl, free, trimKey, trimValue, -, -⟩ := h
  obtain ⟨before', after', e, free', trimKey', trimValue', -, -⟩ := h'
  have cut := cutAt_of_not_mem free after
  rw [e, cutAt_of_not_mem free', Option.some.injEq, Prod.mk.injEq] at cut
  obtain ⟨rfl, rfl⟩ := cut
  rw [← trim_eq_iff] at trimKey trimKey' trimValue trimValue'
  exact ⟨String.toList_inj.1 (trimKey.symm.trans trimKey'),
    String.toList_inj.1 (trimValue.symm.trans trimValue')⟩

theorem assign_of_mem (s : Settings) {key : String} (h : key ∈ keys) (value : String) :
    (key = "runtime_module" ∧ s.assign key value = .ok { s with runtimeModule := value }) ∨
      (key = "output_suffix" ∧ s.assign key value = .ok { s with outputSuffix := value }) := by
  simp only [keys, List.mem_cons, List.not_mem_nil, or_false] at h
  rcases h with rfl | rfl
  · exact .inl ⟨rfl, rfl⟩
  · exact .inr ⟨rfl, rfl⟩

theorem assign_of_not_mem (s : Settings) {key : String} (h : key ∉ keys) (value : String) :
    s.assign key value = .error (.unknownKey key) := by
  simp only [keys, List.mem_cons, List.not_mem_nil, or_false, not_or] at h
  rw [assign, if_neg h.1, if_neg h.2]

/-- Every piece either sets a key or is at fault. -/
theorem sets_or_faulty (piece : List Char) :
    (∃ key value, Sets piece key value) ∨ ∃ e, Faulty piece e := by
  cases cut : cutAt '=' piece with
  | none => exact .inr ⟨_, .notAPair (cutAt_eq_none_iff.1 cut)⟩
  | some parts =>
    obtain ⟨before, after⟩ := parts
    obtain ⟨free, rfl⟩ := cutAt_eq_some_iff.1 cut
    by_cases blank : Blank after
    · exact .inr ⟨_, .emptyValue free blank⟩
    have key : IsTrim before (String.ofList (trim before)).toList := by
      rw [String.toList_ofList]
      exact isTrim_trim before
    by_cases known : String.ofList (trim before) ∈ keys
    · refine .inl ⟨_, String.ofList (trim after), before, after, rfl, free, key, ?_, known, ?_⟩
      · rw [String.toList_ofList]
        exact isTrim_trim after
      · rw [Ne, String.ofList_eq_empty_iff]
        exact fun e => blank (trim_eq_nil_iff.1 e)
    · exact .inr ⟨_, .unknownKey free blank key known⟩

/-- What a piece does that has a key and a value. -/
theorem applyPair_of_value (s : Settings) {before after : List Char} (free : '=' ∉ before)
    (value : trim after ≠ []) :
    s.applyPair (before ++ '=' :: after) =
      s.assign (String.ofList (trim before)) (String.ofList (trim after)) := by
  obtain ⟨c, rest, e⟩ := List.exists_cons_of_ne_nil value
  simp only [applyPair, cutAt_of_not_mem free, e]

theorem applyPair_of_sets (s : Settings) {piece : List Char} {key value : String}
    (h : Sets piece key value) : s.applyPair piece = s.assign key value := by
  obtain ⟨before, after, rfl, free, trimKey, trimValue, -, ne⟩ := h
  rw [← trim_eq_iff] at trimKey trimValue
  rw [applyPair_of_value s free (by rw [trimValue]; simpa using ne), trimKey, trimValue,
    String.ofList_toList, String.ofList_toList]

theorem applyPair_of_faulty (s : Settings) {piece : List Char} {e : SettingsError}
    (h : Faulty piece e) : s.applyPair piece = .error e := by
  cases h with
  | notAPair free => rw [applyPair, cutAt_eq_none_iff.2 free]
  | emptyValue free blank =>
    rw [applyPair, cutAt_of_not_mem free]
    simp only [trim_eq_nil_iff.2 blank]
  | unknownKey free blank trimKey unknown =>
    rw [← trim_eq_iff] at trimKey
    rw [applyPair_of_value s free fun e => blank (trim_eq_nil_iff.1 e), trimKey,
      String.ofList_toList, assign_of_not_mem s unknown]

/-! ## What is set in the end -/

theorem lastValue_nil {key initial value : String} :
    LastValue [] key initial value ↔ value = initial := by
  simp [LastValue]

theorem lastValue_cons_of_sets {piece : List Char} {key v : String} (h : Sets piece key v)
    {pieces : List (List Char)} {initial value : String} (rest : LastValue pieces key v value) :
    LastValue (piece :: pieces) key initial value := by
  rcases rest with ⟨before, p, after, rfl, sets, none_⟩ | ⟨rfl, none_⟩
  · exact .inl ⟨piece :: before, p, after, rfl, sets, none_⟩
  · exact .inl ⟨[], piece, pieces, rfl, h, none_⟩

theorem lastValue_cons_of_not {piece : List Char} {key : String} (h : ∀ v, ¬ Sets piece key v)
    {pieces : List (List Char)} {initial value : String}
    (rest : LastValue pieces key initial value) :
    LastValue (piece :: pieces) key initial value := by
  rcases rest with ⟨before, p, after, rfl, sets, none_⟩ | ⟨rfl, none_⟩
  · exact .inl ⟨piece :: before, p, after, rfl, sets, none_⟩
  · refine .inr ⟨rfl, fun p hp => ?_⟩
    rcases List.mem_cons.1 hp with rfl | hp
    · exact h
    · exact none_ p hp

/-- A piece that sets a key leaves the other one to the pieces after it. -/
theorem Overrides.cons {s s' t : Settings} {piece : List Char} {pieces : List (List Char)}
    {key value : String} (h : Sets piece key value) (assigned : s.assign key value = .ok s')
    (rest : Overrides s' pieces t) : Overrides s (piece :: pieces) t := by
  have other : ∀ k, k ≠ key → ∀ v, ¬ Sets piece k v := fun k ne v h' => ne (h'.unique h).1
  rcases assign_of_mem s h.mem_keys value with ⟨rfl, e⟩ | ⟨rfl, e⟩ <;> rw [e] at assigned <;>
    cases assigned
  · exact ⟨lastValue_cons_of_sets h rest.runtimeModule,
      lastValue_cons_of_not (other _ (by decide)) rest.outputSuffix⟩
  · exact ⟨lastValue_cons_of_not (other _ (by decide)) rest.runtimeModule,
      lastValue_cons_of_sets h rest.outputSuffix⟩

/-! ## Pieces in order -/

theorem applyPairs_cons (s : Settings) (piece : List Char) (pieces : List (List Char)) :
    s.applyPairs (piece :: pieces) = s.applyPair piece >>= fun t => t.applyPairs pieces := by
  rw [applyPairs]
  cases s.applyPair piece <;> rfl

theorem applyPairs_append (s : Settings) (before after : List (List Char)) :
    s.applyPairs (before ++ after) = s.applyPairs before >>= fun t => t.applyPairs after := by
  induction before generalizing s with
  | nil => rfl
  | cons piece before ih =>
    rw [List.cons_append, applyPairs_cons, applyPairs_cons]
    cases s.applyPair piece with
    | error e => rfl
    | ok t => exact ih t

/-- Settings that come of some pieces come of the last that set each key. -/
theorem applyPairs_eq_ok {s t : Settings} {pieces : List (List Char)}
    (h : s.applyPairs pieces = .ok t) :
    (∀ piece ∈ pieces, ∃ key value, Sets piece key value) ∧ Overrides s pieces t := by
  induction pieces generalizing s with
  | nil =>
    cases h
    exact ⟨by simp, lastValue_nil.2 rfl, lastValue_nil.2 rfl⟩
  | cons piece pieces ih =>
    rw [applyPairs_cons] at h
    obtain ⟨s', applied, rest⟩ := Check.bind_eq_ok.1 h
    rcases sets_or_faulty piece with ⟨key, value, sets⟩ | ⟨e, faulty⟩
    · rw [applyPair_of_sets s sets] at applied
      obtain ⟨others, overrides⟩ := ih rest
      exact ⟨List.forall_mem_cons.2 ⟨⟨key, value, sets⟩, others⟩, overrides.cons sets applied⟩
    · rw [applyPair_of_faulty s faulty] at applied
      cases applied

theorem Sets.exists_applyPair {piece : List Char} {key value : String} (h : Sets piece key value)
    (s : Settings) : ∃ t, s.applyPair piece = .ok t := by
  rw [applyPair_of_sets s h]
  rcases assign_of_mem s h.mem_keys value with ⟨-, e⟩ | ⟨-, e⟩ <;> exact ⟨_, e⟩

theorem Faulty.not_sets {piece : List Char} {e : SettingsError} (h : Faulty piece e)
    {key value : String} : ¬ Sets piece key value := by
  intro sets
  obtain ⟨t, applied⟩ := sets.exists_applyPair {}
  rw [applyPair_of_faulty {} h] at applied
  cases applied

/-- The first piece at fault decides the error. -/
theorem applyPairs_eq_error_iff {s : Settings} {pieces : List (List Char)} {e : SettingsError} :
    s.applyPairs pieces = .error e ↔
      ∃ before piece after, pieces = before ++ piece :: after ∧
        (∀ p ∈ before, ∃ key value, Sets p key value) ∧ Faulty piece e := by
  constructor
  · intro h
    induction pieces generalizing s with
    | nil => cases h
    | cons piece pieces ih =>
      rw [applyPairs_cons] at h
      rcases sets_or_faulty piece with ⟨key, value, sets⟩ | ⟨e', faulty⟩
      · obtain ⟨s', applied⟩ := sets.exists_applyPair s
        rw [applied] at h
        obtain ⟨before, p, after, rfl, others, faulty⟩ := ih h
        exact ⟨piece :: before, p, after, rfl,
          List.forall_mem_cons.2 ⟨⟨key, value, sets⟩, others⟩, faulty⟩
      · rw [applyPair_of_faulty s faulty] at h
        cases h
        exact ⟨[], piece, pieces, rfl, by simp, faulty⟩
  · rintro ⟨before, piece, after, rfl, others, faulty⟩
    induction before generalizing s with
    | nil =>
      rw [List.nil_append, applyPairs_cons, applyPair_of_faulty s faulty]
      rfl
    | cons p before ih =>
      obtain ⟨⟨key, value, sets⟩, others⟩ := List.forall_mem_cons.1 others
      obtain ⟨s', applied⟩ := sets.exists_applyPair s
      rw [List.cons_append, applyPairs_cons, applied]
      exact ih others

theorem exists_applyPairs (s : Settings) {pieces : List (List Char)}
    (h : ∀ piece ∈ pieces, ∃ key value, Sets piece key value) :
    ∃ t, s.applyPairs pieces = .ok t := by
  rcases Check.eq_error_or_eq_ok (s.applyPairs pieces) with ⟨e, failed⟩ | ok
  · obtain ⟨before, piece, after, rfl, -, faulty⟩ := applyPairs_eq_error_iff.1 failed
    obtain ⟨key, value, sets⟩ := h piece (by simp)
    exact absurd sets faulty.not_sets
  · exact ok

/-! ## Parameters -/

/-- Two parameters joined by a comma: what the second sets overrides what comes of the first. -/
theorem parse_append {p q : String} {s t : Settings} (hp : parse p = .ok s)
    (hq : parse q = .ok t) : ∃ u, parse (p ++ "," ++ q) = .ok u ∧ Overrides s (pairs q) u := by
  obtain ⟨u, hu⟩ := exists_applyPairs s (applyPairs_eq_ok hq).1
  refine ⟨u, ?_, (applyPairs_eq_ok hu).2⟩
  rw [parse, pairs_append, applyPairs_append, ← parse, hp]
  exact hu

/-- A value that can be written into a parameter and read back. -/
def Writable (value : String) : Prop := value ≠ "" ∧ ',' ∉ value.toList ∧ Bare value.toList

/-- A key and a value around an equals sign are one piece, which sets the key to the value. -/
theorem pairs_setting {key value : String} (known : key ∈ keys) (h : Writable value) :
    pairs (key ++ "=" ++ value) = [(key ++ "=" ++ value).toList] ∧
      Sets (key ++ "=" ++ value).toList key value := by
  obtain ⟨ne, free, bare⟩ := h
  have word : ∀ k ∈ keys, '=' ∉ k.toList ∧ ',' ∉ k.toList ∧ k ≠ "" ∧ Bare k.toList := by decide
  obtain ⟨noEquals, noComma, ne', bareKey⟩ := word key known
  have whole : (key ++ "=" ++ value).toList = key.toList ++ '=' :: value.toList := by simp
  have trimmed : ∀ s : String, Bare s.toList → IsTrim s.toList s.toList := fun s h =>
    trim_eq_iff.1 (trim_of_bare h)
  refine ⟨?_, key.toList, value.toList, whole, noEquals, trimmed key bareKey, trimmed value bare,
    known, ne⟩
  -- The whole begins as the key does and ends as the value does.
  have bareWhole : Bare (key.toList ++ '=' :: value.toList) := by
    obtain ⟨c, k, hk⟩ := List.exists_cons_of_ne_nil (mt String.toList_eq_nil_iff.1 ne')
    constructor
    · rw [hk] at bareKey ⊢
      exact bareKey.1
    · have last := mt String.toList_eq_nil_iff.1 ne
      rw [List.getLast?_append_of_ne_nil _ (List.cons_ne_nil _ _),
        List.getLast?_cons_of_ne_nil last]
      exact bare.2
  rw [pairs, whole, splitOn_of_not_mem (by simp [noComma, free]), List.map_singleton,
    trim_of_bare bareWhole]
  simp

/-- Settings written as a parameter are read back. -/
theorem parse_written {v w : String} (hv : Writable v) (hw : Writable w) :
    parse ("runtime_module=" ++ v ++ ",output_suffix=" ++ w) =
      .ok { runtimeModule := v, outputSuffix := w } := by
  have known : "runtime_module" ∈ keys ∧ "output_suffix" ∈ keys := by decide
  obtain ⟨pieces, sets⟩ := pairs_setting known.1 hv
  obtain ⟨pieces', sets'⟩ := pairs_setting known.2 hw
  have whole : "runtime_module=" ++ v ++ ",output_suffix=" ++ w =
      "runtime_module" ++ "=" ++ v ++ "," ++ ("output_suffix" ++ "=" ++ w) := by
    rw [← String.toList_inj]
    simp
  have first : applyPair {} ("runtime_module" ++ "=" ++ v).toList = .ok { runtimeModule := v } :=
    applyPair_of_sets {} sets
  have second : applyPair { runtimeModule := v } ("output_suffix" ++ "=" ++ w).toList =
      .ok { runtimeModule := v, outputSuffix := w } := applyPair_of_sets _ sets'
  have rest : applyPairs { runtimeModule := v } [("output_suffix" ++ "=" ++ w).toList] =
      .ok { runtimeModule := v, outputSuffix := w } := by
    rw [applyPairs_cons, second]
    rfl
  rw [whole, parse, pairs_append, pieces, pieces', applyPairs_append, applyPairs_cons, first]
  exact rest

/-- How parameters are read. A parameter has its pieces. It is accepted just if every piece sets a
key, and then each setting has the value of the last piece that sets it, or its default. Otherwise
the error is that of the first piece at fault. A second parameter after a comma overrides the first,
and settings that a parameter can be written for are read back from it. -/
theorem parse_follows_grammar (parameter : String) :
    HasPieces parameter (pairs parameter) ∧
    ((∃ s, parse parameter = .ok s) ↔
      ∀ piece ∈ pairs parameter, ∃ key value, Sets piece key value) ∧
    (∀ s, parse parameter = .ok s → Overrides {} (pairs parameter) s) ∧
    (∀ e, parse parameter = .error e ↔
      ∃ before piece after, pairs parameter = before ++ piece :: after ∧
        (∀ p ∈ before, ∃ key value, Sets p key value) ∧ Faulty piece e) ∧
    (∀ q s t, parse parameter = .ok s → parse q = .ok t →
      ∃ u, parse (parameter ++ "," ++ q) = .ok u ∧ Overrides s (pairs q) u) ∧
    (∀ v w : String, Writable v → Writable w →
      parse ("runtime_module=" ++ v ++ ",output_suffix=" ++ w) =
        .ok { runtimeModule := v, outputSuffix := w }) := by
  refine ⟨pairs_eq_iff.1 rfl, ⟨?_, exists_applyPairs {}⟩, fun s h => (applyPairs_eq_ok h).2,
    fun e => applyPairs_eq_error_iff, fun q s t => parse_append, fun v w => parse_written⟩
  rintro ⟨s, h⟩
  exact (applyPairs_eq_ok h).1

theorem sample_parse_follows_grammar :
    parse "runtime_module=@acme/protobuf" = .ok ⟨"@acme/protobuf", "_pb.d.ts"⟩ ∧
      parse " , output_suffix = .ts,output_suffix=.d.ts" = .ok ⟨"google-protobuf", ".d.ts"⟩ ∧
      (∃ u, parse ("runtime_module=@acme/protobuf" ++ "," ++
          " , output_suffix = .ts,output_suffix=.d.ts") = .ok u ∧
        Overrides ⟨"@acme/protobuf", "_pb.d.ts"⟩
          (pairs " , output_suffix = .ts,output_suffix=.d.ts") u) ∧
      Writable "a=b" ∧ Writable "'.d ts" ∧
      parse ("runtime_module=" ++ "a=b" ++ ",output_suffix=" ++ "'.d ts") =
        .ok ⟨"a=b", "'.d ts"⟩ := by
  have first : parse "runtime_module=@acme/protobuf" = .ok ⟨"@acme/protobuf", "_pb.d.ts"⟩ := by
    decide +kernel
  have second : parse " , output_suffix = .ts,output_suffix=.d.ts" =
      .ok ⟨"google-protobuf", ".d.ts"⟩ := by decide +kernel
  have plain : Writable "a=b" := by unfold Writable; decide
  have spaced : Writable "'.d ts" := by unfold Writable; decide
  obtain ⟨-, -, -, -, append, written⟩ := parse_follows_grammar "runtime_module=@acme/protobuf"
  exact ⟨first, second, append _ _ _ first second, plain, spaced, written _ _ plain spaced⟩

/-- A blank value is reported before an unknown key. -/
example : parse "mode = " = .error (.emptyValue "mode ") := by decide +kernel

end Settings
end ProtoTypings
