import Mathlib.Algebra.Group.Nat.Defs
import ProtoTypings.Wire.Format

/-!
# Proofs.RecordRoundTrip

Reading back what was written. The bytes of a record are read as that very record, provided that
its fields are such as the format knows, its records nest no deeper than the format allows, and its
length fits into 64 bits, as every length in memory does.

* `Token.readAll?_encode` — the bytes of a record consist of one token for each field.
* `Format.Knows` — a field that the format knows, with all fields in it.
* `Format.readWithin?_encode` — the record that is read is the record that was written.
* `Format.readWithin?_encode_eq_none` — nothing is read of records that nest too deep.
-/

namespace ProtoTypings
namespace Wire

/-! ## Tokens -/

/-- The tag of a field. -/
def Field.tag : Field → Nat
  | .number tag _ => tag
  | .text tag _ => tag
  | .record tag _ => tag

/-- The payload that a field is written with. -/
def Field.payload : Field → Payload
  | .number _ value => .varint value
  | .text _ value => .delimited (utf8Bytes value)
  | .record _ fields => .delimited (encodeFields fields)

def Field.token (f : Field) : Token := { tag := f.tag, payload := f.payload }

/-- Tags that leave room for the wire type in the 32 bits of a key. -/
def ValidTag (tag : Nat) : Prop := tag ≠ 0 ∧ tag < 2 ^ 29

instance (tag : Nat) : Decidable (ValidTag tag) := inferInstanceAs (Decidable (_ ∧ _))

theorem digits_ne_nil (count n : Nat) : Varint.digits (count + 1) n ≠ [] := by
  unfold Varint.digits
  split <;> simp

theorem key_ne_nil (tag wireType : Nat) : key tag wireType ≠ [] := digits_ne_nil 9 _

theorem Field.encode_ne_nil (f : Field) : f.encode ≠ [] := by
  cases f <;> simp [Field.encode, key_ne_nil]

theorem readDelimited?_delimited {bytes : List UInt8} (h : bytes.length < 2 ^ 64)
    (rest : List UInt8) : readDelimited? (delimited bytes ++ rest) = some (bytes, rest) := by
  have length : (UInt64.ofNat bytes.length).toNat = bytes.length := UInt64.toNat_ofNat_of_lt' h
  rw [readDelimited?, delimited, List.append_assoc, Varint.read?_encode]
  simp only [length, takeExactly?, List.take_left, List.drop_left, if_true]

theorem Token.read?_key {tag wireType : Nat} (h : ValidTag tag) (small : wireType < 8)
    {payload : Payload} {bytes rest : List UInt8}
    (hp : Payload.read? wireType bytes = some (payload, rest)) :
    Token.read? (key tag wireType ++ bytes) = some (⟨tag, payload⟩, rest) := by
  obtain ⟨pos, bound⟩ := h
  have number : (UInt64.ofNat (tag * 8 + wireType)).toNat = tag * 8 + wireType := by
    apply UInt64.toNat_ofNat_of_lt'
    change tag * 8 + wireType < 2 ^ 64
    omega
  have tag_ : (tag * 8 + wireType) / 8 = tag := by omega
  have type_ : (tag * 8 + wireType) % 8 = wireType := by omega
  have fits : tag * 8 + wireType < UInt32.size ∧ tag ≠ 0 := by
    change tag * 8 + wireType < 2 ^ 32 ∧ tag ≠ 0
    omega
  rw [Token.read?, key, Varint.read?_encode]
  simp only [number, tag_, type_, if_pos fits, hp, Option.map_some]

/-- Payloads of a size that a length can tell. -/
def Field.Sized : Field → Prop
  | .number _ _ => True
  | .text _ value => (utf8Bytes value).length < 2 ^ 64
  | .record _ fields => (encodeFields fields).length < 2 ^ 64

theorem Token.read?_encode {f : Field} (valid : ValidTag f.tag) (sized : f.Sized)
    (rest : List UInt8) : Token.read? (f.encode ++ rest) = some (f.token, rest) := by
  cases f with
  | number tag value =>
    rw [Field.encode, List.append_assoc]
    refine Token.read?_key valid (by decide) ?_
    simp only [Payload.read?, Varint.read?_encode, Option.map_some, Field.payload]
  | text tag value =>
    rw [Field.encode, List.append_assoc]
    refine Token.read?_key valid (by decide) ?_
    simp only [Payload.read?, readDelimited?_delimited sized, Option.map_some, Field.payload]
  | record tag fields =>
    rw [Field.encode, List.append_assoc]
    refine Token.read?_key valid (by decide) ?_
    simp only [Payload.read?, readDelimited?_delimited sized, Option.map_some, Field.payload]

theorem Token.readMany?_encode {r : Record} (valid : ∀ f ∈ r, ValidTag f.tag)
    (sized : ∀ f ∈ r, f.Sized) : ∀ {count : Nat}, (encodeFields r).length ≤ count →
      Token.readMany? count (encodeFields r) = some (r.map Field.token) := by
  induction r with
  | nil =>
    intro count _
    rw [encodeFields, Token.readMany?]
    rfl
  | cons f r ih =>
    intro count enough
    obtain ⟨b, bytes, hb⟩ := List.exists_cons_of_ne_nil f.encode_ne_nil
    have first : Token.read? (encodeFields (f :: r)) = some (f.token, encodeFields r) :=
      Token.read?_encode (valid f (by simp)) (sized f (by simp)) _
    rw [encodeFields, hb, List.cons_append] at enough first ⊢
    cases count with
    | zero => simp at enough
    | succ count =>
      -- A field takes a byte at least, so the count that is left is enough for the others.
      have rest : (encodeFields r).length ≤ count := by
        simp only [List.length_cons, List.length_append] at enough
        omega
      simp only [Token.readMany?, first, List.map_cons,
        ih (fun g hg => valid g (List.mem_cons_of_mem _ hg))
          (fun g hg => sized g (List.mem_cons_of_mem _ hg)) rest]

/-- The bytes of a record consist of one token for each field. -/
theorem Token.readAll?_encode {r : Record} (valid : ∀ f ∈ r, ValidTag f.tag)
    (sized : ∀ f ∈ r, f.Sized) : Token.readAll? (encodeFields r) = some (r.map Field.token) :=
  Token.readMany?_encode valid sized (Nat.le_refl _)

/-! ## Sizes and depths -/

theorem length_encode_le {f : Field} {r : Record} (h : f ∈ r) :
    f.encode.length ≤ (encodeFields r).length := by
  induction r with
  | nil => cases h
  | cons g r ih =>
    rw [encodeFields, List.length_append]
    rcases List.mem_cons.1 h with rfl | h
    · omega
    · have := ih h
      omega

theorem Field.sized_of_length {f : Field} (h : f.encode.length < 2 ^ 64) : f.Sized := by
  cases f with
  | number tag value => trivial
  | text tag value | record tag fields =>
    simp only [Field.encode, delimited, List.length_append] at h
    simp only [Field.Sized]
    omega

theorem sized_of_length {r : Record} (h : (encodeFields r).length < 2 ^ 64) :
    ∀ f ∈ r, f.Sized := fun f hf =>
  f.sized_of_length (Nat.lt_of_le_of_lt (length_encode_le hf) h)

mutual

/-- How deep records nest in a field. -/
def Field.depth : Field → Nat
  | .number _ _ => 0
  | .text _ _ => 0
  | .record _ fields => fieldsDepth fields + 1

/-- How deep records nest in fields. -/
def fieldsDepth : List Field → Nat
  | [] => 0
  | f :: fields => max f.depth (fieldsDepth fields)

end

theorem fieldsDepth_le_iff {r : Record} {depth : Nat} :
    fieldsDepth r ≤ depth ↔ ∀ f ∈ r, f.depth ≤ depth := by
  induction r with
  | nil => simp [fieldsDepth]
  | cons f r ih => rw [fieldsDepth, Nat.max_le, ih, List.forall_mem_cons]

theorem lt_fieldsDepth_iff {r : Record} {depth : Nat} :
    depth < fieldsDepth r ↔ ∃ f ∈ r, depth < f.depth := by
  rw [← Nat.not_le, fieldsDepth_le_iff]
  simp

theorem fieldsDepth_append (r s : Record) :
    fieldsDepth (r ++ s) = max (fieldsDepth r) (fieldsDepth s) := by
  induction r with
  | nil => simp [fieldsDepth]
  | cons f r ih => rw [List.cons_append, fieldsDepth, fieldsDepth, ih, Nat.max_assoc]

/-! ## Records -/

variable {R : Type}

/-- A field as a format has it in a record type: known under its tag, to hold what it holds, and a
record of fields that the format has in the type of that record. -/
inductive Format.Knows (format : Format R) : R → Field → Prop where
  | number {type : R} {tag : Nat} {value : UInt64} :
      format.field? type tag = some .number → Format.Knows format type (.number tag value)
  | text {type : R} {tag : Nat} {value : String} :
      format.field? type tag = some .text → Format.Knows format type (.text tag value)
  | record {type inner : R} {tag : Nat} {fields : List Field} :
      format.field? type tag = some (.record inner) →
      (∀ f ∈ fields, Format.Knows format inner f) → Format.Knows format type (.record tag fields)

namespace Format

variable {format : Format R}

theorem fieldsOf?_tokens {record? : R → List UInt8 → Option Record} {depth : Nat} {type : R}
    {r : Record} (h : ∀ f ∈ r, ∃ field, format.field? type f.tag = some field ∧
      field.fields? record? f.tag f.payload = some [f]) :
    format.fieldsOf? record? depth type [] (r.map Field.token) = some r := by
  induction r with
  | nil => rfl
  | cons f r ih =>
    obtain ⟨field, hf, hp⟩ := h f (by simp)
    have rest := ih fun g hg => h g (List.mem_cons_of_mem _ hg)
    have known : format.field? type f.token.tag = some field := hf
    have read : field.fields? record? f.token.tag f.token.payload = some [f] := hp
    rw [List.map_cons, fieldsOf?.eq_3 format record? depth type _ _ field known]
    simp only [read, rest, Option.map_some, List.singleton_append]

/-- Each field is read from its payload again, if the records among them are. -/
theorem fields?_payload {record? : R → List UInt8 → Option Record} {type : R} {f : Field}
    (knows : format.Knows type f)
    (nested : ∀ tag fields inner, f = .record tag fields → (∀ g ∈ fields, format.Knows inner g) →
      record? inner (encodeFields fields) = some fields) :
    ∃ field, format.field? type f.tag = some field ∧
      field.fields? record? f.tag f.payload = some [f] := by
  cases knows with
  | number h => exact ⟨.number, h, rfl⟩
  | @text _ tag value h =>
    have read : text? (utf8Bytes value) = some value := text?_eq_some_iff.2 rfl
    exact ⟨.text, h, by simp [FieldFormat.fields?, Field.payload, Field.tag, read]⟩
  | @record _ inner tag fields h inside =>
    have read := nested tag fields inner rfl inside
    exact ⟨.record inner, h, by simp [FieldFormat.fields?, Field.payload, Field.tag, read]⟩

theorem Knows.tag {type : R} {f : Field} (h : format.Knows type f) :
    format.field? type f.tag ≠ none := by
  cases h with
  | number h | text h | record h _ => simp [Field.tag, h]

/-- A record is not read if one of its fields is not. -/
theorem fieldsOf?_tokens_eq_none {record? : R → List UInt8 → Option Record} {depth : Nat}
    {type : R} {r : Record} (knows : ∀ f ∈ r, format.Knows type f) {f : Field} (hf : f ∈ r)
    (fails : ∀ field, format.field? type f.tag = some field →
      field.fields? record? f.tag f.payload = none) :
    format.fieldsOf? record? depth type [] (r.map Field.token) = none := by
  induction r with
  | nil => cases hf
  | cons g r ih =>
    obtain ⟨field, known⟩ := Option.ne_none_iff_exists'.1 (knows g (by simp)).tag
    have token : format.field? type g.token.tag = some field := known
    rw [List.map_cons, fieldsOf?.eq_3 format record? depth type _ _ field token]
    rcases List.mem_cons.1 hf with rfl | hf
    · have none_ : field.fields? record? f.token.tag f.token.payload = none := fails field known
      rw [none_]
    · rw [ih (fun h hh => knows h (List.mem_cons_of_mem _ hh)) hf]
      cases field.fields? record? g.token.tag g.token.payload <;> rfl

section Reading

variable (valid : ∀ type tag, format.field? type tag ≠ none → ValidTag tag)

include valid

theorem readAll?_encode {type : R} {r : Record} (knows : ∀ f ∈ r, format.Knows type f)
    (length : (encodeFields r).length < 2 ^ 64) :
    Token.readAll? (encodeFields r) = some (r.map Field.token) :=
  Token.readAll?_encode (fun f hf => valid type f.tag (knows f hf).tag) (sized_of_length length)

/-- The record that is read is the record that was written. -/
theorem readWithin?_encode : ∀ {depth : Nat} {type : R} {r : Record},
    (∀ f ∈ r, format.Knows type f) → fieldsDepth r ≤ depth → (encodeFields r).length < 2 ^ 64 →
      format.readWithin? depth type (encodeFields r) = some r := by
  intro depth
  induction depth with
  | zero =>
    intro type r knows shallow length
    rw [readWithin?, readAll?_encode valid knows length]
    refine fieldsOf?_tokens fun f hf => fields?_payload (knows f hf) fun tag fields inner e _ => ?_
    have := fieldsDepth_le_iff.1 shallow f hf
    rw [e, Field.depth] at this
    omega
  | succ depth ih =>
    intro type r knows shallow length
    rw [readWithin?, readAll?_encode valid knows length]
    refine fieldsOf?_tokens fun f hf =>
      fields?_payload (knows f hf) fun tag fields inner e inside => ?_
    have own := fieldsDepth_le_iff.1 shallow f hf
    have sized := sized_of_length length f hf
    rw [e] at own sized
    rw [Field.depth] at own
    exact ih inside (by omega) sized

/-- Records that nest deeper than allowed are not read. -/
theorem readWithin?_encode_eq_none : ∀ {depth : Nat} {type : R} {r : Record},
    (∀ f ∈ r, format.Knows type f) → depth < fieldsDepth r → (encodeFields r).length < 2 ^ 64 →
      format.readWithin? depth type (encodeFields r) = none := by
  intro depth
  induction depth with
  | zero =>
    intro type r knows deep length
    obtain ⟨f, hf, own⟩ := lt_fieldsDepth_iff.1 deep
    rw [readWithin?, readAll?_encode valid knows length]
    refine fieldsOf?_tokens_eq_none knows hf fun field hfield => ?_
    cases knows f hf with
    | number h | text h => simp [Field.depth] at own
    | record h _ =>
      cases h.symm.trans hfield
      rfl
  | succ depth ih =>
    intro type r knows deep length
    obtain ⟨f, hf, own⟩ := lt_fieldsDepth_iff.1 deep
    have sized := sized_of_length length f hf
    rw [readWithin?, readAll?_encode valid knows length]
    refine fieldsOf?_tokens_eq_none knows hf fun field hfield => ?_
    cases knows f hf with
    | number h | text h => simp [Field.depth] at own
    | record h inside =>
      cases h.symm.trans hfield
      rw [Field.depth] at own
      simp only [FieldFormat.fields?, Field.payload, ih inside (by omega) sized, Option.map_none]

end Reading

end Format

end Wire
end ProtoTypings
