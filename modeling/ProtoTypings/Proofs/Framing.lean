import ProtoTypings.Plugin.Respond
import ProtoTypings.Proofs.DescriptorRecord
import ProtoTypings.Proofs.Lookup
import ProtoTypings.Proofs.RecordRoundTrip

/-!
# Proofs.Framing

The plugin as a program on bytes: what a compiler encodes is read, and what the plugin writes is the
encoded response to it.

* `Request.read?_encode`, `Response.read?_encode` — both sides are read back from their bytes.
* `outcome_answers` — how a run of the plugin ends, for every request and for all other input.
-/

namespace ProtoTypings
namespace Plugin

open Wire Wire.Record

theorem validTag_of_format {type : RecordType} {tag : Nat} (h : format.field? type tag ≠ none) :
    ValidTag tag := by
  have tags : ∀ p ∈ type.fields, ValidTag p.1 := by cases type <;> decide
  obtain ⟨field, hf⟩ := Option.ne_none_iff_exists'.1 h
  exact tags (tag, field) (mem_of_lookup hf)

/-! ## Known fields -/

section Knows

variable {type inner : RecordType} {tag : Nat}

theorem knows_textField (h : format.field? type tag = some .text) (value : Option String) :
    ∀ f ∈ textField tag value, format.Knows type f := by
  intro f hf
  obtain ⟨s, -, rfl⟩ := Option.map_eq_some_iff.1 (Option.mem_toList.1 hf)
  exact .text h

theorem knows_wordField (h : format.field? type tag = some .number) (value : Option UInt64) :
    ∀ f ∈ wordField tag value, format.Knows type f := by
  intro f hf
  obtain ⟨n, -, rfl⟩ := Option.map_eq_some_iff.1 (Option.mem_toList.1 hf)
  exact .number h

theorem knows_map_text (h : format.field? type tag = some .text) (values : List String) :
    ∀ f ∈ values.map (.text tag), format.Knows type f := by
  intro f hf
  obtain ⟨s, -, rfl⟩ := List.mem_map.1 hf
  exact .text h

theorem knows_map_record {α : Type} {toRecord : α → Record} {as : List α}
    (h : format.field? type tag = some (.record inner))
    (inside : ∀ a ∈ as, ∀ f ∈ toRecord a, format.Knows inner f) :
    ∀ f ∈ as.map (fun a => .record tag (toRecord a)), format.Knows type f := by
  intro f hf
  obtain ⟨a, ha, rfl⟩ := List.mem_map.1 hf
  exact .record h (inside a ha)

theorem knows_append {r s : Record} (hr : ∀ f ∈ r, format.Knows type f)
    (hs : ∀ f ∈ s, format.Knows type f) : ∀ f ∈ r ++ s, format.Knows type f :=
  List.forall_mem_append.2 ⟨hr, hs⟩

end Knows

theorem knows_enumValue (v : Descriptor.EnumValue) :
    ∀ f ∈ v.toRecord, format.Knows .enumValue f :=
  knows_append (knows_textField rfl _) (knows_wordField rfl _)

theorem knows_enum (e : Descriptor.Enum) : ∀ f ∈ e.toRecord, format.Knows .enum f :=
  knows_append (knows_textField rfl _) (knows_map_record rfl fun v _ => knows_enumValue v)

theorem knows_field (d : Descriptor.Field) : ∀ f ∈ d.toRecord, format.Knows .field f :=
  knows_append (knows_append (knows_append (knows_append (knows_append (knows_append
    (knows_textField rfl _) (knows_wordField rfl _)) (knows_wordField rfl _))
    (knows_wordField rfl _)) (knows_textField rfl _)) (knows_wordField rfl _))
    (knows_wordField rfl _)

theorem knows_message (m : Descriptor.Message) : ∀ f ∈ m.toRecord, format.Knows .message f := by
  induction m using Descriptor.Message.nested_induction with
  | step m ih =>
    have known : format.field? .message 7 = some (.record .messageOptions) := rfl
    have options : ∀ f ∈ (m.options.map fun o => Wire.Field.record 7 o.toRecord).toList,
        format.Knows .message f := by
      intro f hf
      obtain ⟨o, -, rfl⟩ := Option.map_eq_some_iff.1 (Option.mem_toList.1 hf)
      exact .record known (knows_wordField rfl _)
    have oneof (o : Descriptor.Oneof) : ∀ f ∈ o.toRecord, format.Knows .oneof f :=
      knows_textField rfl _
    rw [Descriptor.Message.toRecord_eq]
    exact knows_append (knows_append (knows_append (knows_append (knows_append
      (knows_textField rfl _) (knows_map_record rfl fun d _ => knows_field d))
      (knows_map_record rfl ih)) (knows_map_record rfl fun e _ => knows_enum e)) options)
      (knows_map_record rfl fun o _ => oneof o)

theorem knows_file (d : Descriptor.File) : ∀ f ∈ d.toRecord, format.Knows .file f :=
  knows_append (knows_append (knows_append (knows_append (knows_append (knows_append
    (knows_textField rfl _) (knows_textField rfl _)) (knows_map_text rfl _))
    (knows_map_record rfl fun m _ => knows_message m))
    (knows_map_record rfl fun e _ => knows_enum e))
    (knows_map_record rfl fun e _ => knows_field e)) (knows_textField rfl _)

theorem knows_request (q : Request) : ∀ f ∈ q.toRecord, format.Knows .request f :=
  knows_append (knows_append (knows_map_text rfl _) (knows_textField rfl _))
    (knows_map_record rfl fun d _ => knows_file d)

theorem knows_response (s : Response) : ∀ f ∈ s.toRecord, format.Knows .response f := by
  have file (f : ResponseFile) : ∀ g ∈ f.toRecord, format.Knows .generatedFile g :=
    knows_append (knows_textField rfl _) (knows_textField rfl _)
  exact knows_append (knows_append (knows_textField rfl _) (knows_wordField rfl _))
    (knows_map_record rfl fun f _ => file f)

/-! ## Reading back -/

/-- How deep the records of a request nest: a file is at depth 1, its messages are at depth 2, and
what a message holds is one deeper than the message. -/
def Request.depth (q : Request) : Nat := fieldsDepth q.toRecord

theorem Request.read?_encode {q : Request} (shallow : q.depth ≤ Format.maxDepth)
    (length : q.encode.length < 2 ^ 64) : Request.read? q.encode = some q := by
  have record : format.read? .request q.encode = some q.toRecord :=
    Format.readWithin?_encode (fun _ _ => validTag_of_format) (knows_request q) shallow length
  rw [Request.read?, record, Option.map_some, Request.ofRecord_toRecord]

theorem Request.read?_encode_eq_none {q : Request} (deep : Format.maxDepth < q.depth)
    (length : q.encode.length < 2 ^ 64) : Request.read? q.encode = none := by
  have record : format.read? .request q.encode = none :=
    Format.readWithin?_encode_eq_none (fun _ _ => validTag_of_format) (knows_request q) deep length
  rw [Request.read?, record, Option.map_none]

theorem depth_textField (tag : Nat) (value : Option String) :
    fieldsDepth (textField tag value) = 0 := by
  cases value <;> rfl

theorem depth_wordField (tag : Nat) (value : Option UInt64) :
    fieldsDepth (wordField tag value) = 0 := by
  cases value <;> rfl

theorem ResponseFile.fieldsDepth_toRecord (f : ResponseFile) : fieldsDepth f.toRecord = 0 := by
  rw [ResponseFile.toRecord, fieldsDepth_append, depth_textField, depth_textField, Nat.max_self]

/-- A response holds files, and files hold no records. -/
theorem Response.fieldsDepth_toRecord_le (s : Response) : fieldsDepth s.toRecord ≤ 1 := by
  have files : fieldsDepth (s.files.map fun f => .record 15 f.toRecord) ≤ 1 := by
    refine fieldsDepth_le_iff.2 fun g hg => ?_
    obtain ⟨f, -, rfl⟩ := List.mem_map.1 hg
    have own : (Field.record 15 f.toRecord).depth = 1 := by
      rw [Field.depth, f.fieldsDepth_toRecord]
    exact Nat.le_of_eq own
  rw [Response.toRecord, fieldsDepth_append, fieldsDepth_append, depth_textField, depth_wordField]
  omega

theorem Response.read?_encode {s : Response} (length : s.encode.length < 2 ^ 64) :
    Response.read? s.encode = some s := by
  have shallow : fieldsDepth s.toRecord ≤ Format.maxDepth :=
    Nat.le_trans s.fieldsDepth_toRecord_le (by decide)
  have record : format.read? .response s.encode = some s.toRecord :=
    Format.readWithin?_encode (fun _ _ => validTag_of_format) (knows_response s) shallow length
  rw [Response.read?, record, Option.map_some, Response.ofRecord_toRecord]

/-! ## Runs -/

theorem outcome_of_read? {input : List UInt8} {q : Request} (h : Request.read? input = some q) :
    outcome input = { exitCode := 0, output := (respond q).encode, complaint := none } := by
  simp only [outcome, run, h, Option.map_some]

theorem outcome_of_read?_eq_none {input : List UInt8} (h : Request.read? input = none) :
    outcome input =
      { exitCode := 1
        output := []
        complaint := some "error: the input is not a code generator request" } := by
  simp only [outcome, run, h, Option.map_none]

/-- A request whose records nest no deeper than readers allow, whatever else is in it, is answered:
the run succeeds, and what it writes is read as the response to the request. A request that nests
deeper is refused. Lengths are below `2 ^ 64`, as they are of all bytes in memory. Whenever the
input is no request, the run fails and writes nothing. -/
theorem outcome_answers :
    (∀ q : Request, q.encode.length < 2 ^ 64 → (respond q).encode.length < 2 ^ 64 →
      (q.depth ≤ Format.maxDepth →
        (outcome q.encode).exitCode = 0 ∧ (outcome q.encode).complaint = none ∧
        Response.read? (outcome q.encode).output = some (respond q)) ∧
      (Format.maxDepth < q.depth → Request.read? q.encode = none)) ∧
    ∀ input, Request.read? input = none →
      outcome input =
        { exitCode := 1
          output := []
          complaint := some "error: the input is not a code generator request" } := by
  refine ⟨fun q length fits => ⟨fun shallow => ?_, fun deep => ?_⟩, fun input h => ?_⟩
  · have answered := outcome_of_read? (Request.read?_encode shallow length)
    rw [answered]
    exact ⟨rfl, rfl, Response.read?_encode fits⟩
  · exact Request.read?_encode_eq_none deep length
  · exact outcome_of_read?_eq_none h

/-- A request for one file, with an empty package, a nested message and numbers below zero, and the
request to generate files with a parameter that is refused. -/
theorem sample_outcome_answers : ∃ q refused : Request,
    (q.depth = 4 ∧ (respond q).error = none ∧
      Response.read? (outcome q.encode).output = some (respond q)) ∧
    ((respond refused).error = some "invalid option: unknown option 'suffix'" ∧
      Response.read? (outcome refused.encode).output = some (respond refused)) ∧
    (outcome [0]).exitCode = 1 := by
  let field : Descriptor.Field :=
    { name := some "x", number := some (-7), label := some 1, type := some 5
      typeName := some "", oneofIndex := none, proto3Optional := some false }
  let inner : Descriptor.Message :=
    { name := some "B", fields := [field], nested := [], enums := [], oneofs := []
      options := some { mapEntry := none } }
  let file : Descriptor.File :=
    { name := some "a.proto", package := some "", dependencies := [], enums := [], extensions := []
      syntaxName := some "proto3"
      messages := [{ inner with name := some "A", nested := [inner] }] }
  let q : Request := { filesToGenerate := ["a.proto"], parameter := some "", files := [file] }
  let refused : Request := { q with parameter := some "suffix=.ts" }
  have served := outcome_answers.1 q (by decide +kernel) (by decide +kernel)
  have denied := outcome_answers.1 refused (by decide +kernel) (by decide +kernel)
  have failed := outcome_answers.2 [0] (by rfl)
  refine ⟨q, refused, ⟨by decide +kernel, by decide +kernel, ?_⟩, ⟨by decide +kernel, ?_⟩, ?_⟩
  · exact (served.1 (by decide +kernel)).2.2
  · exact (denied.1 (by decide +kernel)).2.2
  · rw [failed]

end Plugin
end ProtoTypings
