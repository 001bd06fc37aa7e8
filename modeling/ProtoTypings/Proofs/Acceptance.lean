import ProtoTypings.Proofs.DescriptorFaults
import ProtoTypings.Proofs.FirstFault

/-!
# Proofs.Acceptance

Which descriptors become definitions. The check of a descriptor never looks past the first fault
that it finds, and still it is about all of them: it succeeds just if there is none, and otherwise
what it reports is the first in the order in which `File.faults` lists them.

* `Field.failsFirst`, `Enum.failsFirst`, `Message.failsFirst`, `File.failsFirst` — each check fails
  with the first fault of what it is about.
* `File.Keeps`, `Message.Keeps`, `Enum.Keeps`, `Field.Keeps` — a definition that stands beside a
  descriptor part by part, in the same order and under the same names and numbers.
* `File.accepts_wellFormed` — what is accepted, what is reported otherwise, and what is kept.
-/

namespace ProtoTypings
namespace Proto

open Descriptor (Fault unnamedFault outside outside_some syntaxFault)

/-! ## Faults -/

theorem required_failsFirst (element : Descriptor.Element) (scope : String)
    (name : Option String) :
    FailsFirst (required element scope name) (unnamedFault element scope name) := by
  cases name with
  | none => exact .error _ []
  | some name => exact .ok name

theorem Label.ofNumber?_eq_none_iff {n : Int32} :
    Label.ofNumber? n = none ↔ n.toInt < 1 ∨ 3 < n.toInt := by
  unfold Label.ofNumber?
  split <;> grind

theorem TypeCode.ofNumber?_eq_none_iff {n : Int32} :
    TypeCode.ofNumber? n = none ↔ n.toInt < 1 ∨ 18 < n.toInt := by
  unfold TypeCode.ofNumber?
  split <;> grind

theorem Field.labelOf_failsFirst (field : String) (label : Option Int32) :
    FailsFirst (labelOf field label) ((outside 3 label).map (.unknownLabel field)) := by
  cases label with
  | none => exact .ok _
  | some n =>
    rw [labelOf, outside_some]
    cases h : Label.ofNumber? n with
    | none =>
      rw [if_pos (Label.ofNumber?_eq_none_iff.1 h)]
      exact .error _ []
    | some label =>
      rw [if_neg fun beyond => by simp [Label.ofNumber?_eq_none_iff.2 beyond] at h]
      exact .ok label

theorem reference_failsFirst (field : String) (typeName : Option String) :
    FailsFirst (reference field typeName)
      (if typeName.getD "" = "" then [.untyped field] else []) := by
  cases typeName with
  | none => exact .error _ []
  | some name =>
    by_cases h : name = ""
    · rw [reference, if_pos h, Option.getD_some, if_pos h]
      exact .error _ []
    · rw [reference, if_neg h, Option.getD_some, if_neg h]
      exact .ok _

/-- The kind of type that a type number stands for, if it is no scalar. -/
def TypeCode.kind? : TypeCode → Option Descriptor.TypeKind
  | .scalar _ => none
  | .message => some .message
  | .enumeration => some .enumeration

theorem refersTo?_of_ofNumber? {d : Descriptor.Field} {n : Int32} {code : TypeCode}
    (hn : d.type = some n) (h : TypeCode.ofNumber? n = some code) :
    d.refersTo? = code.kind? := by
  cases code with
  | scalar s =>
    have other : n ≠ 10 ∧ n ≠ 11 ∧ n ≠ 14 := by
      refine ⟨?_, ?_, ?_⟩ <;> rintro rfl <;> cases h
    simp [Descriptor.Field.refersTo?, hn, other, TypeCode.kind?]
  | message =>
    rcases eq_of_ofNumber?_message h with rfl | rfl
    · simp [Descriptor.Field.refersTo?, hn, TypeCode.kind?]
    · simp [Descriptor.Field.refersTo?, hn, TypeCode.kind?]
  | enumeration =>
    cases eq_of_ofNumber?_enumeration h
    rw [Descriptor.Field.refersTo?, hn]
    rfl

theorem Field.typeOf_failsFirst (field : String) (d : Descriptor.Field) :
    FailsFirst (typeOf field d.type d.typeName) (d.typeFaults field) := by
  rw [Descriptor.Field.typeFaults]
  cases hn : d.type with
  | none => exact .error _ _
  | some n =>
    rw [typeOf, outside_some, if_neg (by simp), List.nil_append]
    cases h : TypeCode.ofNumber? n with
    | none =>
      rw [if_pos (TypeCode.ofNumber?_eq_none_iff.1 h)]
      exact .error _ _
    | some code =>
      rw [if_neg fun beyond => by simp [TypeCode.ofNumber?_eq_none_iff.2 beyond] at h,
        refersTo?_of_ofNumber? hn h]
      cases code with
      | scalar s => exact .ok _
      | message =>
        simpa [TypeCode.kind?] using (reference_failsFirst field d.typeName).map FieldType.message
      | enumeration =>
        simpa [TypeCode.kind?] using
          (reference_failsFirst field d.typeName).map FieldType.enumeration

theorem Field.failsFirst (scope : String) (d : Descriptor.Field) :
    FailsFirst (Field.ofDescriptor scope d) (d.faults scope) := by
  rw [Descriptor.Field.faults]
  refine (required_failsFirst .field scope d.name).bind fun name hn => ?_
  rw [required_eq_ok.1 hn, Option.getD_some]
  refine (labelOf_failsFirst name d.label).bind fun label _ => ?_
  exact (typeOf_failsFirst name d).bind_pure _

theorem Enum.failsFirst (scope : String) (d : Descriptor.Enum) :
    FailsFirst (Enum.ofDescriptor scope d) (d.faults scope) := by
  rw [Descriptor.Enum.faults]
  refine (required_failsFirst .enumeration scope d.name).bind fun name hn => ?_
  rw [required_eq_ok.1 hn, Option.getD_some]
  refine FailsFirst.bind_pure (FailsFirst.each fun v _ => ?_) _
  exact (required_failsFirst .enumValue name v.name).bind_pure _

theorem oneofs_failsFirst {d : Descriptor.Message} (few : d.oneofs.length < 2 ^ 31)
    (scope : String) :
    FailsFirst (each (fun o => required .oneof scope o.name) (realOneofs d))
      (d.oneofFaults scope) := by
  have faults : d.oneofFaults scope =
      (realOneofs d).flatMap fun o => unnamedFault .oneof scope o.name := by
    rw [Descriptor.Message.oneofFaults, realOneofIndices_eq few]
    have names := congrArg (List.flatMap (unnamedFault .oneof scope)) (map_name_realOneofs d)
    simpa [List.flatMap_map] using names.symm
  rw [faults]
  exact FailsFirst.each fun o _ => required_failsFirst .oneof scope o.name

/-- The check of a message reports the first fault at any depth. By induction over the messages
nested in it, whose scope is known once the message has a name. -/
theorem Message.failsFirst (d : Descriptor.Message) : ∀ {scope : String},
    (∀ m ∈ d.everyDepth, m.oneofs.length < 2 ^ 31) →
      FailsFirst (Message.ofDescriptor scope d) (d.faults scope) := by
  induction d using Descriptor.Message.nested_induction with
  | step d ih =>
    intro scope few
    rw [Descriptor.Message.everyDepth_eq, List.forall_mem_cons, List.forall_mem_flatMap] at few
    rw [Message.ofDescriptor_eq, Descriptor.Message.faults_eq]
    refine (required_failsFirst .message scope d.name).bind fun name hn => ?_
    rw [required_eq_ok.1 hn, Option.getD_some]
    refine (FailsFirst.each fun f _ => Field.failsFirst _ f).bind fun fields _ => ?_
    refine (oneofs_failsFirst few.1 _).bind fun oneofs _ => ?_
    rw [messagesOfDescriptors_eq_each]
    refine (FailsFirst.each fun n hn => ih n hn (few.2 n hn)).bind fun nested _ => ?_
    exact FailsFirst.bind_pure (FailsFirst.each fun e _ => Enum.failsFirst _ e) _

theorem Dialect.failsFirst (file : String) (name : Option String) :
    FailsFirst (Dialect.ofName file name) (syntaxFault file name) := by
  cases name with
  | none => exact .ok _
  | some name =>
    rw [Dialect.ofName, syntaxFault]
    by_cases old : name = "" ∨ name = "proto2"
    · rw [if_pos old, if_pos (by rcases old with rfl | rfl <;> simp)]
      exact .ok _
    · rw [if_neg old]
      rw [not_or] at old
      by_cases new : name = "proto3"
      · rw [if_pos new, if_pos (by simp [new])]
        exact .ok _
      · rw [if_neg new, if_neg (by simp [old, new])]
        exact .error _ []

theorem File.failsFirst {d : Descriptor.File}
    (few : ∀ m ∈ d.messages.flatMap (·.everyDepth), m.oneofs.length < 2 ^ 31) :
    FailsFirst (File.ofDescriptor d) d.faults := by
  rw [List.forall_mem_flatMap] at few
  rw [Descriptor.File.faults]
  refine (required_failsFirst .file "<request>" d.name).bind fun name hn => ?_
  rw [required_eq_ok.1 hn, Option.getD_some]
  refine (Dialect.failsFirst name d.syntaxName).bind fun dialect _ => ?_
  refine (FailsFirst.each fun m hm => Message.failsFirst m (few m hm)).bind fun messages _ => ?_
  refine (FailsFirst.each fun e _ => Enum.failsFirst name e).bind fun enums _ => ?_
  exact FailsFirst.bind_pure (FailsFirst.each fun f _ => Field.failsFirst name f) _

/-! ## What is kept -/

/-- A field or an extension with the name of its descriptor, and with its number, `0` for none. -/
structure Field.Keeps (d : Descriptor.Field) (f : Field) : Prop where
  name : d.name = some f.name
  number : f.number = d.number.getD 0

structure EnumValue.Keeps (d : Descriptor.EnumValue) (v : EnumValue) : Prop where
  name : d.name = some v.name
  number : v.number = d.number.getD 0

structure Enum.Keeps (d : Descriptor.Enum) (e : Enum) : Prop where
  name : d.name = some e.name
  values : List.Forall₂ EnumValue.Keeps d.values e.values

/-- A message with the name of its descriptor and with all that is in it, at every depth. -/
inductive Message.Keeps : Descriptor.Message → Message → Prop where
  | parts {d : Descriptor.Message} {m : Message} (name : d.name = some m.name)
      (fields : List.Forall₂ Field.Keeps d.fields m.fields)
      (nested : List.Forall₂ Message.Keeps d.nested m.nested)
      (enums : List.Forall₂ Enum.Keeps d.enums m.enums) : Message.Keeps d m

structure File.Keeps (d : Descriptor.File) (file : File) : Prop where
  name : d.name = some file.name
  messages : List.Forall₂ Message.Keeps d.messages file.messages
  enums : List.Forall₂ Enum.Keeps d.enums file.enums
  extensions : List.Forall₂ Field.Keeps d.extensions file.extensions

theorem Field.keeps_of_ofDescriptor {scope : String} {d : Descriptor.Field} {f : Field}
    (h : Field.ofDescriptor scope d = .ok f) : Field.Keeps d f := by
  obtain ⟨name, label, type, hn, -, -, rfl⟩ := Field.ofDescriptor_eq_ok.1 h
  exact ⟨hn, rfl⟩

theorem EnumValue.keeps_of_ofDescriptor {scope : String} {d : Descriptor.EnumValue}
    {v : EnumValue} (h : EnumValue.ofDescriptor scope d = .ok v) : EnumValue.Keeps d v := by
  simp only [EnumValue.ofDescriptor, Check.bind_eq_ok, required_eq_ok] at h
  obtain ⟨name, hn, rest⟩ := h
  cases rest
  exact ⟨hn, rfl⟩

theorem Enum.keeps_of_ofDescriptor {scope : String} {d : Descriptor.Enum} {e : Enum}
    (h : Enum.ofDescriptor scope d = .ok e) : Enum.Keeps d e := by
  obtain ⟨name, values, hn, hv, rfl⟩ := Enum.ofDescriptor_eq_ok.1 h
  exact ⟨hn, forall₂_of_each hv fun v _ w hw => EnumValue.keeps_of_ofDescriptor hw⟩

theorem Message.keeps_of_ofDescriptor (d : Descriptor.Message) : ∀ {scope : String} {m : Message},
    Message.ofDescriptor scope d = .ok m → Message.Keeps d m := by
  induction d using Descriptor.Message.nested_induction with
  | step d ih =>
    intro scope m h
    obtain ⟨name, fields, oneofs, nested, enums, hn, hf, -, hm, he, rfl⟩ :=
      Message.ofDescriptor_eq_ok.1 h
    refine .parts hn ?_ (forall₂_of_each hm fun n hn k hk => ih n hn hk)
      (forall₂_of_each he fun e _ k hk => Enum.keeps_of_ofDescriptor hk)
    -- Renumbering touches nothing but the oneof that a field belongs to.
    rw [List.forall₂_map_right_iff]
    refine forall₂_of_each hf fun f _ g hg => ?_
    have kept := Field.keeps_of_ofDescriptor hg
    exact ⟨kept.name, kept.number⟩

theorem File.keeps_of_ofDescriptor {d : Descriptor.File} {file : File}
    (h : File.ofDescriptor d = .ok file) : File.Keeps d file := by
  obtain ⟨name, dialect, messages, enums, extensions, hn, -, hm, he, hx, rfl⟩ :=
    File.ofDescriptor_eq_ok.1 h
  exact ⟨hn, forall₂_of_each hm fun m _ k hk => Message.keeps_of_ofDescriptor m hk,
    forall₂_of_each he fun e _ k hk => Enum.keeps_of_ofDescriptor hk,
    forall₂_of_each hx fun f _ g hg => Field.keeps_of_ofDescriptor hg⟩

/-- The check of a file accepts the well-formed descriptors and no others. Of all that may be wrong
with the others it reports what comes first, and what it accepts keeps its parts at every depth.
There must be numbers for all oneofs of every message. -/
theorem File.accepts_wellFormed {d : Descriptor.File}
    (few : ∀ m ∈ d.messages.flatMap (·.everyDepth), m.oneofs.length < 2 ^ 31) :
    ((∃ file, File.ofDescriptor d = .ok file) ↔ d.WellFormed) ∧
      (∀ fault, File.ofDescriptor d = .error fault ↔ d.faults.head? = some fault) ∧
      ∀ file, File.ofDescriptor d = .ok file → File.Keeps d file := by
  have check := File.failsFirst few
  refine ⟨?_, check, fun file h => File.keeps_of_ofDescriptor h⟩
  rw [check.exists_ok_iff, Descriptor.File.faults_eq_nil_iff]

end Proto

namespace Sample

/-- A file in which four things are wrong, the first of them in a nested message: a label that does
not exist. The oneof without a name is no fault, since a `proto3_optional` field points at it. -/
def faultyDescriptor : Descriptor.File :=
  { name := some "vote.proto", package := none, dependencies := [], syntaxName := some "proto3",
    messages := [
      { name := some "Vote", fields := [choiceDescriptor "age" 1 (some 0) true], oneofs := [⟨none⟩],
        nested := [
          { name := some "Seat", nested := [], enums := [], oneofs := [], options := none,
            fields := [
              { choiceDescriptor "row" 1 none false with label := some 4, type := some 11 }] }],
        enums := [], options := none }],
    enums := [{ name := none, values := [⟨none, some 1⟩] }], extensions := [] }

end Sample

open Proto Sample in
theorem sample_accepts_wellFormed :
    (∀ m ∈ faultyDescriptor.messages.flatMap (·.everyDepth), m.oneofs.length < 2 ^ 31) ∧
      faultyDescriptor.faults.length = 4 ∧
      File.ofDescriptor faultyDescriptor = .error (.unknownLabel "row" 4) ∧
      ¬ faultyDescriptor.WellFormed := by
  have few : ∀ m ∈ faultyDescriptor.messages.flatMap (·.everyDepth), m.oneofs.length < 2 ^ 31 := by
    decide
  obtain ⟨accepts, reports, -⟩ := File.accepts_wellFormed few
  have fails : File.ofDescriptor faultyDescriptor = .error (.unknownLabel "row" 4) :=
    (reports _).2 (by decide)
  refine ⟨few, by decide, fails, ?_⟩
  intro wellFormed
  obtain ⟨file, h⟩ := accepts.2 wellFormed
  rw [fails] at h
  cases h

end ProtoTypings
