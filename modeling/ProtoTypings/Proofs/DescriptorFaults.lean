import ProtoTypings.Descriptor.Fault
import ProtoTypings.Proofs.Declared
import ProtoTypings.Proofs.OneofNumbering

/-!
# Proofs.DescriptorFaults

What is wrong with a descriptor, all of it. Every part of a descriptor is looked at by itself, even
where a check has long given up, and the faults are listed in the order of a fixed walk: the name of
the file, its syntax, its messages, enums and extensions; inside a message its name, fields, oneofs,
nested messages and enums; of a field its name, label, type and the name of the type.

* `File.WellFormed`, `Message.WellFormed`, `Field.WellFormed`, `Enum.WellFormed` — what descriptors
  must be like, in no order.
* `File.faults`, `Message.faults`, `Field.faults`, `Enum.faults` — their faults, in order.
* `File.faults_eq_nil_iff` — a descriptor is well-formed just if it has no fault.
-/

namespace ProtoTypings
namespace Descriptor

/-! ## Names and numbers -/

/-- The fault of an element without a name. -/
def unnamedFault (element : Element) (scope : String) (name : Option String) : List Fault :=
  if name = none then [.unnamed element scope] else []

/-- A number that is set to none of `1`, ..., `last`. -/
def outside (last : Int) (number : Option Int32) : List Int32 :=
  number.toList.filter fun n => n.toInt < 1 ∨ last < n.toInt

theorem unnamedFault_eq_nil_iff {element : Element} {scope : String} {name : Option String} :
    unnamedFault element scope name = [] ↔ name ≠ none := by
  by_cases h : name = none
  · simp [unnamedFault, h]
  · simp [unnamedFault, h]

theorem outside_some {last : Int} {n : Int32} :
    outside last (some n) = if n.toInt < 1 ∨ last < n.toInt then [n] else [] := by
  simp only [outside, Option.toList_some, List.filter_singleton]
  by_cases h : n.toInt < 1 ∨ last < n.toInt <;> simp [h]

theorem outside_eq_nil_iff {last : Int} {number : Option Int32} :
    outside last number = [] ↔ ∀ n ∈ number, 1 ≤ n.toInt ∧ n.toInt ≤ last := by
  cases number with
  | none => simp [outside]
  | some n =>
    simp only [outside_some, Option.mem_some]
    split
    · rename_i beyond
      simp only [List.cons_ne_nil, false_iff]
      intro within
      have := within n rfl
      omega
    · rename_i within
      simp only [true_iff]
      rintro _ rfl
      omega

/-! ## Fields -/

/-- A field with a name, a known label if any, a known type, and the name of the message or enum
that it refers to if it is of such a type. -/
structure Field.WellFormed (f : Field) : Prop where
  name : f.name ≠ none
  label : ∀ n ∈ f.label, 1 ≤ n.toInt ∧ n.toInt ≤ 3
  type : ∃ n, f.type = some n ∧ 1 ≤ n.toInt ∧ n.toInt ≤ 18
  typeName : f.refersTo? ≠ none → ∃ name, f.typeName = some name ∧ name ≠ ""

/-- The faults in the type of a field that goes by a name. -/
def Field.typeFaults (name : String) (f : Field) : List Fault :=
  (if f.type = none then [.untyped name] else []) ++ (outside 18 f.type).map (.unknownType name) ++
    if f.refersTo? ≠ none ∧ f.typeName.getD "" = "" then [.untyped name] else []

def Field.faults (scope : String) (f : Field) : List Fault :=
  unnamedFault .field scope f.name ++
    ((outside 3 f.label).map (.unknownLabel (f.name.getD "")) ++ f.typeFaults (f.name.getD ""))

theorem getD_ne_empty_iff {name : Option String} :
    name.getD "" ≠ "" ↔ ∃ given, name = some given ∧ given ≠ "" := by
  cases name <;> simp

theorem Field.faults_eq_nil_iff {scope : String} {f : Field} :
    f.faults scope = [] ↔ f.WellFormed := by
  have untyped : (if f.type = none then [Fault.untyped (f.name.getD "")] else []) = [] ↔
      ∃ n, f.type = some n := by
    cases f.type <;> simp
  have unreferenced : (if f.refersTo? ≠ none ∧ f.typeName.getD "" = "" then
      [Fault.untyped (f.name.getD "")] else []) = [] ↔
      (f.refersTo? ≠ none → ∃ name, f.typeName = some name ∧ name ≠ "") := by
    rw [← getD_ne_empty_iff]
    simp
  simp only [Field.faults, Field.typeFaults, List.append_eq_nil_iff, List.map_eq_nil_iff,
    unnamedFault_eq_nil_iff, outside_eq_nil_iff, untyped, unreferenced]
  constructor
  · rintro ⟨name, label, ⟨⟨n, hn⟩, type⟩, typeName⟩
    exact ⟨name, label, ⟨n, hn, type n hn⟩, typeName⟩
  · rintro ⟨name, label, ⟨n, hn, within⟩, typeName⟩
    refine ⟨name, label, ⟨⟨n, hn⟩, ?_⟩, typeName⟩
    intro m hm
    cases hn.symm.trans hm
    exact within

/-! ## Enums -/

structure Enum.WellFormed (e : Enum) : Prop where
  name : e.name ≠ none
  values : ∀ v ∈ e.values, v.name ≠ none

def Enum.faults (scope : String) (e : Enum) : List Fault :=
  unnamedFault .enumeration scope e.name ++
    e.values.flatMap fun v => unnamedFault .enumValue (e.name.getD "") v.name

theorem Enum.faults_eq_nil_iff {scope : String} {e : Enum} :
    e.faults scope = [] ↔ e.WellFormed := by
  simp only [Enum.faults, List.append_eq_nil_iff, List.flatMap_eq_nil_iff,
    unnamedFault_eq_nil_iff]
  exact ⟨fun ⟨name, values⟩ => ⟨name, values⟩, fun ⟨name, values⟩ => ⟨name, values⟩⟩

/-! ## Messages -/

/-- A message whose own parts are well-formed. What is nested in it is not looked at. Only those of
its oneofs need names that no `proto3_optional` field points at. -/
structure Message.WellFormed (d : Message) : Prop where
  name : d.name ≠ none
  fields : ∀ f ∈ d.fields, f.WellFormed
  oneofs : ∀ i ∈ d.realOneofIndices, d.oneofs[i]?.bind (·.name) ≠ none
  enums : ∀ e ∈ d.enums, e.WellFormed

/-- The faults in the oneofs of a message. -/
def Message.oneofFaults (scope : String) (d : Message) : List Fault :=
  d.realOneofIndices.flatMap fun i => unnamedFault .oneof scope (d.oneofs[i]?.bind (·.name))

mutual

/-- The faults of a message inside `scope`, and of those nested in it. -/
def Message.faults (scope : String) : Message → List Fault
  | ⟨name, fields, nested, enums, oneofs, options⟩ =>
    let d : Message := ⟨name, fields, nested, enums, oneofs, options⟩
    let inner := scope ++ "." ++ name.getD ""
    unnamedFault .message scope name ++
      (fields.flatMap (·.faults inner) ++
        (d.oneofFaults inner ++ (messagesFaults inner nested ++ enums.flatMap (·.faults inner))))

def messagesFaults (scope : String) : List Message → List Fault
  | [] => []
  | d :: ds => d.faults scope ++ messagesFaults scope ds

end

theorem messagesFaults_eq_flatMap (scope : String) (ds : List Message) :
    messagesFaults scope ds = ds.flatMap (·.faults scope) := by
  induction ds with
  | nil => rfl
  | cons d ds ih => rw [messagesFaults, List.flatMap_cons, ih]

theorem Message.faults_eq (scope : String) (d : Message) :
    d.faults scope =
      unnamedFault .message scope d.name ++
        (d.fields.flatMap (·.faults (scope ++ "." ++ d.name.getD "")) ++
          (d.oneofFaults (scope ++ "." ++ d.name.getD "") ++
            (d.nested.flatMap (·.faults (scope ++ "." ++ d.name.getD "")) ++
              d.enums.flatMap (·.faults (scope ++ "." ++ d.name.getD ""))))) := by
  rw [← messagesFaults_eq_flatMap]
  cases d
  rfl

theorem Message.everyDepth_eq (d : Message) :
    d.everyDepth = d :: d.nested.flatMap (·.everyDepth) := by
  rw [Message.everyDepth, Message.select_eq]
  rfl

/-- The faults of a message are those of its own parts and those of the messages nested in it. -/
theorem Message.faults_eq_nil_iff (d : Message) :
    ∀ {scope : String}, d.faults scope = [] ↔ ∀ m ∈ d.everyDepth, m.WellFormed := by
  induction d using Message.nested_induction with
  | step d ih =>
    intro scope
    have nested_ : d.nested.flatMap (·.faults (scope ++ "." ++ d.name.getD "")) = [] ↔
        ∀ m ∈ d.nested.flatMap (·.everyDepth), m.WellFormed := by
      rw [List.flatMap_eq_nil_iff, List.forall_mem_flatMap]
      exact forall₂_congr fun n hn => ih n hn
    rw [Message.faults_eq, Message.everyDepth_eq, List.forall_mem_cons, ← nested_]
    simp only [Message.oneofFaults, List.append_eq_nil_iff, List.flatMap_eq_nil_iff,
      unnamedFault_eq_nil_iff, Field.faults_eq_nil_iff, Enum.faults_eq_nil_iff]
    constructor
    · rintro ⟨name, fields, oneofs, nested, enums⟩
      exact ⟨⟨name, fields, oneofs, enums⟩, nested⟩
    · rintro ⟨⟨name, fields, oneofs, enums⟩, nested⟩
      exact ⟨name, fields, oneofs, nested, enums⟩

/-! ## Files -/

/-- A file in which everything is well-formed, down to the innermost message. -/
structure File.WellFormed (d : File) : Prop where
  name : d.name ≠ none
  syntaxName : d.syntaxName ∈ [none, some "", some "proto2", some "proto3"]
  messages : ∀ m ∈ d.messages.flatMap (·.everyDepth), m.WellFormed
  enums : ∀ e ∈ d.enums, e.WellFormed
  extensions : ∀ f ∈ d.extensions, f.WellFormed

/-- The fault of a syntax that is not known. -/
def syntaxFault (file : String) (name : Option String) : List Fault :=
  if name ∈ [none, some "", some "proto2", some "proto3"] then []
  else [.unknownSyntax (name.getD "") file]

def File.faults (d : File) : List Fault :=
  unnamedFault .file "<request>" d.name ++
    (syntaxFault (d.name.getD "") d.syntaxName ++
      (d.messages.flatMap (·.faults (d.name.getD "")) ++
        (d.enums.flatMap (·.faults (d.name.getD "")) ++
          d.extensions.flatMap (·.faults (d.name.getD "")))))

theorem syntaxFault_eq_nil_iff {file : String} {name : Option String} :
    syntaxFault file name = [] ↔ name ∈ [none, some "", some "proto2", some "proto3"] := by
  rw [syntaxFault]
  split
  · simp_all
  · simp_all

/-- A file is well-formed just if nothing is wrong with it. -/
theorem File.faults_eq_nil_iff {d : File} : d.faults = [] ↔ d.WellFormed := by
  simp only [File.faults, List.append_eq_nil_iff, unnamedFault_eq_nil_iff, syntaxFault_eq_nil_iff,
    List.flatMap_eq_nil_iff, Message.faults_eq_nil_iff, Field.faults_eq_nil_iff,
    Enum.faults_eq_nil_iff]
  rw [← List.forall_mem_flatMap]
  constructor
  · rintro ⟨name, syntaxName, messages, enums, extensions⟩
    exact ⟨name, syntaxName, messages, enums, extensions⟩
  · rintro ⟨name, syntaxName, messages, enums, extensions⟩
    exact ⟨name, syntaxName, messages, enums, extensions⟩

end Descriptor
end ProtoTypings
