import ProtoTypings.Proofs.Conversion
import ProtoTypings.Proofs.Lookup

/-!
# Proofs.Declared

What file descriptors declare and refer to, before any check, and that it is what the definitions
made from them declare and refer to.

* `Descriptor.File.declared` — the messages and enums of a descriptor, by the parts of their names.
* `Descriptor.File.allFields` — its fields and extensions, at every depth.
* `File.declared_eq`, `File.fieldTypes_of_allFields` — what is left of these after the checks.
-/

namespace ProtoTypings
namespace Descriptor

inductive TypeKind where
  | message
  | enumeration
deriving Repr, DecidableEq

/-- A declared type: its kind, and the names from the package down to its own. -/
structure DeclaredType where
  names : List String
  kind : TypeKind
deriving Repr, DecidableEq

def DeclaredType.fullName (t : DeclaredType) : String := dotted t.names

def Enum.declared (outer : List String) (e : Enum) : DeclaredType :=
  ⟨outer ++ [e.name.getD ""], .enumeration⟩

mutual

/-- The types that a message declares inside `outer`: those nested in it, then itself. -/
def Message.declared (outer : List String) : Message → List DeclaredType
  | ⟨name, _, nested, enums, _, _⟩ =>
    let names := outer ++ [name.getD ""]
    messagesDeclared names nested ++ enums.map (Enum.declared names) ++ [⟨names, .message⟩]

def messagesDeclared (outer : List String) : List Message → List DeclaredType
  | [] => []
  | d :: ds => d.declared outer ++ messagesDeclared outer ds

end

mutual

/-- The fields of a message and of the messages nested in it, at every depth. -/
def Message.allFields : Message → List Field
  | ⟨_, fields, nested, _, _, _⟩ => fields ++ messagesFields nested

def messagesFields : List Message → List Field
  | [] => []
  | d :: ds => d.allFields ++ messagesFields ds

end

def File.declared (d : File) : List DeclaredType :=
  messagesDeclared (packagePath d.package) d.messages ++
    d.enums.map (Enum.declared (packagePath d.package))

/-- The fields of a file, in messages at every depth, and its extensions. -/
def File.allFields (d : File) : List Field := messagesFields d.messages ++ d.extensions

/-- The kind of type that a field refers to. Numbers 10 and 11 are groups and messages. -/
def Field.refersTo? (f : Field) : Option TypeKind :=
  if f.type = some 10 ∨ f.type = some 11 then some .message
  else if f.type = some 14 then some .enumeration
  else none

/-- A field that refers to a type of the right kind among some, by a dot and the full name, if it
refers to any. -/
def Field.RefersInto (types : List DeclaredType) (f : Field) : Prop :=
  ∀ kind ∈ f.refersTo?, ∃ t ∈ types, t.kind = kind ∧ f.typeName = some ("." ++ t.fullName)

instance (types : List DeclaredType) (f : Field) : Decidable (f.RefersInto types) :=
  inferInstanceAs (Decidable (∀ kind ∈ f.refersTo?, _))

theorem messagesDeclared_eq_flatMap (outer : List String) (ds : List Message) :
    messagesDeclared outer ds = ds.flatMap (·.declared outer) := by
  induction ds with
  | nil => rfl
  | cons d ds ih => rw [messagesDeclared, List.flatMap_cons, ih]

theorem messagesFields_eq_flatMap (ds : List Message) :
    messagesFields ds = ds.flatMap (·.allFields) := by
  induction ds with
  | nil => rfl
  | cons d ds ih => rw [messagesFields, List.flatMap_cons, ih]

theorem Message.declared_eq (outer : List String) (d : Message) :
    d.declared outer =
      d.nested.flatMap (·.declared (outer ++ [d.name.getD ""])) ++
        d.enums.map (Enum.declared (outer ++ [d.name.getD ""])) ++
        [⟨outer ++ [d.name.getD ""], .message⟩] := by
  rw [← messagesDeclared_eq_flatMap]
  cases d
  rfl

theorem Message.allFields_eq (d : Message) :
    d.allFields = d.fields ++ d.nested.flatMap (·.allFields) := by
  rw [← messagesFields_eq_flatMap]
  cases d
  rfl

end Descriptor

namespace Proto

open Descriptor (DeclaredType TypeKind)

/-! ## Declarations -/

def TypeDefinition.kind : TypeDefinition → TypeKind
  | message _ => .message
  | enumeration _ => .enumeration

def TypeDecl.declared (outer : List String) (t : TypeDecl) : DeclaredType :=
  ⟨outer ++ t.path, t.definition.kind⟩

theorem Enum.declared_eq {scope : String} {d : Descriptor.Enum} {e : Enum}
    (h : Enum.ofDescriptor scope d = .ok e) (outer : List String) :
    d.declared outer = TypeDecl.declared outer ⟨[], .enumeration e⟩ := by
  obtain ⟨name, values, hn, -, rfl⟩ := Enum.ofDescriptor_eq_ok.1 h
  simp [Descriptor.Enum.declared, hn, TypeDecl.declared, TypeDecl.path, TypeDefinition.name,
    TypeDefinition.kind]

theorem Message.declared_eq (d : Descriptor.Message) : ∀ {scope : String} {m : Message},
    Message.ofDescriptor scope d = .ok m → ∀ outer,
      d.declared outer = m.typeDecls.map (·.declared outer) := by
  induction d using Descriptor.Message.nested_induction with
  | step d ih =>
    intro scope m h outer
    obtain ⟨name, fields, oneofs, nested, enums, hn, -, -, hm, he, rfl⟩ :=
      Message.ofDescriptor_eq_ok.1 h
    rw [Descriptor.Message.declared_eq, Message.typeDecls_eq, hn, Option.getD_some]
    have nested_ : d.nested.flatMap (·.declared (outer ++ [name])) =
        (nested.flatMap (·.typeDecls)).map (·.declared (outer ++ [name])) := by
      rw [List.map_flatMap]
      exact flatMap_of_each hm fun n hn k hk => ih n hn hk (outer ++ [name])
    have enums_ : d.enums.map (Descriptor.Enum.declared (outer ++ [name])) =
        enums.map fun e => (TypeDecl.mk [] (.enumeration e)).declared (outer ++ [name]) :=
      map_of_each he fun e _ k hk => Enum.declared_eq hk (outer ++ [name])
    rw [nested_, enums_]
    simp [TypeDecl.declared, TypeDecl.path, TypeDefinition.name,
      TypeDefinition.kind, Function.comp_def]

/-- The types that a file declares are those of its descriptor. -/
theorem File.declared_eq {d : Descriptor.File} {file : File} (h : File.ofDescriptor d = .ok file) :
    d.declared = file.typeDecls.map (·.declared (packagePath file.package)) := by
  obtain ⟨name, dialect, messages, enums, extensions, -, -, hm, he, -, rfl⟩ :=
    File.ofDescriptor_eq_ok.1 h
  have package : packagePath (d.package.filter (· ≠ "")) = packagePath d.package := by
    cases hp : d.package with
    | none => rfl
    | some p => by_cases e : p = "" <;> simp [packagePath, Option.filter, e]
  have messages_ : Descriptor.messagesDeclared (packagePath d.package) d.messages =
      (messages.flatMap (·.typeDecls)).map (·.declared (packagePath d.package)) := by
    rw [Descriptor.messagesDeclared_eq_flatMap, List.map_flatMap]
    exact flatMap_of_each hm fun n _ k hk => Message.declared_eq n hk _
  have enums_ : d.enums.map (Descriptor.Enum.declared (packagePath d.package)) =
      enums.map fun e => (TypeDecl.mk [] (.enumeration e)).declared (packagePath d.package) :=
    map_of_each he fun e _ k hk => Enum.declared_eq hk _
  rw [Descriptor.File.declared, messages_, enums_, File.typeDecls, package]
  simp [Function.comp_def]

/-! ## References -/

/-- A field type that refers to a type of its kind among some, if it refers to any. -/
def FieldType.RefersInto (types : List DeclaredType) : FieldType → Prop
  | .scalar _ => True
  | .message name => ∃ t ∈ types, t.kind = .message ∧ t.fullName = name
  | .enumeration name => ∃ t ∈ types, t.kind = .enumeration ∧ t.fullName = name

theorem eq_of_ofNumber?_message {n : Int32} (h : TypeCode.ofNumber? n = some .message) :
    n = 10 ∨ n = 11 := by
  unfold TypeCode.ofNumber? at h
  split at h <;> simp only [Option.some.injEq, reduceCtorEq] at h
  · rename_i e
    exact .inl (Int32.toInt_inj.1 e)
  · rename_i e
    exact .inr (Int32.toInt_inj.1 e)

theorem eq_of_ofNumber?_enumeration {n : Int32} (h : TypeCode.ofNumber? n = some .enumeration) :
    n = 14 := by
  unfold TypeCode.ofNumber? at h
  split at h <;> simp only [Option.some.injEq, reduceCtorEq] at h
  rename_i e
  exact Int32.toInt_inj.1 e

theorem reference_dot (field fullName : String) :
    reference field (some ("." ++ fullName)) = .ok fullName := by
  have ne : "." ++ fullName ≠ "" := by simp
  have cut : ("." ++ fullName).toList = '.' :: fullName.toList := by simp
  rw [reference, if_neg ne, referenceName, cut]
  simp only [String.ofList_toList]

theorem Field.refersInto_typeOf {types : List DeclaredType} {f : Descriptor.Field}
    (closed : f.RefersInto types) {name : String} {type : FieldType}
    (h : Field.typeOf name f.type f.typeName = .ok type) : type.RefersInto types := by
  unfold Field.typeOf at h
  split at h
  · cases h
  rename_i n hn
  split at h
  · cases h
  · cases h
    trivial
  · rename_i code
    obtain ⟨t, ht, kind, hname⟩ := closed .message (by
      rcases eq_of_ofNumber?_message code with rfl | rfl <;> simp [Descriptor.Field.refersTo?, hn])
    rw [hname, reference_dot] at h
    cases h
    exact ⟨t, ht, kind, rfl⟩
  · rename_i code
    obtain ⟨t, ht, kind, hname⟩ := closed .enumeration (by
      rw [Descriptor.Field.refersTo?, hn, eq_of_ofNumber?_enumeration code]
      decide)
    rw [hname, reference_dot] at h
    cases h
    exact ⟨t, ht, kind, rfl⟩

/-- All fields of the messages among some declared types refer to given types. -/
def ClosedFields (types : List DeclaredType) (ts : List TypeDecl) : Prop :=
  ∀ t ∈ ts, ∀ m, t.definition = .message m → ∀ f ∈ m.fields, f.type.RefersInto types

theorem Field.refersInto_of_each {types : List DeclaredType} {scope : String}
    {ds : List Descriptor.Field} {fs : List Field} (h : each (Field.ofDescriptor scope) ds = .ok fs)
    (closed : ∀ d ∈ ds, d.RefersInto types) : ∀ f ∈ fs, f.type.RefersInto types := by
  intro f hf
  obtain ⟨d, hd, ok⟩ := exists_of_mem_each h hf
  obtain ⟨name, label, type, -, -, ht, rfl⟩ := Field.ofDescriptor_eq_ok.1 ok
  exact Field.refersInto_typeOf (closed d hd) ht

theorem Message.closedFields {types : List DeclaredType} (d : Descriptor.Message) :
    ∀ {scope : String} {m : Message}, Message.ofDescriptor scope d = .ok m →
      (∀ f ∈ d.allFields, f.RefersInto types) → ClosedFields types m.typeDecls := by
  induction d using Descriptor.Message.nested_induction with
  | step d ih =>
    intro scope m h closed
    obtain ⟨name, fields, oneofs, nested, enums, -, hf, -, hm, -, rfl⟩ :=
      Message.ofDescriptor_eq_ok.1 h
    rw [Descriptor.Message.allFields_eq] at closed
    intro t ht k hk f hfield
    rcases Message.mem_typeDecls.1 ht with ⟨n, hn, u, hu, rfl⟩ | ⟨e, -, rfl⟩ | rfl
    · obtain ⟨dn, hdn, ok⟩ := exists_of_mem_each hm hn
      refine ih dn hdn ok (fun g hg => closed g ?_) u hu k hk f hfield
      exact List.mem_append_right _ (List.mem_flatMap.2 ⟨dn, hdn, hg⟩)
    · cases hk
    · cases hk
      obtain ⟨g, hg, rfl⟩ := List.mem_map.1 hfield
      exact Field.refersInto_of_each hf (fun d' hd => closed d' (List.mem_append_left _ hd)) g hg

theorem File.closedFields {types : List DeclaredType} {d : Descriptor.File} {file : File}
    (h : File.ofDescriptor d = .ok file) (closed : ∀ f ∈ d.allFields, f.RefersInto types) :
    ClosedFields types file.typeDecls ∧ ∀ f ∈ file.extensions, f.type.RefersInto types := by
  obtain ⟨name, dialect, messages, enums, extensions, -, -, hm, -, hx, rfl⟩ :=
    File.ofDescriptor_eq_ok.1 h
  rw [Descriptor.File.allFields, Descriptor.messagesFields_eq_flatMap] at closed
  constructor
  · intro t ht k hk f hf
    rcases List.mem_append.1 ht with ht | ht
    · obtain ⟨n, hn, ht⟩ := List.mem_flatMap.1 ht
      obtain ⟨dn, hdn, ok⟩ := exists_of_mem_each hm hn
      refine Message.closedFields dn ok (fun g hg => closed g ?_) t ht k hk f hf
      exact List.mem_append_left _ (List.mem_flatMap.2 ⟨dn, hdn, hg⟩)
    · obtain ⟨e, -, rfl⟩ := List.mem_map.1 ht
      cases hk
  · exact Field.refersInto_of_each hx fun g hg => closed g (List.mem_append_right _ hg)

end Proto
end ProtoTypings
