import ProtoTypings.Proofs.Reference
import ProtoTypings.Proofs.TableHistory

/-!
# Proofs.Relocation

Moving all files into an enclosing package. Packages, symbols and references take the same prefix,
so every look-up finds what it found before, under its new name, and what is generated differs in
the comment that names the package and nowhere else.

* `Relocates` — results of two runs: the same up to the prefix, failures included.
* `SymbolTable.get?_relocated` — a table knows a name below the prefix as it knew the name.
* `generate_relocated` — the generated files before and after.
-/

namespace ProtoTypings

open Proto TypeScript

/-! ## Relocated definitions -/

/-- A scope inside the package `r`; the outermost scope becomes `r` itself. -/
def relocatedScope (r scope : String) : String := if scope = "" then r else r ++ "." ++ scope

/-- The package of a file inside the package `r`. -/
def relocatedPackage (r : String) (package : Option String) : String :=
  relocatedScope r (package.getD "")

namespace Proto

def FieldType.relocated (r : String) : FieldType → FieldType
  | .scalar kind => .scalar kind
  | .message name => .message (r ++ "." ++ name)
  | .enumeration name => .enumeration (r ++ "." ++ name)

def Field.relocated (r : String) (f : Field) : Field := { f with type := f.type.relocated r }

mutual

def Message.relocated (r : String) : Message → Message
  | ⟨name, isMapEntry, fields, oneofs, nested, enums⟩ =>
    ⟨name, isMapEntry, fields.map (·.relocated r), oneofs, messagesRelocated r nested, enums⟩

def messagesRelocated (r : String) : List Message → List Message
  | [] => []
  | m :: ms => m.relocated r :: messagesRelocated r ms

end

theorem messagesRelocated_eq_map (r : String) (ms : List Message) :
    messagesRelocated r ms = ms.map (·.relocated r) := by
  induction ms with
  | nil => rfl
  | cons m ms ih => rw [messagesRelocated, ih, List.map_cons]

theorem Message.relocated_eq (r : String) (m : Message) :
    m.relocated r = { m with
      fields := m.fields.map (·.relocated r)
      nested := m.nested.map (·.relocated r) } := by
  rw [← messagesRelocated_eq_map]
  cases m
  rfl

/-- The file with its package inside the package `r`, and with all references following. -/
def File.relocated (r : String) (file : File) : File :=
  { file with
    package := some (relocatedPackage r file.package)
    messages := file.messages.map (·.relocated r)
    extensions := file.extensions.map (·.relocated r) }

@[simp] theorem FieldType.relocated_beq_scalar (r : String) (type : FieldType) (scalar : Scalar) :
    (type.relocated r == .scalar scalar) = (type == .scalar scalar) := by
  cases type <;> rfl

@[simp] theorem Field.isRepeated_relocated (r : String) (f : Field) :
    (f.relocated r).isRepeated = f.isRepeated := rfl

@[simp] theorem Field.isMessage_relocated (r : String) (f : Field) :
    (f.relocated r).isMessage = f.isMessage := by
  obtain ⟨name, number, label, type, oneofIndex, proto3Optional⟩ := f
  cases type <;> rfl

@[simp] theorem Field.mayBeUndefined_relocated (r : String) (f : Field) :
    (f.relocated r).mayBeUndefined = f.mayBeUndefined := by
  rw [Field.mayBeUndefined, Field.isMessage_relocated]
  rfl

@[simp] theorem Field.isBytes_relocated (r : String) (f : Field) :
    (f.relocated r).isBytes = f.isBytes :=
  f.type.relocated_beq_scalar r .bytes

end Proto

/-! ## Symbols -/

def MapEntry.relocated (r : String) (entry : MapEntry) : MapEntry :=
  { key := entry.key.relocated r, value := entry.value.relocated r }

def SymbolKind.relocated (r : String) : SymbolKind → SymbolKind
  | .message entry => .message (entry.map (·.relocated r))
  | .enumeration => .enumeration

def Symbol.relocated (r : String) (s : Symbol) : Symbol :=
  { s with package := some (relocatedPackage r s.package), kind := s.kind.relocated r }

@[simp] theorem Symbol.isMessage_relocated (r : String) (s : Symbol) :
    (s.relocated r).isMessage = s.isMessage := by
  obtain ⟨fileName, package, kind⟩ := s
  cases kind <;> rfl

theorem Symbol.mapEntry_relocated (r : String) (s : Symbol) :
    (s.relocated r).mapEntry = s.mapEntry.map (·.relocated r) := by
  obtain ⟨fileName, package, kind⟩ := s
  cases kind <;> rfl

section Names

variable {r : String} (hr : r ≠ "")

include hr

theorem relocatedScope_ne_empty (scope : String) : relocatedScope r scope ≠ "" := by
  unfold relocatedScope
  split
  · exact hr
  · simp

theorem qualify_relocatedScope (scope name : String) :
    qualify (relocatedScope r scope) name = r ++ "." ++ qualify scope name := by
  rw [qualify, if_neg (relocatedScope_ne_empty hr scope), relocatedScope, qualify]
  by_cases h : scope = ""
  · rw [if_pos h, if_pos h]
  · rw [if_neg h, if_neg h]
    simp [String.append_assoc]

/-- The local name of a symbol that stands under its full name does not change. -/
theorem Symbol.localName_relocated {s : Symbol} {fullName : String}
    (h : qualify (s.package.getD "") (s.localName fullName) = fullName) :
    (s.relocated r).localName (r ++ "." ++ fullName) = s.localName fullName := by
  have ne : relocatedPackage r s.package ≠ "" := relocatedScope_ne_empty hr _
  have full : r ++ "." ++ fullName =
      relocatedPackage r s.package ++ "." ++ s.localName fullName := by
    conv => lhs; rw [← h]
    rw [← qualify_relocatedScope hr, qualify, if_neg (relocatedScope_ne_empty hr _)]
    rfl
  rw [full]
  exact Symbol.localName_append rfl ne _

end Names

theorem relocatedScope_qualify {r name : String} (h : name ≠ "") (scope : String) :
    relocatedScope r (qualify scope name) = r ++ "." ++ qualify scope name := by
  apply if_neg
  unfold qualify
  split
  · exact h
  · simp

namespace Proto

theorem Message.mapFields_relocated (r : String) (m : Message) :
    (m.relocated r).mapFields = m.mapFields.map (·.relocated r) := by
  have find (n : Int32) : (m.fields.map (·.relocated r)).find? (·.number == n) =
      (m.fields.find? (·.number == n)).map (·.relocated r) := List.find?_map ..
  rw [Message.relocated_eq, Message.mapFields, Message.mapFields]
  simp only [find]
  cases m.isMapEntry with
  | false => rfl
  | true =>
    cases m.fields.find? (·.number == 1) with
    | none => rfl
    | some key => cases m.fields.find? (·.number == 2) <;> rfl

section Listing

variable {r : String} (hr : r ≠ "") (file : File)

include hr

theorem Enum.symbol_relocated (scope : String) (e : Enum) :
    e.symbol (file.relocated r) (relocatedScope r scope) =
      Prod.map (r ++ "." ++ ·) (Symbol.relocated r) (e.symbol file scope) := by
  rw [Enum.symbol, qualify_relocatedScope hr]
  rfl

/-- The symbols of a relocated message are those of the message, relocated. Names of messages are
not empty: below an empty one, a nested name would begin a package of its own. -/
theorem Message.symbols_relocated (m : Message) (named : MessagesNamed m.typeDecls) : ∀ scope,
    (m.relocated r).symbols (file.relocated r) (relocatedScope r scope) =
      (m.symbols file scope).map (Prod.map (r ++ "." ++ ·) (Symbol.relocated r)) := by
  induction m using Message.nested_induction with
  | step m ih =>
    intro scope
    have own : qualify (relocatedScope r scope) m.name =
        relocatedScope r (qualify scope m.name) := by
      rw [qualify_relocatedScope hr, relocatedScope_qualify named.own]
    have nested : m.nested.flatMap
        (fun n => (n.relocated r).symbols (file.relocated r)
          (relocatedScope r (qualify scope m.name))) =
        (m.nested.flatMap (·.symbols file (qualify scope m.name))).map
          (Prod.map (r ++ "." ++ ·) (Symbol.relocated r)) := by
      rw [List.map_flatMap]
      exact List.flatMap_congr fun n hn => ih n hn (named.nested hn) _
    have enums : m.enums.map (Enum.symbol (file.relocated r)
        (relocatedScope r (qualify scope m.name))) =
        (m.enums.map (Enum.symbol file (qualify scope m.name))).map
          (Prod.map (r ++ "." ++ ·) (Symbol.relocated r)) := by
      rw [List.map_map]
      exact List.map_congr_left fun e _ => e.symbol_relocated hr file _
    rw [Message.symbols_eq, Message.symbols_eq, messageSymbols_eq_flatMap,
      messageSymbols_eq_flatMap, Message.mapFields_relocated, Message.relocated_eq]
    simp only [own, List.flatMap_map, nested, enums]
    rw [relocatedScope_qualify named.own, List.map_append, List.map_append]
    rfl

theorem File.symbols_relocated (named : MessagesNamed file.typeDecls) :
    (file.relocated r).symbols =
      file.symbols.map (Prod.map (r ++ "." ++ ·) (Symbol.relocated r)) := by
  have messages : messageSymbols (file.relocated r) (relocatedPackage r file.package)
      (file.messages.map (·.relocated r)) =
      (messageSymbols file (file.package.getD "") file.messages).map
        (Prod.map (r ++ "." ++ ·) (Symbol.relocated r)) := by
    rw [messageSymbols_eq_flatMap, messageSymbols_eq_flatMap, List.flatMap_map, List.map_flatMap]
    refine List.flatMap_congr fun m hm => m.symbols_relocated hr file (fun t ht => ?_) _
    exact named t (List.mem_append_left _ (List.mem_flatMap.2 ⟨m, hm, ht⟩))
  have enums : file.enums.map (Enum.symbol (file.relocated r) (relocatedPackage r file.package)) =
      (file.enums.map (Enum.symbol file (file.package.getD ""))).map
        (Prod.map (r ++ "." ++ ·) (Symbol.relocated r)) := by
    rw [List.map_map]
    exact List.map_congr_left fun e _ => e.symbol_relocated hr file _
  rw [File.symbols, File.symbols, List.map_append, ← messages, ← enums]
  rfl

end Listing

end Proto

/-! ## Tables -/

theorem lookup_map_of_injective {α β γ : Type} [BEq α] [LawfulBEq α] {f : α → α}
    (injective : ∀ a b, f a = f b → a = b) (g : β → γ) (l : List (α × β)) (a : α) :
    (l.map (Prod.map f g)).lookup (f a) = (l.lookup a).map g := by
  induction l with
  | nil => rfl
  | cons p l ih =>
    obtain ⟨k, v⟩ := p
    rw [List.map_cons, Prod.map_apply, List.lookup_cons, List.lookup_cons]
    by_cases h : a = k
    · simp [h]
    · have other : (f a == f k) = false := beq_eq_false_iff_ne.2 fun e => h (injective _ _ e)
      rw [other, beq_eq_false_iff_ne.2 h]
      exact ih

namespace SymbolTable

variable {r : String} {files : List File}

theorem get?_relocated (hr : r ≠ "") (named : ∀ file ∈ files, MessagesNamed file.typeDecls)
    (name : String) : (ofFiles (files.map (·.relocated r))).get? (r ++ "." ++ name) =
      ((ofFiles files).get? name).map (Symbol.relocated r) := by
  have symbols : (files.map (·.relocated r)).flatMap (·.symbols) =
      (files.flatMap (·.symbols)).map (Prod.map (r ++ "." ++ ·) (Symbol.relocated r)) := by
    rw [List.flatMap_map, List.map_flatMap]
    exact List.flatMap_congr fun file hf => file.symbols_relocated hr (named file hf)
  rw [get?_ofFiles, get?_ofFiles, symbols, ← List.map_reverse]
  refine lookup_map_of_injective (fun a b h => ?_) _ _ _
  simpa using h

/-- A symbol that a table knows stands under its full name. -/
theorem qualify_localName {name : String} {s : Symbol} (h : (ofFiles files).get? name = some s) :
    qualify (s.package.getD "") (s.localName name) = name := by
  obtain ⟨file, -, t, -, rfl, rfl⟩ := exists_of_get?_ofFiles h
  exact t.qualify_localName file

end SymbolTable

/-! ## Results of two runs -/

/-- Results of two runs, the second one inside the package `r`: success with results that `f`
relates, or the same reference of a file that cannot be followed. -/
def Relocates (r file : String) {α β : Type} (f : α → β) (x : Except ReferenceError α)
    (y : Except ReferenceError β) : Prop :=
  (∃ a, x = .ok a ∧ y = .ok (f a)) ∨
    ∃ name, x = .error (.unresolved name file) ∧ y = .error (.unresolved (r ++ "." ++ name) file)

namespace Relocates

variable {r file : String} {α β γ δ : Type} {f : α → β} {g : γ → δ}
variable {x : Except ReferenceError α} {y : Except ReferenceError β}

theorem ok (f : α → β) (a : α) : Relocates r file f (.ok a) (.ok (f a)) := .inl ⟨a, rfl, rfl⟩

theorem bind {k : α → Except ReferenceError γ} {l : β → Except ReferenceError δ}
    (h : Relocates r file f x y) (next : ∀ a, x = .ok a → Relocates r file g (k a) (l (f a))) :
    Relocates r file g (x >>= k) (y >>= l) := by
  rcases h with ⟨a, rfl, rfl⟩ | ⟨name, rfl, rfl⟩
  · exact next a rfl
  · exact .inr ⟨name, rfl, rfl⟩

theorem map {k : α → γ} {l : β → δ} (h : Relocates r file f x y)
    (same : ∀ a, x = .ok a → l (f a) = g (k a)) : Relocates r file g (x.map k) (y.map l) := by
  rcases h with ⟨a, rfl, rfl⟩ | ⟨name, rfl, rfl⟩
  · exact .inl ⟨k a, rfl, congrArg _ (same a rfl)⟩
  · exact .inr ⟨name, rfl, rfl⟩

theorem each {k : α → Except ReferenceError γ} {l : β → Except ReferenceError δ} {as : List α}
    (h : ∀ a ∈ as, Relocates r file g (k a) (l (f a))) :
    Relocates r file (List.map g) (ProtoTypings.each k as) (ProtoTypings.each l (as.map f)) := by
  induction as with
  | nil => exact .inl ⟨[], rfl, rfl⟩
  | cons a as ih =>
    rw [List.map_cons, ProtoTypings.each, ProtoTypings.each]
    rcases h a (by simp) with ⟨c, hk, hl⟩ | ⟨name, hk, hl⟩
    · rcases ih fun b hb => h b (List.mem_cons_of_mem _ hb) with ⟨cs, hs, ht⟩ | ⟨name, hs, ht⟩
      · exact .inl ⟨c :: cs, by rw [hk, hs], by rw [hl, ht, List.map_cons]⟩
      · exact .inr ⟨name, by rw [hk, hs], by rw [hl, ht]⟩
    · exact .inr ⟨name, by rw [hk], by rw [hl]⟩

theorem messageDeclarations {s s' : Scope} {ms : List Message}
    (h : ∀ m ∈ ms, Relocates r file id (m.declarations s) ((m.relocated r).declarations s')) :
    Relocates r file id (Proto.messageDeclarations s ms)
      (Proto.messageDeclarations s' (ms.map (·.relocated r))) := by
  induction ms with
  | nil => exact ok id []
  | cons m ms ih =>
    refine (h m (by simp)).bind fun first _ => ?_
    exact (ih fun n hn => h n (List.mem_cons_of_mem _ hn)).bind fun rest _ => ok id _

end Relocates

/-! ## Scopes -/

def MapView.relocated (r : String) (types : MapView) : MapView :=
  { types with keyType := types.keyType.relocated r, valueType := types.valueType.relocated r }

def Exposure.relocated (r : String) : Exposure → Exposure
  | .map types => .map (types.relocated r)
  | e => e

def ExposedField.relocated (r : String) (f : ExposedField) : ExposedField :=
  { f with field := f.field.relocated r, exposure := f.exposure.relocated r }

/-- The scope `s'` is the scope `s` inside the package `r`. -/
structure Scope.RelocatedTo (r : String) (s s' : Scope) : Prop where
  file_eq : s'.file = s.file.relocated r
  get? : ∀ name, s'.symbols.get? (r ++ "." ++ name) =
    (s.symbols.get? name).map (Symbol.relocated r)
  localName : ∀ name symbol, s.symbols.get? name = some symbol →
    (symbol.relocated r).localName (r ++ "." ++ name) = symbol.localName name

theorem Scope.relocatedTo_of_files {r : String} (hr : r ≠ "") {files : List File}
    (named : ∀ file ∈ files, MessagesNamed file.typeDecls) (file : File) :
    Scope.RelocatedTo r ⟨.ofFiles files, file⟩
      ⟨.ofFiles (files.map (·.relocated r)), file.relocated r⟩ where
  file_eq := rfl
  get? := SymbolTable.get?_relocated hr named
  localName _ _ h := Symbol.localName_relocated hr (SymbolTable.qualify_localName h)

namespace Scope.RelocatedTo

variable {r : String} {s s' : Scope} (moved : s.RelocatedTo r s')

include moved

theorem fileName_eq : s'.file.name = s.file.name := by
  rw [moved.file_eq]
  rfl

/-- What is looked up is found in both runs or missed in both. -/
theorem resolved (name : String) (p : Symbol → Bool)
    (same : ∀ symbol, p (symbol.relocated r) = p symbol) :
    Relocates r s.file.name (Symbol.relocated r)
      (s.resolved name ((s.symbols.get? name).filter p))
      (s'.resolved (r ++ "." ++ name) ((s'.symbols.get? (r ++ "." ++ name)).filter p)) := by
  have found : ((s.symbols.get? name).map (Symbol.relocated r)).filter p =
      ((s.symbols.get? name).filter p).map (Symbol.relocated r) := by
    cases s.symbols.get? name with
    | none => rfl
    | some symbol => cases h : p symbol <;> simp [Option.filter, same, h]
  rw [moved.get?, found]
  cases (s.symbols.get? name).filter p with
  | some symbol => exact .ok _ symbol
  | none => exact .inr ⟨name, rfl, by simp [Scope.resolved, moved.fileName_eq]⟩

theorem message (name : String) : Relocates r s.file.name (Symbol.relocated r)
    (s.message name) (s'.message (r ++ "." ++ name)) :=
  moved.resolved name _ (Symbol.isMessage_relocated r)

theorem enum (name : String) : Relocates r s.file.name (Symbol.relocated r)
    (s.enum name) (s'.enum (r ++ "." ++ name)) :=
  moved.resolved name _ fun symbol => by rw [Symbol.isMessage_relocated]

theorem declaredType {name : String} {symbol : Symbol} (h : s.symbols.get? name = some symbol) :
    s'.declaredType (r ++ "." ++ name) (symbol.relocated r) = s.declaredType name symbol := by
  rw [Scope.declaredType, Scope.declaredType, moved.localName name symbol h, moved.fileName_eq]
  rfl

theorem typeExpr (type : FieldType) : Relocates r s.file.name id (s.typeExpr type)
    (s'.typeExpr (type.relocated r)) := by
  cases type with
  | scalar scalar => exact .ok id _
  | message name =>
    exact (moved.message name).map fun symbol h => moved.declaredType (get?_of_message h)
  | enumeration name =>
    exact (moved.enum name).map fun symbol h => moved.declaredType (get?_of_enum h)

theorem entryView (entry : MapEntry) : Relocates r s.file.name (MapView.relocated r)
    (s.entryView entry) (s'.entryView (entry.relocated r)) := by
  refine (moved.typeExpr entry.key.type).bind fun key _ => ?_
  have bytes : (entry.relocated r).value.isBytes = entry.value.isBytes :=
    entry.value.isBytes_relocated r
  simp only [bytes]
  cases entry.value.isBytes with
  | true => exact .ok (MapView.relocated r) ⟨entry.key.type, key, entry.value.type, .bytesOrText⟩
  | false =>
    exact (moved.typeExpr entry.value.type).bind fun value _ =>
      .ok (MapView.relocated r) ⟨entry.key.type, key, entry.value.type, value⟩

theorem exposure (f : Field) : Relocates r s.file.name (Exposure.relocated r)
    (s.exposure f) (s'.exposure (f.relocated r)) := by
  obtain ⟨name, number, label, type, oneofIndex, proto3Optional⟩ := f
  cases type with
  | scalar scalar =>
    cases scalar with
    | bytes => exact .ok (Exposure.relocated r) .bytes
    | _ => exact .ok (Exposure.relocated r) (.scalar _)
  | enumeration name => exact (moved.typeExpr (.enumeration name)).map fun type _ => rfl
  | message name =>
    refine (moved.message name).bind fun symbol h => ?_
    rw [Symbol.mapEntry_relocated]
    cases symbol.mapEntry with
    | some entry => exact (moved.entryView entry).map fun types _ => rfl
    | none =>
      refine .inl ⟨_, rfl, ?_⟩
      rw [Option.map_none, moved.declaredType (get?_of_message h)]
      rfl

theorem expose (f : Field) : Relocates r s.file.name (ExposedField.relocated r)
    (s.expose f) (s'.expose (f.relocated r)) := by
  refine (moved.exposure f).map fun exposure _ => ?_
  have presence : s'.hasPresence (f.relocated r) = s.hasPresence f := by
    simp only [Scope.hasPresence, Field.isRepeated_relocated, Field.isMessage_relocated,
      moved.file_eq]
    rfl
  rw [presence]
  rfl

end Scope.RelocatedTo

/-! ## Declarations -/

namespace ExposedField

variable (r : String) (f : ExposedField)

theorem accessors_relocated : (f.relocated r).accessors = f.accessors := by
  obtain ⟨field, exposure, hasPresence⟩ := f
  cases exposure with
  | map types => rfl
  | bytes => rfl
  | scalar type | enumeration type | message type =>
    simp only [accessors, valueAccessors, relocated, Exposure.relocated,
      Field.mayBeUndefined_relocated]
    rfl

theorem plainType_relocated (type : FieldType) (t : TypeExpr) :
    plainType (type.relocated r) t = plainType type t := by
  cases type <;> rfl

theorem property_relocated : (f.relocated r).property = f.property := by
  obtain ⟨field, exposure, hasPresence⟩ := f
  cases exposure with
  | map types =>
    simp only [property, relocated, Exposure.relocated, MapView.pairs, MapView.relocated,
      plainType_relocated]
    rfl
  | bytes | scalar type | enumeration type | message type =>
    simp only [property, valueProperty, relocated, Exposure.relocated,
      Field.mayBeUndefined_relocated]
    rfl

end ExposedField

namespace Proto

theorem Message.oneofMembers_relocated (r : String) (m : Message) (index : Nat) :
    (m.relocated r).oneofMembers index = (m.oneofMembers index).map (·.relocated r) := by
  rw [Message.relocated_eq]
  exact List.filter_map ..

theorem Message.caseDeclarations_relocated (r : String) (m : Message) :
    (m.relocated r).caseDeclarations = m.caseDeclarations := by
  have oneofs : (m.relocated r).oneofs = m.oneofs := by rw [Message.relocated_eq]
  simp only [caseDeclarations, caseDeclaration, oneofMembers_relocated, oneofs, List.map_map]
  rfl

theorem Message.members_relocated (r : String) (m : Message) (fields : List ExposedField) :
    (m.relocated r).members (fields.map (·.relocated r)) = m.members fields := by
  have accessors : (fields.map (·.relocated r)).flatMap (·.accessors) =
      fields.flatMap (·.accessors) := by
    rw [List.flatMap_map]
    exact List.flatMap_congr fun f _ => f.accessors_relocated r
  rw [members, members, accessors, Message.relocated_eq]
  rfl

theorem Message.namespaceBody_relocated (r : String) (m : Message) (fields : List ExposedField)
    (nested : List Declaration) :
    (m.relocated r).namespaceBody (fields.map (·.relocated r)) nested =
      m.namespaceBody fields nested := by
  have properties : (fields.map (·.relocated r)).map (·.property) = fields.map (·.property) := by
    rw [List.map_map]
    exact List.map_congr_left fun f _ => f.property_relocated r
  rw [namespaceBody, namespaceBody, properties, caseDeclarations_relocated, Message.relocated_eq]

section Declarations

variable {r : String} {s s' : Scope} (moved : s.RelocatedTo r s')

include moved

theorem Message.declarations_relocates (m : Message) :
    Relocates r s.file.name id (m.declarations s) ((m.relocated r).declarations s') := by
  induction m using Message.nested_induction with
  | step m ih =>
    have isMapEntry : (m.relocated r).isMapEntry = m.isMapEntry := by rw [Message.relocated_eq]
    have fields : (m.relocated r).fields = m.fields.map (·.relocated r) := by
      rw [Message.relocated_eq]
    have nested : (m.relocated r).nested = m.nested.map (·.relocated r) := by
      rw [Message.relocated_eq]
    have name : (m.relocated r).name = m.name := by rw [Message.relocated_eq]
    rw [Message.declarations_eq, Message.declarations_eq, isMapEntry, fields, nested, name]
    cases m.isMapEntry with
    | true => exact .ok id []
    | false =>
      refine (Relocates.each fun f _ => moved.expose f).bind fun exposed _ => ?_
      refine (Relocates.messageDeclarations ih).bind fun inner _ => ?_
      rw [Message.members_relocated, id, Message.namespaceBody_relocated]
      exact .ok id _

theorem Field.extensionDeclaration_relocates (f : Field) :
    Relocates r s.file.name id (f.extensionDeclaration s)
      ((f.relocated r).extensionDeclaration s') :=
  (moved.typeExpr f.type).map fun _ _ => rfl

end Declarations

/-! ## Texts -/

/-- All that follows the first line of a file's typings. -/
def File.textAfterPackage (settings : Settings) (file : File) (body : List Declaration) : String :=
  render (.code 0 ("// " ++ ("file: " ++ file.name)) :: .blank ::
    (file.imports settings).map (fun i => .code 0 i.render) ++ declarationLines 0 body ++ [.blank])

/-- The text of a file begins with the line that names its package. -/
theorem File.text_eq (settings : Settings) (symbols : SymbolTable) (file : File) :
    file.text settings symbols = (file.declarations symbols).map fun body =>
      "// package: " ++ file.package.getD "" ++ "\n" ++ file.textAfterPackage settings body := by
  rw [File.text, File.typings]
  cases file.declarations symbols with
  | error e => rfl
  | ok body =>
    have opening : "// package: " = "// " ++ "package: " := by decide
    simp [Except.map, Module.lines, File.comments, File.textAfterPackage, render, Line.render,
      indentation]
    rw [opening]
    simp only [String.append_assoc]

theorem File.declarations_relocates {r : String} {symbols symbols' : SymbolTable} {file : File}
    (moved : Scope.RelocatedTo r ⟨symbols, file⟩ ⟨symbols', file.relocated r⟩) :
    Relocates r file.name id (file.declarations symbols)
      ((file.relocated r).declarations symbols') := by
  refine (Relocates.messageDeclarations fun m _ => m.declarations_relocates moved).bind
    fun messages _ => ?_
  refine (Relocates.each fun f _ => f.extensionDeclaration_relocates moved).bind
    fun extensions _ => ?_
  rw [List.map_id]
  exact .ok id _

end Proto

/-! ## Generated files -/

/-- The generated file of a file whose text names a package in its first line. -/
def headedFile (settings : Settings) (package : Option String → String) (file : File)
    (rest : String) : GeneratedFile :=
  { name := settings.outputName file.name
    content := "// package: " ++ package file.package ++ "\n" ++ rest }

theorem generateFile_eq (settings : Settings) (symbols : SymbolTable) (file : File) :
    generateFile settings symbols file = (file.declarations symbols).map fun body =>
      headedFile settings (·.getD "") file (file.textAfterPackage settings body) := by
  rw [generateFile, File.text_eq]
  cases file.declarations symbols <;> rfl

theorem generateFile_relocates {r : String} {symbols symbols' : SymbolTable} {file : File}
    (moved : Scope.RelocatedTo r ⟨symbols, file⟩ ⟨symbols', file.relocated r⟩)
    (settings : Settings) :
    (∃ rest, generateFile settings symbols file = .ok (headedFile settings (·.getD "") file rest) ∧
      generateFile settings symbols' (file.relocated r) =
        .ok (headedFile settings (relocatedPackage r) file rest)) ∨
    ∃ name, generateFile settings symbols file = .error (.unresolved name file.name) ∧
      generateFile settings symbols' (file.relocated r) =
        .error (.unresolved (r ++ "." ++ name) file.name) := by
  rw [generateFile_eq, generateFile_eq]
  rcases File.declarations_relocates moved with ⟨body, h, h'⟩ | ⟨name, h, h'⟩
  · exact .inl ⟨_, by rw [h]; rfl, by rw [h']; rfl⟩
  · exact .inr ⟨name, by rw [h]; rfl, by rw [h']; rfl⟩

/-- The files of some targets are generated inside the package `r` exactly when they are generated
outside of it. They have the same names and the same texts but for the package that the first line
of each names. If a reference cannot be followed, the same one of the same file cannot be followed
there, and no other failure occurs. -/
theorem generate_relocated {r : String} (hr : r ≠ "") {files : List File}
    (named : ∀ file ∈ files, MessagesNamed file.typeDecls) (settings : Settings)
    (targets : List File) :
    (∃ rests, rests.length = targets.length ∧
      generate settings (.ofFiles files) targets =
        .ok (List.zipWith (headedFile settings (·.getD "")) targets rests) ∧
      generate settings (.ofFiles (files.map (·.relocated r))) (targets.map (·.relocated r)) =
        .ok (List.zipWith (headedFile settings (relocatedPackage r)) targets rests)) ∨
    ∃ name, ∃ file ∈ targets,
      generate settings (.ofFiles files) targets = .error (.unresolved name file.name) ∧
      generate settings (.ofFiles (files.map (·.relocated r))) (targets.map (·.relocated r)) =
        .error (.unresolved (r ++ "." ++ name) file.name) := by
  induction targets with
  | nil => exact .inl ⟨[], rfl, rfl, rfl⟩
  | cons file targets ih =>
    simp only [generate, each, List.map_cons] at ih ⊢
    rcases generateFile_relocates (Scope.relocatedTo_of_files hr named file) settings with
      ⟨rest, h, h'⟩ | ⟨name, h, h'⟩
    · rcases ih with ⟨rests, length, hs, hs'⟩ | ⟨name, other, mem, hs, hs'⟩
      · refine .inl ⟨rest :: rests, congrArg (· + 1) length, ?_, ?_⟩
        · rw [h, hs, List.zipWith_cons_cons]
        · rw [h', hs', List.zipWith_cons_cons]
      · exact .inr ⟨name, other, List.mem_cons_of_mem _ mem, by rw [h, hs], by rw [h', hs']⟩
    · exact .inr ⟨name, file, by simp, by rw [h], by rw [h']⟩

open Sample in
/-- A file of the package `Order` and one without a package, both inside `acme`. -/
theorem sample_generate_relocated : ∃ cart order,
    generate {} (.ofFiles files) [cartFile, orderFile] =
      .ok [⟨"cart_pb.d.ts", "// package: " ++ "" ++ "\n" ++ cart⟩,
        ⟨"shop/order_pb.d.ts", "// package: " ++ "Order" ++ "\n" ++ order⟩] ∧
    generate {} (.ofFiles (files.map (·.relocated "acme")))
        ([cartFile, orderFile].map (·.relocated "acme")) =
      .ok [⟨"cart_pb.d.ts", "// package: " ++ "acme" ++ "\n" ++ cart⟩,
        ⟨"shop/order_pb.d.ts", "// package: " ++ "acme.Order" ++ "\n" ++ order⟩] := by
  have named : ∀ file ∈ files, ∀ t ∈ file.typeDecls, t.definition.name ≠ "" := by decide
  have messages : ∀ file ∈ files, MessagesNamed file.typeDecls := by
    intro file hf t ht m hm
    simpa [hm, TypeDefinition.name] using named file hf t ht
  rcases generate_relocated (r := "acme") (by decide) messages {} [cartFile, orderFile] with
    ⟨rests, length, h, h'⟩ | ⟨name, file, -, h, -⟩
  · obtain ⟨cart, order, rfl⟩ := List.length_eq_two.1 length
    exact ⟨cart, order, h, h'⟩
  · obtain ⟨out, ok⟩ : ∃ out, generate {} (.ofFiles files) [cartFile, orderFile] = .ok out :=
      ⟨_, rfl⟩
    rw [ok] at h
    cases h

end ProtoTypings
