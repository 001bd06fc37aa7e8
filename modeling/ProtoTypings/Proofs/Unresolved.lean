import ProtoTypings.Proofs.ClassText
import ProtoTypings.Proofs.Declared
import ProtoTypings.Proofs.FileTexts
import ProtoTypings.Proofs.FirstFault

/-!
# Proofs.Unresolved

When the typings of a file fail. All that a file refers to is listed in order, whether or not it can
be found: what the fields of its messages refer to, those of a message before those of the messages
nested in it, and then what its extensions refer to. The typings fail just if something on the list
cannot be found, and the failure tells the first.

* `Reference`, `SymbolTable.resolves` — a name with the kind of type that it must stand for.
* `File.references`, `Field.references` — what is referred to.
* `Scope.exposure_failsFirst`, `Message.declarations_failsFirst` — the failures of fields and of
  messages.
* `File.text_fails_iff` — the failures of the text.
-/

namespace ProtoTypings

open TypeScript

/-- A name that is referred to, and the kind of type that it must stand for. -/
structure Reference where
  kind : Descriptor.TypeKind
  name : String
deriving Repr, DecidableEq

/-- Whether a table has the symbol that is referred to, and of the right kind. -/
def SymbolTable.resolves (symbols : SymbolTable) (r : Reference) : Bool :=
  (symbols.get? r.name).any fun symbol => symbol.isMessage == (r.kind == .message)

namespace Proto

def FieldType.reference? : FieldType → Option Reference
  | .scalar _ => none
  | .message name => some ⟨.message, name⟩
  | .enumeration name => some ⟨.enumeration, name⟩

/-- What a field refers to: its own type and, if that is behind map fields, the types of the key and
the value. -/
def Field.references (symbols : SymbolTable) (f : Field) : List Reference :=
  (f.type :: symbols.entryTypes f.type).filterMap (·.reference?)

/-- What the fields of the messages in a message refer to, from the outside in. Messages behind map
fields are left out with all that is in them. -/
def Message.references (symbols : SymbolTable) (m : Message) : List Reference :=
  m.shown.flatMap fun n => n.fields.flatMap (·.references symbols)

/-- What a file refers to, in its messages and then in its extensions. -/
def File.references (symbols : SymbolTable) (file : File) : List Reference :=
  (file.shown.flatMap fun m => m.fields.flatMap (·.references symbols)) ++
    file.extensions.filterMap (·.type.reference?)

theorem Message.references_eq (symbols : SymbolTable) (m : Message) :
    m.references symbols =
      if m.isMapEntry then []
      else m.fields.flatMap (·.references symbols) ++ m.nested.flatMap (·.references symbols) := by
  rw [references, shown_eq]
  cases m.isMapEntry with
  | true => rfl
  | false =>
    simp only [Bool.false_eq_true, if_false, List.flatMap_cons, List.flatMap_assoc]
    rfl

theorem File.references_eq (symbols : SymbolTable) (file : File) :
    file.references symbols =
      file.messages.flatMap (·.references symbols) ++
        file.extensions.filterMap (·.type.reference?) := by
  rw [references, shown, List.flatMap_assoc]
  rfl

end Proto

namespace Scope

variable {s : Scope}

/-- The failures that references would lead to from a scope, of those that cannot be followed. -/
def unresolved (s : Scope) (rs : List Reference) : List ReferenceError :=
  (rs.filter (!s.symbols.resolves ·)).map fun r => .unresolved r.name s.file.name

theorem unresolved_append (rs qs : List Reference) :
    s.unresolved (rs ++ qs) = s.unresolved rs ++ s.unresolved qs := by
  simp [unresolved]

theorem unresolved_flatMap {α : Type} (f : α → List Reference) (as : List α) :
    s.unresolved (as.flatMap f) = as.flatMap fun a => s.unresolved (f a) := by
  induction as with
  | nil => rfl
  | cons a as ih => rw [List.flatMap_cons, unresolved_append, ih, List.flatMap_cons]

/-- Of some references, the first that cannot be followed is told. -/
theorem head?_unresolved {rs : List Reference} {e : ReferenceError} :
    (s.unresolved rs).head? = some e ↔
      ∃ r, rs.find? (!s.symbols.resolves ·) = some r ∧ e = .unresolved r.name s.file.name := by
  rw [unresolved, List.head?_map, List.head?_filter, Option.map_eq_some_iff]
  simp only [eq_comm]

/-- What fails for references only never fails for a map. -/
theorem ne_notAMap {α : Type} {x : Except ReferenceError α} {rs : List Reference}
    (h : FailsFirst x (s.unresolved rs)) (field : String) : x ≠ .error (.notAMap field) := by
  intro fails
  obtain ⟨r, -, e⟩ := head?_unresolved.1 ((h _).1 fails)
  cases e

/-! ## Types and fields -/

theorem resolved_failsFirst {r : Reference} {found : Option Symbol}
    (h : s.symbols.resolves r = found.isSome) :
    FailsFirst (s.resolved r.name found) (s.unresolved [r]) := by
  cases found with
  | none =>
    have missing : s.unresolved [r] = [.unresolved r.name s.file.name] := by
      simp [unresolved, h]
    rw [missing]
    exact .error _ []
  | some symbol =>
    have there : s.unresolved [r] = [] := by simp [unresolved, h]
    rw [there]
    exact .ok symbol

theorem message_failsFirst (name : String) :
    FailsFirst (s.message name) (s.unresolved [⟨.message, name⟩]) := by
  refine resolved_failsFirst (r := ⟨.message, name⟩) ?_
  rw [SymbolTable.resolves, SymbolTable.message?]
  cases s.symbols.get? name with
  | none => rfl
  | some symbol => cases h : symbol.isMessage <;> simp [h]

theorem enum_failsFirst (name : String) :
    FailsFirst (s.enum name) (s.unresolved [⟨.enumeration, name⟩]) := by
  refine resolved_failsFirst (r := ⟨.enumeration, name⟩) ?_
  rw [SymbolTable.resolves, SymbolTable.enum?]
  cases s.symbols.get? name with
  | none => rfl
  | some symbol => cases h : symbol.isMessage <;> simp [h]

theorem typeExpr_failsFirst (type : Proto.FieldType) :
    FailsFirst (s.typeExpr type) (s.unresolved type.reference?.toList) := by
  cases type with
  | scalar scalar => exact .ok _
  | message name => exact (message_failsFirst name).map _
  | enumeration name => exact (enum_failsFirst name).map _

theorem entryView_failsFirst (entry : MapEntry) :
    FailsFirst (s.entryView entry)
      (s.unresolved ([entry.key.type, entry.value.type].filterMap (·.reference?))) := by
  have both : [entry.key.type, entry.value.type].filterMap (·.reference?) =
      entry.key.type.reference?.toList ++ entry.value.type.reference?.toList := by
    simp [List.filterMap_eq_flatMap_toList]
  rw [both, unresolved_append, entryView]
  refine (typeExpr_failsFirst entry.key.type).bind fun key _ => ?_
  split
  · rename_i bytes
    rw [Proto.Field.isBytes, beq_iff_eq] at bytes
    rw [bytes]
    exact FailsFirst.bind_pure (.ok _) _
  · exact (typeExpr_failsFirst entry.value.type).bind_pure _

/-- The key and the value of a map are looked for once the message behind it is found. -/
theorem exposure_failsFirst (f : Proto.Field) :
    FailsFirst (s.exposure f) (s.unresolved (f.references s.symbols)) := by
  unfold exposure Proto.Field.references
  split
  · rename_i hf
    rw [hf]
    exact .ok _
  · rename_i scalar _ hf
    rw [hf]
    exact .ok _
  · rename_i name hf
    have own := typeExpr_failsFirst (s := s) f.type
    rw [hf] at own ⊢
    exact own.map _
  · rename_i name hf
    rw [hf]
    have own : (Proto.FieldType.message name :: s.symbols.entryTypes (.message name)).filterMap
        (·.reference?) =
        [⟨.message, name⟩] ++ (s.symbols.entryTypes (.message name)).filterMap (·.reference?) := rfl
    rw [own, unresolved_append]
    refine (message_failsFirst name).bind fun symbol found => ?_
    have found' := get?_of_message found
    cases he : symbol.mapEntry with
    | none =>
      have entries : s.symbols.entryTypes (.message name) = [] := by
        simp [SymbolTable.entryTypes, found', he]
      rw [entries]
      exact .ok _
    | some entry =>
      have entries : s.symbols.entryTypes (.message name) = [entry.key.type, entry.value.type] := by
        simp [SymbolTable.entryTypes, found', he]
      rw [entries]
      exact (entryView_failsFirst entry).map _

theorem expose_failsFirst (f : Proto.Field) :
    FailsFirst (s.expose f) (s.unresolved (f.references s.symbols)) :=
  (exposure_failsFirst f).map _

/-- A field is asked for the types of its map in vain just if it is known to be none. -/
theorem mapView_eq_notAMap_iff {f : Proto.Field} {field : String} :
    s.mapView f = .error (.notAMap field) ↔ s.isMap f = .ok false ∧ field = f.name := by
  have entry_ : ∀ e, s.mapEntry f = .error e → e ≠ .notAMap field := by
    intro e h
    unfold mapEntry at h
    split at h
    · rename_i name _
      rw [Check.map_eq_error] at h
      rintro rfl
      exact ne_notAMap (message_failsFirst name) field h
    · cases h
  rw [mapView, isMap]
  cases h : s.mapEntry f with
  | error e =>
    constructor
    · intro fails
      cases fails
      exact absurd rfl (entry_ _ h)
    · rintro ⟨none_, -⟩
      cases none_
  | ok found =>
    cases found with
    | none =>
      constructor
      · intro fails
        cases fails
        exact ⟨rfl, rfl⟩
      · rintro ⟨-, rfl⟩
        rfl
    | some entry =>
      constructor
      · intro fails
        exact absurd fails (ne_notAMap (entryView_failsFirst entry) field)
      · rintro ⟨none_, -⟩
        cases none_

end Scope

/-! ## Messages and files -/

namespace Proto

theorem messageDeclarations_eq_map_each (s : Scope) (ms : List Message) :
    messageDeclarations s ms = (each (·.declarations s) ms).map List.flatten := by
  induction ms with
  | nil => rfl
  | cons m ms ih =>
    simp only [messageDeclarations, each, ih]
    cases m.declarations s with
    | error e => rfl
    | ok first => cases each (·.declarations s) ms <;> rfl

/-- The references of a message are followed before those of the messages nested in it, which by
induction are followed in the order of their own lists. -/
theorem Message.declarations_failsFirst {s : Scope} (m : Message) :
    FailsFirst (m.declarations s) (s.unresolved (m.references s.symbols)) := by
  induction m using Message.nested_induction with
  | step m ih =>
    rw [Message.declarations_eq, Message.references_eq]
    split
    · exact .ok _
    · rw [Scope.unresolved_append, Scope.unresolved_flatMap, Scope.unresolved_flatMap]
      refine (FailsFirst.each fun f _ => Scope.expose_failsFirst f).bind fun exposed _ => ?_
      rw [messageDeclarations_eq_map_each]
      exact ((FailsFirst.each ih).map _).bind_pure _

theorem File.declarations_failsFirst (symbols : SymbolTable) (file : File) :
    FailsFirst (file.declarations symbols)
      (Scope.unresolved ⟨symbols, file⟩ (file.references symbols)) := by
  rw [File.declarations, File.references_eq, Scope.unresolved_append, Scope.unresolved_flatMap,
    messageDeclarations_eq_map_each]
  have extensions : file.extensions.filterMap (·.type.reference?) =
      file.extensions.flatMap fun f => f.type.reference?.toList := by
    rw [List.filterMap_eq_flatMap_toList]
  rw [extensions, Scope.unresolved_flatMap]
  refine ((FailsFirst.each fun m _ => m.declarations_failsFirst).map _).bind fun messages _ => ?_
  exact (FailsFirst.each fun f _ => (Scope.typeExpr_failsFirst f.type).map _).bind_pure _

/-- The typings of a file fail just if the file refers to something that is not found, or not found
to be of the right kind. The failure tells the first such reference and the file, and is never about
maps; to ask for the types of a map fails that way just for a field that is known to be no map. -/
theorem File.text_fails_iff (settings : Settings) (symbols : SymbolTable) (file : File) :
    ((∃ e, file.text settings symbols = .error e) ↔
        ∃ r ∈ file.references symbols, symbols.resolves r = false) ∧
      (∀ e, file.text settings symbols = .error e ↔
        ∃ r, (file.references symbols).find? (!symbols.resolves ·) = some r ∧
          e = .unresolved r.name file.name) ∧
      (∀ field, file.text settings symbols ≠ .error (.notAMap field)) ∧
      ∀ f field, Scope.mapView ⟨symbols, file⟩ f = .error (.notAMap field) ↔
        Scope.isMap ⟨symbols, file⟩ f = .ok false ∧ field = f.name := by
  have text : FailsFirst (file.text settings symbols)
      (Scope.unresolved ⟨symbols, file⟩ (file.references symbols)) :=
    ((file.declarations_failsFirst symbols).map _).map _
  have told : ∀ e, file.text settings symbols = .error e ↔
      ∃ r, (file.references symbols).find? (!symbols.resolves ·) = some r ∧
        e = .unresolved r.name file.name := fun e => (text e).trans Scope.head?_unresolved
  refine ⟨?_, told, Scope.ne_notAMap text, fun f field => Scope.mapView_eq_notAMap_iff⟩
  constructor
  · rintro ⟨e, h⟩
    obtain ⟨r, found, -⟩ := (told e).1 h
    exact ⟨r, List.mem_of_find?_eq_some found, by simpa using List.find?_some found⟩
  · rintro ⟨r, hr, missing⟩
    cases found : (file.references symbols).find? (!symbols.resolves ·) with
    | none =>
      have all := List.find?_eq_none.1 found r hr
      simp [missing] at all
    | some first => exact ⟨_, (told _).2 ⟨first, found, rfl⟩⟩

end Proto
end ProtoTypings
