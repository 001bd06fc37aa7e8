import ProtoTypings.Proofs.FileOutline
import ProtoTypings.Proofs.OneLine

/-!
# Proofs.FileTexts

The texts that the typings of a file are made of: its names and paths, the names of the types it
refers to and the files that declare those.

* `File.texts` — these texts, as they are given.
* `File.writtenTexts` — those that come into the typings as they are, but for upper case. The names
  of most fields do not: they are put together from their words.
* `TypeDefinition.printedNames` — the names that a type is declared with, as they are printed.
* `Message.oneLines_declarations` — if none of these has a line break, no line of a message has one.
* `File.oneLine_typings` — if no text that is written has a line break, no line of the typings has
  one.
-/

namespace ProtoTypings

open TypeScript

/-! ## References -/

namespace SymbolTable

/-- The texts that a reference brings in: the full name, and the file that declares it. -/
def referenceTexts (symbols : SymbolTable) : Proto.FieldType → List String
  | .scalar _ => []
  | .message name | .enumeration name => name :: ((symbols.get? name).map (·.fileName)).toList

/-- The types of the key and the value, for the type of a map. -/
def entryTypes (symbols : SymbolTable) : Proto.FieldType → List Proto.FieldType
  | .message name =>
    match (symbols.get? name).bind (·.mapEntry) with
    | some entry => [entry.key.type, entry.value.type]
    | none => []
  | _ => []

/-- The texts that a field of some type brings in, by its type and those of a map's entry. -/
def typeTexts (symbols : SymbolTable) (type : Proto.FieldType) : List String :=
  symbols.referenceTexts type ++ (symbols.entryTypes type).flatMap symbols.referenceTexts

/-- The texts that a reference is written with: the path of the type inside its package, and the
file that declares it. -/
def writtenTexts (symbols : SymbolTable) : Proto.FieldType → List String
  | .scalar _ => []
  | .message name | .enumeration name =>
    match symbols.get? name with
    | some symbol => [symbol.localName name, symbol.fileName]
    | none => []

/-- The texts that a field of some type is written with: a map is written with the types of its key
and value, and its own type is not. -/
def viewTexts (symbols : SymbolTable) (type : Proto.FieldType) : List String :=
  match symbols.entryTypes type with
  | [] => symbols.writtenTexts type
  | types => types.flatMap symbols.writtenTexts

theorem get?_of_message? {symbols : SymbolTable} {name : String} {symbol : Symbol}
    (h : symbols.message? name = some symbol) : symbols.get? name = some symbol :=
  (Option.filter_eq_some_iff.1 h).1

theorem get?_of_enum? {symbols : SymbolTable} {name : String} {symbol : Symbol}
    (h : symbols.enum? name = some symbol) : symbols.get? name = some symbol :=
  (Option.filter_eq_some_iff.1 h).1

end SymbolTable

theorem Symbol.mem_of_mem_localName (s : Symbol) {fullName : String} {c : Char}
    (h : c ∈ (s.localName fullName).toList) : c ∈ fullName.toList := by
  unfold localName at h
  split at h
  · exact h
  split at h
  · exact h
  split at h
  · rename_i rest hr
    rw [String.toList_ofList] at h
    rw [Text.dropPrefix?_eq_some_iff] at hr
    rw [hr]
    exact List.mem_append_right _ h
  · exact h

theorem Symbol.oneLine_localName (s : Symbol) {fullName : String} (h : OneLine fullName) :
    OneLine (s.localName fullName) := by
  intro hm
  exact h (s.mem_of_mem_localName hm)

namespace SymbolTable

variable {symbols : SymbolTable} {type : Proto.FieldType}

theorem oneLine_writtenTexts (texts : ∀ u ∈ symbols.referenceTexts type, OneLine u) :
    ∀ u ∈ symbols.writtenTexts type, OneLine u := by
  have named : ∀ name, (∀ u ∈ name :: ((symbols.get? name).map (·.fileName)).toList, OneLine u) →
      ∀ u ∈ symbols.writtenTexts (.message name), OneLine u := by
    intro name texts
    simp only [writtenTexts]
    cases found : symbols.get? name with
    | none => simp
    | some symbol =>
      rw [found, Option.map_some, Option.toList_some] at texts
      obtain ⟨own, file⟩ := List.forall_mem_cons.1 texts
      exact List.forall_mem_cons.2 ⟨symbol.oneLine_localName own, file⟩
  cases type with
  | scalar => simp [writtenTexts]
  | message name => exact named name texts
  | enumeration name => exact named name texts

theorem oneLine_viewTexts (texts : ∀ u ∈ symbols.typeTexts type, OneLine u) :
    ∀ u ∈ symbols.viewTexts type, OneLine u := by
  obtain ⟨own, entry⟩ := List.forall_mem_append.1 texts
  unfold viewTexts
  split
  · exact oneLine_writtenTexts own
  · intro u hu
    obtain ⟨inner, hi, hu⟩ := List.mem_flatMap.1 hu
    exact oneLine_writtenTexts (fun v hv => entry v (List.mem_flatMap.2 ⟨inner, hi, hv⟩)) u hu

end SymbolTable

namespace ModulePath

theorem oneLine_stem {path : String} (h : OneLine path) : OneLine (stem path) := by
  unfold stem
  split
  · rename_i rest hr
    rw [Text.dropSuffix?_eq_some_iff] at hr
    rw [OneLine, hr, List.mem_append, not_or] at h
    rw [OneLine, String.toList_ofList]
    exact h.1
  · exact h

theorem oneLine_importAlias {path : String} (h : OneLine path) : OneLine (importAlias path) := by
  refine OneLine.append ?_ (by decide)
  rw [OneLine, String.toList_ofList]
  intro hm
  obtain ⟨c, hc, e⟩ := List.mem_map.1 hm
  unfold aliasChar at e
  split at e
  · exact absurd e (by decide)
  · rw [e] at hc
    exact oneLine_stem h hc

theorem oneLine_modulePath {path : String} (h : OneLine path) : OneLine (modulePath path) :=
  (oneLine_stem h).append (by decide)

theorem oneLine_toRoot (path : String) : OneLine (toRoot path) := by
  have ups : ∀ n, OneLine (String.join (List.replicate n "../")) := by
    intro n
    induction n with
    | zero => decide
    | succ n ih =>
      have : String.join (List.replicate (n + 1) "../") =
          "../" ++ String.join (List.replicate n "../") := by
        simp [List.replicate_succ]
      rw [this]
      exact OneLine.append (by decide) ih
  unfold toRoot
  split
  · decide
  · exact ups _

theorem oneLine_specifier {runtimeModule file dependency : String} (hr : OneLine runtimeModule)
    (hd : OneLine dependency) : OneLine (specifier runtimeModule file dependency) := by
  unfold specifier
  split
  · exact (hr.append (by decide)).append (oneLine_modulePath hd)
  · exact (oneLine_toRoot file).append (oneLine_modulePath hd)

end ModulePath

namespace Scope

variable {s : Scope}

theorem oneLine_declaredType {name : String} {symbol : Symbol}
    (path : OneLine (symbol.localName name)) (file : OneLine symbol.fileName) :
    OneLine (s.declaredType name symbol).render := by
  unfold declaredType
  split
  · exact path
  · exact ((ModulePath.oneLine_importAlias file).append (by decide)).append path

theorem resolved_eq_ok {name : String} {found : Option Symbol} {symbol : Symbol} :
    s.resolved name found = .ok symbol ↔ found = some symbol := by
  cases found with
  | none => simp [resolved]
  | some symbol' => simp [resolved]

theorem get?_of_message {name : String} {symbol : Symbol} (h : s.message name = .ok symbol) :
    s.symbols.get? name = some symbol :=
  SymbolTable.get?_of_message? (resolved_eq_ok.1 h)

theorem get?_of_enum {name : String} {symbol : Symbol} (h : s.enum name = .ok symbol) :
    s.symbols.get? name = some symbol :=
  SymbolTable.get?_of_enum? (resolved_eq_ok.1 h)

theorem oneLine_typeExpr {type : Proto.FieldType} {t : TypeExpr} (h : s.typeExpr type = .ok t)
    (texts : ∀ u ∈ s.symbols.writtenTexts type, OneLine u) : OneLine t.render := by
  cases type with
  | scalar scalar =>
    cases h
    cases scalar <;> decide
  | message name =>
    obtain ⟨symbol, hs, rfl⟩ := Check.map_eq_ok.1 h
    simp only [SymbolTable.writtenTexts, get?_of_message hs, List.forall_mem_cons] at texts
    exact oneLine_declaredType texts.1 texts.2.1
  | enumeration name =>
    obtain ⟨symbol, hs, rfl⟩ := Check.map_eq_ok.1 h
    simp only [SymbolTable.writtenTexts, get?_of_enum hs, List.forall_mem_cons] at texts
    exact oneLine_declaredType texts.1 texts.2.1

theorem oneLine_entryView {entry : MapEntry} {view : MapView} (h : s.entryView entry = .ok view)
    (key : ∀ u ∈ s.symbols.writtenTexts entry.key.type, OneLine u)
    (value : ∀ u ∈ s.symbols.writtenTexts entry.value.type, OneLine u) :
    OneLine view.key.render ∧ OneLine view.value.render := by
  unfold entryView at h
  obtain ⟨k, hk, h⟩ := Check.bind_eq_ok.1 h
  split at h <;> obtain ⟨v, hv, h⟩ := Check.bind_eq_ok.1 h <;> cases h
  · cases hv
    exact ⟨oneLine_typeExpr hk key, (by decide : OneLine TypeExpr.bytesOrText.render)⟩
  · exact ⟨oneLine_typeExpr hk key, oneLine_typeExpr hv value⟩

theorem oneLine_exposure {f : Proto.Field} {e : Exposure} (h : s.exposure f = .ok e)
    (texts : ∀ u ∈ s.symbols.viewTexts f.type, OneLine u) :
    ∀ t ∈ e.types, OneLine t.render := by
  unfold exposure at h
  split at h
  · cases h
    simp [Exposure.types]
  · cases h
    rename_i scalar _ _
    simp only [Exposure.types, List.forall_mem_singleton]
    cases scalar <;> decide
  · rename_i name hf
    obtain ⟨t, ht, rfl⟩ := Check.map_eq_ok.1 h
    rw [hf] at ht texts
    simpa [Exposure.types] using oneLine_typeExpr ht texts
  · rename_i name hf
    obtain ⟨symbol, hs, h⟩ := Check.bind_eq_ok.1 h
    have found := get?_of_message hs
    rw [hf] at texts
    split at h
    · rename_i entry he
      obtain ⟨view, hv, rfl⟩ := Check.map_eq_ok.1 h
      simp only [SymbolTable.viewTexts, SymbolTable.entryTypes, found, Option.bind_some, he,
        List.flatMap_cons, List.forall_mem_append] at texts
      have := oneLine_entryView hv texts.1 texts.2.1
      simpa [Exposure.types] using this
    · rename_i he
      cases h
      simp only [SymbolTable.viewTexts, SymbolTable.entryTypes, SymbolTable.writtenTexts, found,
        Option.bind_some, he, List.forall_mem_cons] at texts
      simpa [Exposure.types] using oneLine_declaredType texts.1 texts.2.1

theorem oneLine_expose {f : Proto.Field} {e : ExposedField} (h : s.expose f = .ok e)
    (texts : ∀ u ∈ s.symbols.viewTexts f.type, OneLine u) :
    ∀ t ∈ e.exposure.types, OneLine t.render := by
  obtain ⟨exposure, he, rfl⟩ := Check.map_eq_ok.1 h
  exact oneLine_exposure he texts

end Scope

namespace Proto

/-! ## The texts of a file -/

def Field.texts (symbols : SymbolTable) (f : Field) : List String :=
  f.name :: symbols.typeTexts f.type

/-- The texts of a type, those of the types nested in it left out. -/
def TypeDefinition.texts (symbols : SymbolTable) : TypeDefinition → List String
  | .message m => m.name :: m.oneofs ++ m.fields.flatMap (·.texts symbols)
  | .enumeration e => e.name :: e.values.map (·.name)

/-- The texts of a file: its name, package and dependencies, and those of its extensions and of the
types it shows. -/
def File.texts (symbols : SymbolTable) (file : File) : List String :=
  file.name :: file.package.toList ++ file.dependencies ++
    file.extensions.flatMap (·.texts symbols) ++
    (file.typeDecls.filter (·.isShown)).flatMap (·.definition.texts symbols)

theorem File.mem_texts {symbols : SymbolTable} {file : File} {u : String} :
    u ∈ file.texts symbols ↔
      u = file.name ∨ file.package = some u ∨ u ∈ file.dependencies ∨
        (∃ f ∈ file.extensions, u ∈ f.texts symbols) ∨
        ∃ t ∈ file.typeDecls, t.isShown ∧ u ∈ t.definition.texts symbols := by
  simp [File.texts, and_assoc]

/-! ## The texts that are written -/

/-- The names in the case enumerations of a message: each oneof, then its members. -/
def Message.caseTexts (m : Message) : List String :=
  m.oneofs.zipIdx.flatMap fun (oneof, index) => oneof :: (m.oneofMembers index).map (·.name)

/-- The texts that a type is written with, those of the types nested in it left out. -/
def TypeDefinition.writtenTexts (symbols : SymbolTable) : TypeDefinition → List String
  | .message m => m.name :: m.caseTexts ++ m.fields.flatMap fun f => symbols.viewTexts f.type
  | .enumeration e => e.name :: e.values.map (·.name)

/-- The texts that come into the typings of a file as they are, but for upper case: the runtime
module, the name, package and dependencies of the file, and what its extensions and the types it
shows are written with. -/
def File.writtenTexts (settings : Settings) (symbols : SymbolTable) (file : File) : List String :=
  settings.runtimeModule :: file.name :: file.package.toList ++ file.dependencies ++
    file.extensions.flatMap (fun f => symbols.writtenTexts f.type) ++
    (file.typeDecls.filter (·.isShown)).flatMap (·.definition.writtenTexts symbols)

theorem File.mem_writtenTexts {settings : Settings} {symbols : SymbolTable} {file : File}
    {u : String} :
    u ∈ file.writtenTexts settings symbols ↔
      u = settings.runtimeModule ∨ u = file.name ∨ file.package = some u ∨ u ∈ file.dependencies ∨
        (∃ f ∈ file.extensions, u ∈ symbols.writtenTexts f.type) ∨
        ∃ t ∈ file.typeDecls, t.isShown ∧ u ∈ t.definition.writtenTexts symbols := by
  simp [File.writtenTexts, and_assoc]

theorem Message.oneLine_caseTexts {m : Message} (oneofs : ∀ o ∈ m.oneofs, OneLine o)
    (fields : ∀ f ∈ m.fields, OneLine f.name) : ∀ u ∈ m.caseTexts, OneLine u := by
  intro u hu
  obtain ⟨p, hp, hu⟩ := List.mem_flatMap.1 hu
  have mem : p.1 ∈ m.oneofs := (List.mem_zipIdx' hp).2 ▸ List.getElem_mem _
  rcases List.mem_cons.1 hu with rfl | hu
  · exact oneofs _ mem
  · obtain ⟨f, hf, rfl⟩ := List.mem_map.1 hu
    exact fields f (List.mem_filter.1 hf).1

theorem TypeDefinition.oneLine_writtenTexts {symbols : SymbolTable} {d : TypeDefinition}
    (texts : ∀ u ∈ d.texts symbols, OneLine u) : ∀ u ∈ d.writtenTexts symbols, OneLine u := by
  cases d with
  | enumeration e => exact texts
  | message m =>
    have fieldTexts : ∀ f ∈ m.fields, ∀ u ∈ f.texts symbols, OneLine u := fun f hf u hu =>
      texts u (List.mem_append_right _ (List.mem_flatMap.2 ⟨f, hf, hu⟩))
    intro u hu
    simp only [writtenTexts, List.cons_append, List.mem_cons, List.mem_append,
      List.mem_flatMap] at hu
    rcases hu with rfl | hu | ⟨f, hf, hu⟩
    · exact texts _ (by simp [TypeDefinition.texts])
    · refine Message.oneLine_caseTexts (fun o ho => texts o ?_) (fun f hf => ?_) u hu
      · simp [TypeDefinition.texts, ho]
      · exact fieldTexts f hf _ (by simp [Field.texts])
    · exact SymbolTable.oneLine_viewTexts
        (fun v hv => fieldTexts f hf v (List.mem_cons_of_mem _ hv)) u hu

/-- What is written has no line breaks if what it comes from has none. -/
theorem File.oneLine_writtenTexts {settings : Settings} {symbols : SymbolTable} {file : File}
    (runtime : OneLine settings.runtimeModule) (texts : ∀ u ∈ file.texts symbols, OneLine u) :
    ∀ u ∈ file.writtenTexts settings symbols, OneLine u := by
  simp only [File.mem_texts] at texts
  intro u hu
  rcases File.mem_writtenTexts.1 hu with rfl | rfl | hp | hd | ⟨f, hf, hu⟩ | ⟨t, ht, shown, hu⟩
  · exact runtime
  · exact texts _ (.inl rfl)
  · exact texts u (.inr (.inl hp))
  · exact texts u (.inr (.inr (.inl hd)))
  · refine SymbolTable.oneLine_writtenTexts (fun v hv => texts v ?_) u hu
    have own : v ∈ f.texts symbols := List.mem_cons_of_mem _ (List.mem_append_left _ hv)
    exact .inr (.inr (.inr (.inl ⟨f, hf, own⟩)))
  · exact TypeDefinition.oneLine_writtenTexts
      (fun v hv => texts v (.inr (.inr (.inr (.inr ⟨t, ht, shown, hv⟩))))) u hu

end Proto

/-! ## Lines -/

namespace TypeScript

def OneLines (ls : List Line) : Prop := ∀ l ∈ ls, '\n' ∉ l.chars

theorem OneLines.append {ls ms : List Line} (hl : OneLines ls) (hm : OneLines ms) :
    OneLines (ls ++ ms) := by
  intro l h
  exact (List.mem_append.1 h).elim (hl l) (hm l)

theorem OneLines.blank {ls : List Line} (h : OneLines ls) : OneLines (.blank :: ls) := by
  intro l hl
  rcases List.mem_cons.1 hl with rfl | hl
  · exact List.not_mem_nil
  · exact h l hl

theorem oneLines_map {α : Type} {as : List α} (f : α → String) (depth : Nat)
    (h : ∀ a ∈ as, OneLine (f a)) : OneLines (as.map fun a => .code depth (f a)) := by
  intro l hl
  obtain ⟨a, ha, rfl⟩ := List.mem_map.1 hl
  have := h a ha
  simpa [Line.chars, OneLine] using this

theorem oneLines_code {text : String} (depth : Nat) (h : OneLine text) :
    OneLines [.code depth text] := by
  intro l hl
  rw [List.mem_singleton.1 hl]
  simpa [Line.chars, OneLine] using h

theorem oneLines_blockLines {opening : String} {texts : List String} (depth : Nat)
    (ho : OneLine opening) (ht : ∀ t ∈ texts, OneLine t) :
    OneLines (blockLines depth opening texts) :=
  ((oneLines_code depth ho).append (oneLines_map id (depth + 1) ht)).append
    (oneLines_code depth (by decide))

/-- The names that an enumeration is written with. -/
def EnumDeclaration.names (e : EnumDeclaration) : List String := e.name :: e.entries.map (·.name)

theorem EnumDeclaration.oneLines {e : EnumDeclaration} (h : ∀ u ∈ e.names, OneLine u)
    (depth : Nat) : OneLines (e.lines depth) := by
  obtain ⟨name, entries⟩ := List.forall_mem_cons.1 h
  have opening : OneLine ("export enum " ++ e.name) := OneLine.append (by decide) name
  refine oneLines_blockLines depth (opening.append (by decide)) fun t ht => ?_
  obtain ⟨entry, he, rfl⟩ := List.mem_map.1 ht
  exact oneLine_entry (entries _ (List.mem_map.2 ⟨entry, he, rfl⟩))

theorem oneLines_flatMap {α : Type} {depth : Nat} {f : α → Declaration} {as : List α}
    (h : ∀ a ∈ as, OneLines ((f a).lines depth)) :
    OneLines (declarationLines depth (as.map f)) := by
  induction as with
  | nil => exact fun l hl => absurd hl List.not_mem_nil
  | cons a as ih =>
    rw [List.map_cons, declarationLines]
    exact (h a (by simp)).append (ih fun b hb => h b (List.mem_cons_of_mem _ hb))

end TypeScript

namespace Proto

theorem mem_of_mem_constantName {name : String} {c : Char} (h : c ∈ (constantName name).toList)
    (hc : c.toNat < 128) (caseless : c.isAlpha = false) : c ∈ name.toList := by
  rw [constantName, String.toList_ofList] at h
  exact Unicode.mem_of_mem_uppercased h hc caseless

theorem oneLine_constantName {name : String} (h : OneLine name) : OneLine (constantName name) :=
  fun hm => h (mem_of_mem_constantName hm (by decide) (by decide))

/-! ## The names that are printed -/

/-- The names that a field is written with in its accessors and its entry, with those of types. -/
def Field.printedNames (s : Scope) (f : Field) : List String :=
  match s.expose f with
  | .ok exposed => f.camelName :: f.pascalName :: exposed.exposure.types.map TypeExpr.render
  | .error _ => []

/-- The names that a type is declared with, those of the types nested in it left out. -/
def TypeDefinition.printedNames (s : Scope) : TypeDefinition → List String
  | .message m =>
    m.name :: m.fields.flatMap (·.printedNames s) ++ m.caseDeclarations.flatMap (·.names)
  | .enumeration e => e.declaration.names

def TypeDefinition.PrintsOneLine (s : Scope) (d : TypeDefinition) : Prop :=
  ∀ u ∈ d.printedNames s, OneLine u

/-- No name that a message is declared with has a line break, and none of the types it shows. -/
def Message.PrintsOneLine (s : Scope) (m : Message) : Prop :=
  ∀ t ∈ m.typeDecls, t.isShown → t.definition.PrintsOneLine s

theorem Field.oneLine_printedNames {s : Scope} {f : Field}
    (texts : ∀ u ∈ s.symbols.viewTexts f.type, OneLine u) : ∀ u ∈ f.printedNames s, OneLine u := by
  intro u hu
  unfold printedNames at hu
  split at hu
  · rename_i exposed he
    simp only [List.mem_cons, List.mem_map] at hu
    rcases hu with rfl | rfl | ⟨t, ht, rfl⟩
    · exact f.oneLine_camelName
    · exact f.oneLine_pascalName
    · exact Scope.oneLine_expose he texts t ht
  · cases hu

theorem Enum.oneLine_names {e : Enum} (h : ∀ u ∈ e.name :: e.values.map (·.name), OneLine u) :
    ∀ u ∈ e.declaration.names, OneLine u := by
  intro u hu
  simp only [EnumDeclaration.names, Enum.declaration, List.map_map, List.mem_cons,
    List.mem_map] at hu
  rcases hu with rfl | ⟨v, hv, rfl⟩
  · exact h _ (by simp)
  · exact oneLine_constantName (h _ (List.mem_cons_of_mem _ (List.mem_map.2 ⟨v, hv, rfl⟩)))

theorem Message.oneLine_caseNames {m : Message} (texts : ∀ u ∈ m.caseTexts, OneLine u) :
    ∀ e ∈ m.caseDeclarations, ∀ u ∈ e.names, OneLine u := by
  intro e he u hu
  obtain ⟨p, hp, rfl⟩ := List.mem_map.1 he
  obtain ⟨oneof, members⟩ :=
    List.forall_mem_cons.1 fun v hv => texts v (List.mem_flatMap.2 ⟨p, hp, hv⟩)
  simp only [EnumDeclaration.names, caseDeclaration, List.map_cons, List.map_map, List.mem_cons,
    List.mem_map] at hu
  rcases hu with rfl | rfl | ⟨f, hf, rfl⟩
  · exact oneLine_caseName p.1
  · exact (oneLine_constantName oneof).append (by decide)
  · exact oneLine_constantName (members _ (List.mem_map_of_mem hf))

/-- Names are printed without line breaks if the texts that they are written with have none. -/
theorem TypeDefinition.printsOneLine {s : Scope} {d : TypeDefinition}
    (texts : ∀ u ∈ d.writtenTexts s.symbols, OneLine u) : d.PrintsOneLine s := by
  intro u hu
  cases d with
  | enumeration e => exact e.oneLine_names texts u hu
  | message m =>
    simp only [printedNames, List.cons_append, List.mem_cons, List.mem_append,
      List.mem_flatMap] at hu
    rcases hu with rfl | ⟨f, hf, hu⟩ | ⟨e, he, hu⟩
    · exact texts _ (by simp [writtenTexts])
    · refine Field.oneLine_printedNames (fun v hv => texts v ?_) u hu
      exact List.mem_append_right _ (List.mem_flatMap.2 ⟨f, hf, hv⟩)
    · exact Message.oneLine_caseNames (fun v hv => texts v (by simp [writtenTexts, hv])) e he u hu

/-! ## The lines of messages and files -/

theorem oneLine_messageMembers {name : String} (h : OneLine name) :
    ∀ m ∈ messageMembers name, OneLine m.render := by
  have self : OneLine (TypeExpr.declared none name).render := h
  have self_ : ∀ parameter, OneLine parameter →
      OneLine (Parameter.mk parameter false (.declared none name)).name ∧
        OneLine (Parameter.mk parameter false (.declared none name)).type.render :=
    fun _ hp => ⟨hp, h⟩
  have pair : ∀ p q : Parameter, (OneLine p.name ∧ OneLine p.type.render) →
      (OneLine q.name ∧ OneLine q.type.render) →
      ∀ r ∈ [p, q], OneLine r.name ∧ OneLine r.type.render := by
    intro p q hp hq
    simpa using ⟨hp, hq⟩
  intro m hm
  simp only [messageMembers, List.mem_cons, List.not_mem_nil, or_false] at hm
  rcases hm with rfl | rfl | rfl | rfl | rfl | rfl | rfl | rfl
  · decide
  · exact oneLine_method false (by decide) (by decide) (oneLine_objectOf self)
  · exact oneLine_method true (by decide) (pair _ _ (by decide) (self_ "msg" (by decide)))
      (oneLine_objectOf self)
  · decide
  · decide
  · exact oneLine_method true (by decide) (pair _ _ (self_ "message" (by decide)) (by decide))
      (by decide)
  · exact oneLine_method true (by decide) (by decide) self
  · exact oneLine_method true (by decide) (pair _ _ (self_ "message" (by decide)) (by decide)) self

theorem Message.oneLine_members {m : Message} {exposed : List ExposedField} (hn : OneLine m.name)
    (types : ∀ f ∈ exposed, ∀ t ∈ f.exposure.types, OneLine t.render) :
    ∀ member ∈ m.members exposed, OneLine member.render := by
  intro member h
  simp only [members, List.mem_append] at h
  rcases h with (h | h) | h
  · obtain ⟨f, hf, h⟩ := List.mem_flatMap.1 h
    exact ExposedField.oneLine_accessors (types f hf) member h
  · obtain ⟨oneof, -, rfl⟩ := List.mem_map.1 h
    exact oneLine_getter (oneLine_caseName oneof)
      ((hn.append (by decide)).append (oneLine_caseName oneof))
  · exact oneLine_messageMembers hn member h

theorem oneLines_messages {s : Scope} {depth : Nat} {ms : List Message} {ds : List Declaration}
    (h : messageDeclarations s ms = .ok ds)
    (each_ : ∀ m ∈ ms, ∀ own, m.declarations s = .ok own → OneLines (declarationLines depth own)) :
    OneLines (declarationLines depth ds) := by
  induction ms generalizing ds with
  | nil =>
    cases h
    exact fun l hl => absurd hl List.not_mem_nil
  | cons m ms ih =>
    obtain ⟨first, rest, hf, hr, rfl⟩ := messageDeclarations_cons_eq_ok.1 h
    rw [declarationLines_append]
    exact (each_ m (by simp) first hf).append
      (ih hr fun n hn => each_ n (List.mem_cons_of_mem _ hn))

/-- The printed lines of a message have no line breaks of their own, if the names that it and the
types it shows are declared with have none. -/
theorem Message.oneLines_declarations {s : Scope} (m : Message) :
    ∀ {depth : Nat} {ds : List Declaration}, m.declarations s = .ok ds → m.PrintsOneLine s →
      OneLines (declarationLines depth ds) := by
  induction m using Message.nested_induction with
  | step m ih =>
    intro depth ds h names
    rcases Message.declarations_eq_ok.1 h with ⟨hm, rfl⟩ | ⟨hm, exposed, inner, he, hi, rfl⟩
    · exact fun l hl => absurd hl List.not_mem_nil
    have own := Message.own_of_forall_shown (P := TypeDefinition.PrintsOneLine s) hm names
    have name : OneLine m.name := own _ (by simp [TypeDefinition.printedNames])
    have types : ∀ e ∈ exposed, ∀ t ∈ e.exposure.types, OneLine t.render := by
      intro e hm t ht
      obtain ⟨f, hf, h⟩ := exists_of_mem_each he hm
      have printed : t.render ∈ f.printedNames s := by
        simp only [Field.printedNames, h, List.mem_cons, List.mem_map]
        exact .inr (.inr ⟨t, ht, rfl⟩)
      refine own _ (List.mem_append_left _ (List.mem_cons_of_mem _ ?_))
      exact List.mem_flatMap.2 ⟨f, hf, printed⟩
    have members : ∀ t ∈ (m.members exposed).map Member.render, OneLine t := by
      intro t ht
      obtain ⟨member, h, rfl⟩ := List.mem_map.1 ht
      exact Message.oneLine_members name types member h
    have class_ : OneLines ((Declaration.classDecl m.name (m.members exposed)).lines depth) := by
      have start : OneLine ("export class " ++ m.name) := OneLine.append (by decide) name
      exact (oneLines_blockLines depth (start.append (by decide)) members).blank
    have object_ :
        OneLines ((Declaration.objectType (exposed.map (·.property))).lines (depth + 1)) := by
      refine oneLines_blockLines (depth + 1) (by decide) fun t ht => ?_
      simp only [List.map_map, List.mem_map] at ht
      obtain ⟨f, hf, rfl⟩ := ht
      exact ExposedField.oneLine_property (types f hf)
    have nested : OneLines (declarationLines (depth + 1) inner) :=
      oneLines_messages hi fun n hn own hown => ih n hn hown
        (Message.forall_shown_nested (P := TypeDefinition.PrintsOneLine s) hm names n hn)
    have enums : OneLines (declarationLines (depth + 1)
        (m.enums.map fun e => .enumDecl e.declaration)) :=
      oneLines_flatMap fun e he => (EnumDeclaration.oneLines (Message.enum_of_forall_shown
        (P := TypeDefinition.PrintsOneLine s) hm names e he) (depth + 1)).blank
    have cases_ : OneLines (declarationLines (depth + 1) (m.caseDeclarations.map .enumDecl)) :=
      oneLines_flatMap fun e he => (EnumDeclaration.oneLines (fun u hu => own u
        (List.mem_append_right _ (List.mem_flatMap.2 ⟨e, he, hu⟩))) (depth + 1)).blank
    have heading : OneLine ("export namespace " ++ m.name ++ " \x7b") :=
      (OneLine.append (by decide) name).append (by decide)
    have body : OneLines (declarationLines (depth + 1) (m.namespaceBody exposed inner)) := by
      rw [Message.namespaceBody, declarationLines_append, declarationLines_append,
        declarationLines]
      exact ((object_.append nested).append enums).append cases_
    simp only [declarationLines, List.append_nil]
    refine class_.append ?_
    exact (((oneLines_code depth heading).append body).append
      (oneLines_code depth (by decide))).blank

theorem Field.oneLines_extension {s : Scope} {f : Field} {d : Declaration}
    (h : f.extensionDeclaration s = .ok d) (texts : ∀ u ∈ s.symbols.writtenTexts f.type, OneLine u)
    (depth : Nat) : OneLines (d.lines depth) := by
  obtain ⟨type, ht, rfl⟩ := Check.map_eq_ok.1 h
  have type_ : OneLine type.render := Scope.oneLine_typeExpr ht texts
  have start : OneLine ("export const " ++ f.camelName) :=
    OneLine.append (by decide) f.oneLine_camelName
  have info : OneLine (TypeExpr.generic "jspb.ExtensionFieldInfo" type).render :=
    oneLine_generic (by decide) type_
  exact (oneLines_code depth (((start.append (by decide)).append info).append (by decide))).blank

theorem File.oneLine_comments {file : File} (name : OneLine file.name)
    (package : ∀ p, file.package = some p → OneLine p) : ∀ c ∈ file.comments, OneLine c := by
  have package_ : OneLine (file.package.getD "") := by
    cases hp : file.package with
    | none => decide
    | some p => exact package p hp
  intro c hc
  simp only [File.comments, List.mem_cons, List.not_mem_nil, or_false] at hc
  rcases hc with rfl | rfl
  · exact OneLine.append (by decide) package_
  · exact OneLine.append (by decide) name

theorem File.oneLine_imports {settings : Settings} {file : File}
    (runtime : OneLine settings.runtimeModule) (dependencies : ∀ d ∈ file.dependencies, OneLine d) :
    ∀ i ∈ file.imports settings, OneLine i.render := by
  intro i hi
  rcases List.mem_cons.1 hi with rfl | hi
  · exact oneLine_import (by decide : OneLine "jspb") runtime
  · obtain ⟨d, hd, rfl⟩ := List.mem_map.1 hi
    exact oneLine_import (ModulePath.oneLine_importAlias (dependencies d hd))
      (ModulePath.oneLine_specifier runtime (dependencies d hd))

/-- No line of the typings of a file has a line break of its own, if no text that is written in them
has one. -/
theorem File.oneLine_typings {settings : Settings} {symbols : SymbolTable} {file : File}
    {m : Module} (h : file.typings settings symbols = .ok m)
    (texts : ∀ u ∈ file.writtenTexts settings symbols, OneLine u) : OneLines m.lines := by
  simp only [File.mem_writtenTexts] at texts
  obtain ⟨body, hb, rfl⟩ := Check.map_eq_ok.1 h
  obtain ⟨messages, extensions, hm, he, rfl⟩ := File.declarations_eq_ok.1 hb
  have comments : OneLines (file.comments.map fun c => .code 0 ("// " ++ c)) :=
    oneLines_map _ 0 fun c hc => OneLine.append (by decide)
      (File.oneLine_comments (texts _ (.inr (.inl rfl)))
        (fun p hp => texts p (.inr (.inr (.inl hp)))) c hc)
  have imports : OneLines ((file.imports settings).map fun i => .code 0 i.render) :=
    oneLines_map _ 0 (File.oneLine_imports (texts _ (.inl rfl)) fun d hd =>
      texts d (.inr (.inr (.inr (.inl hd)))))
  have types : ∀ t ∈ file.typeDecls, t.isShown → t.definition.PrintsOneLine ⟨symbols, file⟩ :=
    fun t ht shown => TypeDefinition.printsOneLine fun u hu =>
      texts u (.inr (.inr (.inr (.inr (.inr ⟨t, ht, shown, hu⟩)))))
  have messages_ : OneLines (declarationLines 0 messages) :=
    oneLines_messages hm fun n hn own hown => n.oneLines_declarations hown fun t ht =>
      types t (List.mem_append_left _ (List.mem_flatMap.2 ⟨n, hn, ht⟩))
  have extensions_ : OneLines (declarationLines 0 extensions) := by
    rw [← List.map_id extensions]
    refine oneLines_flatMap fun d hd => ?_
    obtain ⟨f, hf, h⟩ := exists_of_mem_each he hd
    exact Field.oneLines_extension h
      (fun u hu => texts u (.inr (.inr (.inr (.inr (.inl ⟨f, hf, hu⟩)))))) 0
  have enums : OneLines (declarationLines 0 (file.enums.map fun e => .enumDecl e.declaration)) :=
    oneLines_flatMap fun e he => (EnumDeclaration.oneLines (types ⟨[], .enumeration e⟩
      (List.mem_append_right _ (List.mem_map.2 ⟨e, he, rfl⟩)) rfl) 0).blank
  have blank : OneLines [.blank] := OneLines.blank fun l hl => absurd hl List.not_mem_nil
  rw [Module.lines, declarationLines_append, declarationLines_append]
  exact (((comments.append blank).append imports).append
    ((messages_.append extensions_).append enums)).append blank

end Proto

end ProtoTypings
