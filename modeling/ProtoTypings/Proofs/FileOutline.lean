import ProtoTypings.Proofs.Checks
import ProtoTypings.Proofs.PlainLines
import ProtoTypings.Proofs.TypeDecl

/-!
# Proofs.FileOutline

The outline of the typings of a file, computed from its messages and enums, and that the printed
lines have it.

* `Message.marks`, `File.marks` — the outline of a message at a depth, and that of a file.
* `File.nested_marks` — the outline is nested as it should be.
* `File.lineMarks_typings` — the lines of the typings have this outline.
* `File.declares` — every declared type that is shown stands in the namespaces of the messages
  around it.
-/

namespace ProtoTypings
namespace Proto

open TypeScript

/-! ## Outlines -/

/-- The outline of a declaration around another outline. -/
def block (depth : Nat) (kind : HeadingKind) (name : String) (body : List Mark) : List Mark :=
  .opens ⟨2 * depth, kind, name⟩ :: body ++ [.closes (2 * depth)]

mutual

/-- The outline of a message: its class, then its namespace with the object type, the nested
messages, the enums and the cases of the oneofs. -/
def Message.marks (depth : Nat) : Message → List Mark
  | ⟨name, isMapEntry, _, oneofs, nested, enums⟩ =>
    if isMapEntry then []
    else
      block depth .classDecl name [] ++
        block depth .namespaceDecl name
          (block (depth + 1) .objectType "AsObject" [] ++ messageMarks (depth + 1) nested ++
            enums.flatMap (fun e => block (depth + 1) .enumDecl e.name []) ++
            oneofs.flatMap fun o => block (depth + 1) .enumDecl (caseName o) [])

def messageMarks (depth : Nat) : List Message → List Mark
  | [] => []
  | m :: ms => m.marks depth ++ messageMarks depth ms

end

theorem messageMarks_eq_flatMap (depth : Nat) (ms : List Message) :
    messageMarks depth ms = ms.flatMap (·.marks depth) := by
  induction ms with
  | nil => rfl
  | cons m ms ih => rw [messageMarks, List.flatMap_cons, ih]

theorem Message.marks_of_isMapEntry {m : Message} (h : m.isMapEntry) (depth : Nat) :
    m.marks depth = [] := by
  cases m
  simp only at h
  simp [Message.marks, h]

theorem Message.marks_eq {m : Message} (h : m.isMapEntry = false) (depth : Nat) :
    m.marks depth =
      block depth .classDecl m.name [] ++
        block depth .namespaceDecl m.name
          (block (depth + 1) .objectType "AsObject" [] ++ m.nested.flatMap (·.marks (depth + 1)) ++
            m.enums.flatMap (fun e => block (depth + 1) .enumDecl e.name []) ++
            m.oneofs.flatMap fun o => block (depth + 1) .enumDecl (caseName o) []) := by
  rw [← messageMarks_eq_flatMap]
  cases m
  simp only at h
  simp [Message.marks, h]

/-- The outline of a file: its messages, then its enums. -/
def File.marks (file : File) : List Mark :=
  file.messages.flatMap (·.marks 0) ++ file.enums.flatMap fun e => block 0 .enumDecl e.name []

theorem nested_block {depth : Nat} {body : List Mark} (h : Nested (depth + 1) body)
    (kind : HeadingKind) (name : String) : Nested depth (block depth kind name body) :=
  .block h .nil

theorem Message.nested_marks (m : Message) : ∀ depth, Nested depth (m.marks depth) := by
  induction m using Message.nested_induction with
  | step m ih =>
    intro depth
    cases hm : m.isMapEntry with
    | true =>
      rw [Message.marks_of_isMapEntry hm]
      exact .nil
    | false =>
      rw [Message.marks_eq hm]
      refine (nested_block .nil _ _).append (nested_block ?_ _ _)
      refine Nested.append (Nested.append (Nested.append (nested_block .nil _ _) ?_) ?_) ?_
      · exact .flatMap fun n hn => ih n hn (depth + 1)
      · exact .flatMap fun e _ => nested_block .nil _ _
      · exact .flatMap fun o _ => nested_block .nil _ _

theorem File.nested_marks (file : File) : Nested 0 file.marks :=
  (Nested.flatMap fun m _ => m.nested_marks 0).append
    (.flatMap fun _ _ => nested_block .nil _ _)

/-! ## What is said of the types shown -/

/-- A property of the types shown by a message that is shown holds of those shown by a message
nested in it. -/
theorem Message.forall_shown_nested {P : TypeDefinition → Prop} {m : Message}
    (hm : m.isMapEntry = false) (h : ∀ t ∈ m.typeDecls, t.isShown → P t.definition) :
    ∀ n ∈ m.nested, ∀ t ∈ n.typeDecls, t.isShown → P t.definition := by
  intro n hn t ht shown
  refine h (t.inside m) (Message.mem_typeDecls.2 (.inl ⟨n, hn, t, ht, rfl⟩)) ?_
  simp [hm, shown]

theorem Message.own_of_forall_shown {P : TypeDefinition → Prop} {m : Message}
    (hm : m.isMapEntry = false) (h : ∀ t ∈ m.typeDecls, t.isShown → P t.definition) :
    P (.message m) :=
  h ⟨[], .message m⟩ (Message.mem_typeDecls.2 (.inr (.inr rfl)))
    (by simp [TypeDecl.isShown, TypeDefinition.isMapEntry, hm])

theorem Message.enum_of_forall_shown {P : TypeDefinition → Prop} {m : Message}
    (hm : m.isMapEntry = false) (h : ∀ t ∈ m.typeDecls, t.isShown → P t.definition) :
    ∀ e ∈ m.enums, P (.enumeration e) := fun e he =>
  h ⟨[m], .enumeration e⟩ (Message.mem_typeDecls.2 (.inr (.inl ⟨e, he, rfl⟩)))
    (by simp [TypeDecl.isShown, TypeDefinition.isMapEntry, hm])

/-! ## The outline of the printed lines -/

theorem lineMarks_enumDecl {depth : Nat} {e : EnumDeclaration} (hn : ' ' ∉ e.name.toList)
    (he : ∀ t ∈ e.entries.map EnumEntry.render, Silent t.toList) :
    lineMarks ((Declaration.enumDecl e).lines depth) = block depth .enumDecl e.name [] := by
  rw [Declaration.lines, lineMarks_blank, EnumDeclaration.lines, lineMarks_blockLines ?_ he]
  · rfl
  · simpa using headingOf?_named .enumDecl "export enum " (by decide) hn _

theorem lineMarks_classDecl {depth : Nat} {name : String} {members : List Member}
    (hn : ' ' ∉ name.toList) (h : ∀ t ∈ members.map Member.render, Silent t.toList) :
    lineMarks ((Declaration.classDecl name members).lines depth) =
      block depth .classDecl name [] := by
  rw [Declaration.lines, lineMarks_blank, lineMarks_blockLines ?_ h]
  · rfl
  · simpa using headingOf?_named .classDecl "export class " (by decide) hn _

theorem lineMarks_objectType {depth : Nat} {properties : List Property}
    (h : ∀ t ∈ properties.map Property.render, Silent t.toList) :
    lineMarks ((Declaration.objectType properties).lines depth) =
      block depth .objectType "AsObject" [] := by
  rw [Declaration.lines, lineMarks_blockLines ?_ h]
  · rfl
  · simp [headingOf?, Text.dropPrefix?, TypeExpr.objectTypeName]

theorem lineMarks_namespaceDecl {depth : Nat} {name : String} (body : List Declaration)
    (hn : ' ' ∉ name.toList) :
    lineMarks ((Declaration.namespaceDecl name body).lines depth) =
      block depth .namespaceDecl name (lineMarks (declarationLines (depth + 1) body)) := by
  have heading : headingOf? ("export namespace " ++ name ++ " \x7b").toList =
      some (.namespaceDecl, name) := by
    simpa using headingOf?_named .namespaceDecl "export namespace " (by decide) hn _
  rw [Declaration.lines, List.cons_append, List.cons_append, lineMarks_blank, lineMarks_code,
    ofLine?_heading heading, lineMarks_append, lineMarks_code]
  simp [ofLine?_brace, block, lineMarks]

theorem lineMarks_flatMap {α : Type} (depth : Nat) (f : α → Declaration) (as : List α) :
    lineMarks (declarationLines depth (as.map f)) =
      as.flatMap fun a => lineMarks ((f a).lines depth) := by
  induction as with
  | nil => rfl
  | cons a as ih => rw [List.map_cons, declarationLines, lineMarks_append, List.flatMap_cons, ih]

/-! ## What messages and files declare -/

theorem map_zipIdx_fst {α β : Type} (f : α → β) (as : List α) :
    (as.zipIdx.map fun a => f a.1) = as.map f := by
  rw [← Function.comp_def f Prod.fst, ← List.map_map, List.zipIdx_map_fst]

theorem Message.declarations_eq_ok {s : Scope} {m : Message} {ds : List Declaration} :
    m.declarations s = .ok ds ↔
      (m.isMapEntry = true ∧ ds = []) ∨
        (m.isMapEntry = false ∧ ∃ exposed inner, each s.expose m.fields = .ok exposed ∧
          messageDeclarations s m.nested = .ok inner ∧
          ds = [.classDecl m.name (m.members exposed),
            .namespaceDecl m.name (m.namespaceBody exposed inner)]) := by
  rw [Message.declarations_eq]
  cases hm : m.isMapEntry with
  | true => simp [eq_comm]
  | false =>
    simp only [Bool.false_eq_true, if_false, Check.bind_eq_ok, false_and, true_and, false_or]
    constructor
    · rintro ⟨exposed, he, inner, hi, h⟩
      cases h
      exact ⟨exposed, inner, he, hi, rfl⟩
    · rintro ⟨exposed, inner, he, hi, rfl⟩
      exact ⟨exposed, he, inner, hi, rfl⟩

theorem messageDeclarations_cons_eq_ok {s : Scope} {m : Message} {ms : List Message}
    {ds : List Declaration} :
    messageDeclarations s (m :: ms) = .ok ds ↔
      ∃ first rest, m.declarations s = .ok first ∧ messageDeclarations s ms = .ok rest ∧
        ds = first ++ rest := by
  simp only [messageDeclarations, Check.bind_eq_ok]
  constructor
  · rintro ⟨first, hf, rest, hr, h⟩
    cases h
    exact ⟨first, rest, hf, hr, rfl⟩
  · rintro ⟨first, rest, hf, hr, rfl⟩
    exact ⟨first, hf, rest, hr, rfl⟩

/-- The declarations of each message stand together among those of all. -/
theorem exists_declarations {s : Scope} {ms : List Message} {ds : List Declaration}
    (h : messageDeclarations s ms = .ok ds) {m : Message} (hm : m ∈ ms) :
    ∃ own, m.declarations s = .ok own ∧ own <:+: ds := by
  induction ms generalizing ds with
  | nil => cases hm
  | cons n ms ih =>
    obtain ⟨first, rest, hf, hr, rfl⟩ := messageDeclarations_cons_eq_ok.1 h
    rcases List.mem_cons.1 hm with rfl | hm
    · exact ⟨first, hf, (List.prefix_append first rest).isInfix⟩
    · obtain ⟨own, hown, among⟩ := ih hr hm
      exact ⟨own, hown, among.trans (List.suffix_append first rest).isInfix⟩

theorem File.declarations_eq_ok {symbols : SymbolTable} {file : File} {ds : List Declaration} :
    file.declarations symbols = .ok ds ↔
      ∃ messages extensions, messageDeclarations ⟨symbols, file⟩ file.messages = .ok messages ∧
        each (Field.extensionDeclaration ⟨symbols, file⟩) file.extensions = .ok extensions ∧
        ds = messages ++ extensions ++ file.enums.map fun e => .enumDecl e.declaration := by
  simp only [File.declarations, Check.bind_eq_ok]
  constructor
  · rintro ⟨messages, hm, extensions, he, h⟩
    cases h
    exact ⟨messages, extensions, hm, he, rfl⟩
  · rintro ⟨messages, extensions, hm, he, rfl⟩
    exact ⟨messages, hm, extensions, he, rfl⟩

/-! ## Lines of messages and files -/

/-- The name of a type is one word, so that it can be read off a heading. -/
def TypeDefinition.IsWord (d : TypeDefinition) : Prop := ' ' ∉ d.name.toList

theorem lineMarks_messages {s : Scope} {depth : Nat} {ms : List Message} {ds : List Declaration}
    (h : messageDeclarations s ms = .ok ds)
    (each_ : ∀ m ∈ ms, ∀ own, m.declarations s = .ok own →
      lineMarks (declarationLines depth own) = m.marks depth) :
    lineMarks (declarationLines depth ds) = ms.flatMap (·.marks depth) := by
  induction ms generalizing ds with
  | nil =>
    cases h
    rfl
  | cons m ms ih =>
    obtain ⟨first, rest, hf, hr, rfl⟩ := messageDeclarations_cons_eq_ok.1 h
    rw [declarationLines_append, lineMarks_append, List.flatMap_cons,
      each_ m (by simp) first hf, ih hr fun n hn => each_ n (List.mem_cons_of_mem _ hn)]

/-- The printed lines of a message have its outline, if the names of the types it shows are
words. -/
theorem Message.lineMarks_declarations {s : Scope} (m : Message) :
    ∀ {depth : Nat} {ds : List Declaration}, m.declarations s = .ok ds →
      (∀ t ∈ m.typeDecls, t.isShown → t.definition.IsWord) →
      lineMarks (declarationLines depth ds) = m.marks depth := by
  -- What the induction carries down is that the words are those of the types shown, so a nested
  -- message has them too.
  induction m using Message.nested_induction with
  | step m ih =>
    intro depth ds h words
    rcases Message.declarations_eq_ok.1 h with ⟨hm, rfl⟩ | ⟨hm, exposed, inner, he, hi, rfl⟩
    · rw [Message.marks_of_isMapEntry hm]
      rfl
    have own : ' ' ∉ m.name.toList := Message.own_of_forall_shown hm words
    have body : lineMarks (declarationLines (depth + 1) (m.namespaceBody exposed inner)) =
        block (depth + 1) .objectType "AsObject" [] ++ m.nested.flatMap (·.marks (depth + 1)) ++
          m.enums.flatMap (fun e => block (depth + 1) .enumDecl e.name []) ++
          m.oneofs.flatMap fun o => block (depth + 1) .enumDecl (caseName o) [] := by
      have properties : ∀ t ∈ (exposed.map (·.property)).map Property.render, Silent t.toList := by
        intro t ht
        simp only [List.map_map, List.mem_map] at ht
        obtain ⟨f, -, rfl⟩ := ht
        exact f.silent_property
      have nested : lineMarks (declarationLines (depth + 1) inner) =
          m.nested.flatMap (·.marks (depth + 1)) :=
        lineMarks_messages hi fun n hn own hown =>
          ih n hn hown (Message.forall_shown_nested hm words n hn)
      have enums : lineMarks (declarationLines (depth + 1)
          (m.enums.map fun e => .enumDecl e.declaration)) =
          m.enums.flatMap fun e => block (depth + 1) .enumDecl e.name [] := by
        rw [lineMarks_flatMap]
        exact List.flatMap_congr fun e he =>
          lineMarks_enumDecl (Message.enum_of_forall_shown hm words e he) e.silent_entries
      have cases_ : lineMarks (declarationLines (depth + 1)
          (m.caseDeclarations.map .enumDecl)) =
          m.oneofs.flatMap fun o => block (depth + 1) .enumDecl (caseName o) [] := by
        rw [Message.caseDeclarations, List.map_map, lineMarks_flatMap]
        have : m.oneofs.zipIdx.map Prod.fst = m.oneofs := List.zipIdx_map_fst ..
        conv_rhs => rw [← this, List.flatMap_map]
        refine List.flatMap_congr fun p _ => ?_
        exact lineMarks_enumDecl (not_mem_caseName p.1 (by decide) (by decide))
          (m.silent_cases p.1 p.2)
      simp only [Message.namespaceBody, List.cons_append, declarationLines,
        declarationLines_append, lineMarks_append]
      rw [lineMarks_objectType properties, nested, enums, cases_]
      simp
    simp only [declarationLines, List.append_nil, lineMarks_append]
    rw [lineMarks_classDecl own (m.silent_members exposed), lineMarks_namespaceDecl _ own, body,
      Message.marks_eq hm]

theorem lineMarks_extensions {s : Scope} {fs : List Field} {ds : List Declaration}
    (h : each (Field.extensionDeclaration s) fs = .ok ds) :
    lineMarks (declarationLines 0 ds) = [] := by
  have consts : ∀ d ∈ ds, lineMarks (d.lines 0) = [] := by
    intro d hd
    obtain ⟨f, -, hf⟩ := exists_of_mem_each h hd
    obtain ⟨type, -, rfl⟩ := Check.map_eq_ok.1 hf
    rw [Declaration.lines, lineMarks_blank, lineMarks_code, silent_const]
    rfl
  clear h
  induction ds with
  | nil => rfl
  | cons d ds ih =>
    rw [declarationLines, lineMarks_append, consts d (by simp),
      ih fun e he => consts e (List.mem_cons_of_mem _ he)]
    rfl

/-- The lines above the declarations have no marks. -/
theorem lineMarks_preamble (comments : List String) (imports : List Import) :
    lineMarks (comments.map (fun c => .code 0 ("// " ++ c)) ++ [.blank] ++
      imports.map (fun i => .code 0 i.render)) = [] := by
  have comment : ∀ t ∈ comments.map ("// " ++ ·), Silent t.toList := by
    intro t ht
    obtain ⟨c, -, rfl⟩ := List.mem_map.1 ht
    exact StartsPlain.silent ⟨'/', by simp, by decide⟩
  have import_ : ∀ t ∈ imports.map Import.render, Silent t.toList := by
    intro t ht
    obtain ⟨i, -, rfl⟩ := List.mem_map.1 ht
    exact StartsPlain.silent ⟨'i', by simp [Import.render], by decide⟩
  have comments_ : lineMarks (comments.map fun c => .code 0 ("// " ++ c)) = [] := by
    rw [← lineMarks_silent comment, List.map_map]
    rfl
  have imports_ : lineMarks (imports.map fun i => .code 0 i.render) = [] := by
    rw [← lineMarks_silent import_, List.map_map]
    rfl
  rw [lineMarks_append, lineMarks_append, comments_, imports_]
  simp

/-- The printed lines of a file have its outline, if the names of the types it shows are words. -/
theorem File.lineMarks_typings {settings : Settings} {symbols : SymbolTable} {file : File}
    {m : Module} (h : file.typings settings symbols = .ok m)
    (words : ∀ t ∈ file.typeDecls, t.isShown → t.definition.IsWord) :
    lineMarks m.lines = file.marks := by
  obtain ⟨body, hb, rfl⟩ := Check.map_eq_ok.1 h
  obtain ⟨messages, extensions, hm, he, rfl⟩ := File.declarations_eq_ok.1 hb
  have messages_ : lineMarks (declarationLines 0 messages) = file.messages.flatMap (·.marks 0) :=
    lineMarks_messages hm fun n hn own hown => n.lineMarks_declarations hown fun t ht =>
      words t (List.mem_append_left _ (List.mem_flatMap.2 ⟨n, hn, ht⟩))
  have enums : lineMarks (declarationLines 0 (file.enums.map fun e => .enumDecl e.declaration)) =
      file.enums.flatMap fun e => block 0 .enumDecl e.name [] := by
    rw [lineMarks_flatMap]
    refine List.flatMap_congr fun e he => lineMarks_enumDecl ?_ e.silent_entries
    exact words ⟨[], .enumeration e⟩ (List.mem_append_right _ (List.mem_map.2 ⟨e, he, rfl⟩)) rfl
  rw [Module.lines, lineMarks_append, lineMarks_append, lineMarks_preamble,
    declarationLines_append, declarationLines_append, lineMarks_append, lineMarks_append,
    messages_, lineMarks_extensions he, enums]
  simp [File.marks]

/-! ## Where a type is declared -/

/-- In an outline at a depth, a declaration stands inside exactly the namespaces `outer`, outermost
first, whatever was open before. -/
def DeclaresAt (depth : Nat) (ms : List Mark) (outer : List String) (kind : HeadingKind)
    (name : String) : Prop :=
  ∃ before after, ∃ opened : List Heading,
    ms = before ++ .opens ⟨2 * (depth + outer.length), kind, name⟩ :: after ∧
    (∀ stack, openAfter stack before = opened.reverse ++ stack) ∧
    opened.map (fun h => (h.kind, h.name)) = outer.map fun n => (.namespaceDecl, n)

section DeclaresAt

variable {depth : Nat} {ms ns : List Mark} {outer : List String} {kind : HeadingKind}
  {name : String}

theorem DeclaresAt.append_left (h : DeclaresAt depth ms outer kind name) (hn : Nested depth ns) :
    DeclaresAt depth (ns ++ ms) outer kind name := by
  obtain ⟨before, after, opened, rfl, open_, names⟩ := h
  refine ⟨ns ++ before, after, opened, by simp, ?_, names⟩
  intro stack
  rw [openAfter_append, hn.openAfter, open_]

theorem DeclaresAt.append_right (h : DeclaresAt depth ms outer kind name) (ns : List Mark) :
    DeclaresAt depth (ms ++ ns) outer kind name := by
  obtain ⟨before, after, opened, rfl, h⟩ := h
  exact ⟨before, after ++ ns, opened, by simp, h⟩

theorem DeclaresAt.flatMap {α : Type} {f : α → List Mark} {as : List α} {a : α} (ha : a ∈ as)
    (h : DeclaresAt depth (f a) outer kind name) (nested : ∀ b ∈ as, Nested depth (f b)) :
    DeclaresAt depth (as.flatMap f) outer kind name := by
  obtain ⟨before, after, rfl⟩ := List.append_of_mem ha
  rw [List.flatMap_append, List.flatMap_cons]
  exact (h.append_right _).append_left (.flatMap fun b hb => nested b (by simp [hb]))

theorem declaresAt_block (depth : Nat) (kind : HeadingKind) (name : String) (body : List Mark) :
    DeclaresAt depth (block depth kind name body) [] kind name :=
  ⟨[], body ++ [.closes (2 * depth)], [], rfl, fun _ => rfl, rfl⟩

theorem DeclaresAt.inNamespace (h : DeclaresAt (depth + 1) ms outer kind name) (n : String) :
    DeclaresAt depth (block depth .namespaceDecl n ms) (n :: outer) kind name := by
  obtain ⟨before, after, opened, rfl, open_, names⟩ := h
  refine ⟨.opens ⟨2 * depth, .namespaceDecl, n⟩ :: before, after ++ [.closes (2 * depth)],
    ⟨2 * depth, .namespaceDecl, n⟩ :: opened, ?_, ?_, ?_⟩
  · simp [block, Nat.add_assoc, Nat.add_comm 1]
  · intro stack
    rw [openAfter, open_]
    simp
  · simp [names]

theorem DeclaresAt.declares (h : DeclaresAt 0 ms outer kind name) :
    Declares ms outer kind name := by
  obtain ⟨before, after, opened, rfl, open_, names⟩ := h
  refine ⟨before, after, by rw [Nat.zero_add], ?_⟩
  rw [open_]
  simpa using names

end DeclaresAt

def TypeDefinition.headingKind : TypeDefinition → HeadingKind
  | .message _ => .classDecl
  | .enumeration _ => .enumDecl

theorem Message.declaresAt (m : Message) : ∀ {t : TypeDecl}, t ∈ m.typeDecls → t.isShown →
    ∀ depth, DeclaresAt depth (m.marks depth) (t.outer.map (·.name)) t.definition.headingKind
      t.definition.name := by
  induction m using Message.nested_induction with
  | step m ih =>
    intro t ht shown depth
    -- A type that is shown stands in no map entry, so the message itself is none.
    have hm : m.isMapEntry = false := by
      rcases Message.mem_typeDecls.1 ht with ⟨n, hn, u, hu, rfl⟩ | ⟨e, he, rfl⟩ | rfl
      · simp at shown
        exact shown.1
      · simpa [TypeDecl.isShown, TypeDefinition.isMapEntry] using shown
      · simpa [TypeDecl.isShown, TypeDefinition.isMapEntry] using shown
    have class_ : Nested depth (block depth .classDecl m.name []) := nested_block .nil _ _
    have object_ : Nested (depth + 1) (block (depth + 1) .objectType "AsObject" []) :=
      nested_block .nil _ _
    have nested : Nested (depth + 1) (m.nested.flatMap (·.marks (depth + 1))) :=
      .flatMap fun n _ => n.nested_marks _
    rw [Message.marks_eq hm]
    rcases Message.mem_typeDecls.1 ht with ⟨n, hn, u, hu, rfl⟩ | ⟨e, he, rfl⟩ | rfl
    · have : u.isShown := by
        simp at shown
        exact shown.2
      have inner := (ih n hn hu this (depth + 1)).flatMap hn fun k _ => k.nested_marks _
      exact ((((inner.append_left object_).append_right _).append_right _).inNamespace
        m.name).append_left class_
    · have inner := (declaresAt_block (depth + 1) .enumDecl e.name []).flatMap
        (f := fun e : Enum => block (depth + 1) .enumDecl e.name []) he
        fun e _ => nested_block .nil _ _
      exact (((inner.append_left (object_.append nested)).append_right _).inNamespace
        m.name).append_left class_
    · exact (declaresAt_block depth .classDecl m.name []).append_right _

/-- A declared type that is shown stands in the namespaces of the messages around it. -/
theorem File.declares {file : File} {t : TypeDecl} (ht : t ∈ file.typeDecls) (shown : t.isShown) :
    Declares file.marks (t.outer.map (·.name)) t.definition.headingKind t.definition.name := by
  apply DeclaresAt.declares
  rcases List.mem_append.1 ht with h | h
  · obtain ⟨m, hm, h⟩ := List.mem_flatMap.1 h
    exact ((m.declaresAt h shown 0).flatMap hm fun n _ => n.nested_marks 0).append_right _
  · obtain ⟨e, he, rfl⟩ := List.mem_map.1 h
    exact ((declaresAt_block 0 .enumDecl e.name []).flatMap
      (f := fun e : Enum => block 0 .enumDecl e.name []) he
      fun e _ => nested_block .nil _ _).append_left (.flatMap fun m _ => m.nested_marks 0)

end Proto
end ProtoTypings
