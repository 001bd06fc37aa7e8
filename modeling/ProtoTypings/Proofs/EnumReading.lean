import Std.Data.String.ToInt
import ProtoTypings.Proofs.Indentation
import ProtoTypings.Proofs.ObjectView

/-!
# Proofs.EnumReading

An enumeration is read back from its text: the spaces in front of it, its name, and its entries in
order. Those of the oneofs of a message belong to the getters in its class.

* `readEnum?` — what the text of an enumeration says.
* `EnumDeclaration.readEnum?_text` — reading takes back what was written.
* `CaseView` — the getter and the enumeration of a oneof; `CaseView.Agrees` — how they belong
  together.
* `flatMap_filter_perm` — things sorted by their numbers below a bound.
* `enumerations_read_back` — the enumerations of enums and of oneofs.
-/

namespace ProtoTypings
namespace TypeScript

/-! ## Reading -/

/-- What the text of an enumeration says: the spaces in front of it, its name, and the names and
numbers of its entries. -/
structure EnumReading where
  indent : Nat
  name : String
  entries : List (String × Int)
deriving Repr, DecidableEq

/-- The name and the number that a line of an enumeration gives, after so many spaces. -/
def readItem? (indent : Nat) (line : List Char) : Option (String × Int) := do
  let text ← Text.dropPrefix? (List.replicate indent ' ') line
  let (name, rest) ← Text.cutAt ' ' text
  let rest ← Text.dropPrefix? "= ".toList rest
  let digits ← Text.dropSuffix? ",".toList rest
  let number ← (String.ofList digits).toInt?
  return (String.ofList name, number)

/-- The entries of an enumeration from the lines after its heading. The closing brace stands on the
last line, and nothing follows its line break. -/
def readEntries? (indent : Nat) : List (List Char) → Option (List (String × Int))
  | [] => none
  | line :: lines =>
    if lines = [[]] then
      if line = List.replicate indent ' ' ++ ['\x7d'] then some [] else none
    else do
      let entry ← readItem? (indent + 2) line
      let entries ← readEntries? indent lines
      return entry :: entries

/-- What the text of an enumeration says, if it is one. -/
def readEnum? (text : String) : Option EnumReading :=
  match Text.splitOn '\n' text.toList with
  | [] => none
  | heading :: lines => do
    let indent := (heading.takeWhile (· == ' ')).length
    let rest ← Text.dropPrefix? "export enum ".toList (heading.dropWhile (· == ' '))
    let name ← Text.dropSuffix? " \x7b".toList rest
    let entries ← readEntries? indent lines
    return { indent, name := String.ofList name, entries }

/-- What is to be read from an enumeration at a depth. -/
def EnumDeclaration.reading (depth : Nat) (e : EnumDeclaration) : EnumReading :=
  { indent := 2 * depth
    name := e.name
    entries := e.entries.map fun entry => (entry.name, entry.number.toInt) }

/-! ## Reading back -/

theorem EnumEntry.readItem?_chars {e : EnumEntry} (word : ' ' ∉ e.name.toList) (depth : Nat) :
    readItem? (2 * depth) (Line.code depth e.render).chars =
      some (e.name, e.number.toInt) := by
  have text : e.render.toList = e.name.toList ++
      ' ' :: ("= ".toList ++ ((toString e.number.toInt).toList ++ ",".toList)) := by
    simp [render]
  have number : (toString e.number.toInt).toInt? = some e.number.toInt := by
    rw [Int.toString_eq_repr, Int.toInt?_repr]
  simp only [readItem?, Line.chars, Text.dropPrefix?_eq_some_iff.2 rfl, text,
    Text.cutAt_of_not_mem word, Text.dropSuffix?_eq_some_iff.2 rfl, Option.bind_eq_bind,
    Option.bind_some, String.ofList_toList, number]
  rfl

theorem readEntries?_chars {entries : List EnumEntry}
    (words : ∀ e ∈ entries, ' ' ∉ e.name.toList) (depth : Nat) :
    readEntries? (2 * depth)
        (entries.map (fun e => (Line.code (depth + 1) e.render).chars) ++
          [(Line.code depth "\x7d").chars, []]) =
      some (entries.map fun e => (e.name, e.number.toInt)) := by
  induction entries with
  | nil => simp [readEntries?, Line.chars]
  | cons e entries ih =>
    obtain ⟨word, words⟩ := List.forall_mem_cons.1 words
    have more : entries.map (fun e => (Line.code (depth + 1) e.render).chars) ++
        [(Line.code depth "\x7d").chars, []] ≠ [[]] := by
      intro same
      have := congrArg List.length same
      simp at this
    have entry := EnumEntry.readItem?_chars word (depth + 1)
    rw [List.map_cons, List.cons_append, readEntries?, if_neg more, ih words, Nat.mul_succ] at *
    rw [entry]
    rfl

/-- An enumeration is read back from its text at every depth, if its names have no line breaks and
those of its entries no blanks. -/
theorem EnumDeclaration.readEnum?_text {e : EnumDeclaration} (lines : ∀ u ∈ e.names, OneLine u)
    (words : ∀ entry ∈ e.entries, ' ' ∉ entry.name.toList) (depth : Nat) :
    readEnum? (e.text depth) = some (e.reading depth) := by
  have heading : (Line.code depth ("export enum " ++ e.name ++ " \x7b")).chars =
      List.replicate (2 * depth) ' ' ++
        ("export enum ".toList ++ (e.name.toList ++ " \x7b".toList)) := by
    simp [Line.chars]
  have pieces : Text.splitOn '\n' (e.text depth).toList =
      (Line.code depth ("export enum " ++ e.name ++ " \x7b")).chars ::
        (e.entries.map (fun e => (Line.code (depth + 1) e.render).chars) ++
          [(Line.code depth "\x7d").chars, []]) := by
    rw [text, splitOn_render (e.oneLines lines depth), EnumDeclaration.lines, blockLines]
    simp
  have spaces : ∀ c ∈ List.replicate (2 * depth) ' ', (c == ' ') = true := by
    intro c hc
    rw [List.eq_of_mem_replicate hc]
    rfl
  rw [readEnum?, pieces, heading]
  simp only [List.takeWhile_append_of_pos spaces, List.dropWhile_append_of_pos spaces]
  have name : Text.dropPrefix? "export enum ".toList
      (("export enum ".toList ++ (e.name.toList ++ " \x7b".toList)).dropWhile (· == ' ')) =
        some (e.name.toList ++ " \x7b".toList) := Text.dropPrefix?_eq_some_iff.2 rfl
  have indent : (List.replicate (2 * depth) ' ' ++
      ("export enum ".toList ++ (e.name.toList ++ " \x7b".toList)).takeWhile (· == ' ')).length =
        2 * depth := by
    rw [List.length_append, List.length_replicate]
    rfl
  simp only [name, indent, Text.dropSuffix?_eq_some_iff.2 rfl, readEntries?_chars words,
    Option.bind_eq_bind, Option.bind_some, String.ofList_toList]
  rfl

/-- Enumerations one after the other are set off by line breaks. -/
theorem render_enumDecls (depth : Nat) (es : List EnumDeclaration) :
    render (declarationLines depth (es.map .enumDecl)) =
      String.join (es.map fun e => "\n" ++ e.text depth) := by
  induction es with
  | nil => rfl
  | cons e es ih =>
    rw [List.map_cons, declarationLines, render_append, ih, Declaration.lines, render_cons,
      List.map_cons, String.join_cons]
    rfl

end TypeScript

open Proto TypeScript

/-! ## Numbers below a bound -/

/-- What is sorted by its numbers is all that has a number below the bound, each once. -/
theorem flatMap_filter_perm {α : Type} (number : α → Option Nat) (as : List α) (bound : Nat) :
    ((List.range bound).flatMap fun n => as.filter (number · = some n)).Perm
      (as.filter fun a => (number a).any (· < bound)) := by
  induction bound with
  | zero => simp
  | succ bound ih =>
    have below : ∀ n : Option Nat,
        (n.any (· < bound) && n.any (· < bound + 1)) = n.any (· < bound) := by
      rintro (_ | n)
      · rfl
      · rw [Bool.eq_iff_iff]
        simp
        omega
    have last : ∀ n : Option Nat,
        (!n.any (· < bound) && n.any (· < bound + 1)) = decide (n = some bound) := by
      rintro (_ | n)
      · rfl
      · rw [Bool.eq_iff_iff]
        simp
        omega
    have split := List.filter_append_perm (fun a => (number a).any (· < bound))
      (as.filter fun a => (number a).any (· < bound + 1))
    simp only [List.filter_filter, below, last] at split
    rw [List.range_succ, List.flatMap_append, List.flatMap_singleton]
    exact (ih.append_right _).trans split

/-! ## Oneofs -/

/-- What is written about a oneof: its getter and the text of its enumeration, with what this is
read as. -/
structure CaseView where
  getter : String
  block : String
  reading : EnumReading

/-- The name and the number of a field among the cases of a oneof. -/
def Proto.Field.case (f : Field) : String × Int := (constantName f.name, f.number.toInt)

/-- A getter and an enumeration for a oneof of a message, given by its name and its index. The
getter is of the enumeration, and this lists that nothing is set and the members of the oneof. -/
structure CaseView.Agrees (m : Message) (depth : Nat) (oneof : String × Nat) (v : CaseView) :
    Prop where
  read : readEnum? v.block = some v.reading
  indent : v.reading.indent = 2 * depth
  name : v.reading.name = caseName oneof.1
  getter : v.getter = getterLine v.reading.name (m.name ++ "." ++ v.reading.name)
  entries : v.reading.entries = (constantName oneof.1 ++ "_NOT_SET", 0) ::
    (m.fields.filter (·.oneofIndex = some oneof.2)).map Field.case
  length : v.reading.entries.length = m.fields.countP (·.oneofIndex = some oneof.2) + 1

namespace Proto

/-- A text that is the class of a message, with the getters of its oneofs after the accessors of its
fields, and its namespace, with the enumerations of its oneofs at the end. -/
def Message.CasesLaidOut (s : Scope) (m : Message) (views : List CaseView) (depth : Nat)
    (text : String) : Prop :=
  ∃ exposed inner, each s.expose m.fields = .ok exposed ∧
    messageDeclarations s m.nested = .ok inner ∧
    text =
      render (.blank :: blockLines depth ("export class " ++ m.name ++ " extends jspb.Message \x7b")
        ((exposed.flatMap (·.accessors)).map Member.render ++ views.map (·.getter) ++
          (messageMembers m.name).map Member.render)) ++
      render (.blank :: .code depth ("export namespace " ++ m.name ++ " \x7b") ::
        declarationLines (depth + 1) (.objectType (exposed.map (·.property)) :: inner ++
          m.enums.map fun e => .enumDecl e.declaration)) ++
      String.join (views.map fun v => "\n" ++ v.block) ++ (indentation depth ++ "\x7d\n")

/-- What is written about the oneof at an index. -/
def Message.caseView (m : Message) (depth : Nat) (oneof : String) (index : Nat) : CaseView :=
  { getter := (m.caseGetter oneof).render
    block := (m.caseDeclaration oneof index).text depth
    reading := (m.caseDeclaration oneof index).reading depth }

def Message.caseViews (m : Message) (depth : Nat) : List CaseView :=
  m.oneofs.zipIdx.map fun (oneof, index) => m.caseView depth oneof index

theorem not_mem_blank_constantName {name : String} (h : Spaceless name) :
    ' ' ∉ (constantName name).toList :=
  fun hm => h.not_mem (by decide) (mem_of_mem_constantName hm (by decide) (by decide))

theorem Message.caseView_entries (m : Message) (depth : Nat) (o : String × Nat) :
    (m.caseView depth o.1 o.2).reading.entries = (constantName o.1 ++ "_NOT_SET", 0) ::
      (m.fields.filter (·.oneofIndex = some o.2)).map Field.case := by
  have members : m.oneofMembers o.2 = m.fields.filter (·.oneofIndex = some o.2) :=
    List.filter_congr fun f _ => by rw [Bool.eq_iff_iff, beq_iff_eq, decide_eq_true_iff]
  rw [← members, caseView, EnumDeclaration.reading, caseDeclaration, List.map_cons, List.map_map]
  rfl

theorem Message.caseView_agrees {m : Message} (oneofs : ∀ o ∈ m.oneofs, Spaceless o)
    (fields : ∀ f ∈ m.fields, Spaceless f.name) {o : String × Nat} (ho : o ∈ m.oneofs.zipIdx)
    (depth : Nat) : (m.caseView depth o.1 o.2).Agrees m depth o where
  read := by
    refine EnumDeclaration.readEnum?_text ?_ ?_ depth
    · refine Message.oneLine_caseNames (Message.oneLine_caseTexts
        (fun o h => (oneofs o h).oneLine) fun f h => (fields f h).oneLine) _ ?_
      exact List.mem_map.2 ⟨o, ho, rfl⟩
    · intro entry he
      rcases List.mem_cons.1 he with rfl | he
      · have own : o.1 ∈ m.oneofs := (List.mem_zipIdx' ho).2 ▸ List.getElem_mem _
        rw [notSetEntry, String.toList_append, List.mem_append, not_or]
        exact ⟨not_mem_blank_constantName (oneofs _ own), by decide⟩
      · obtain ⟨f, hf, rfl⟩ := List.mem_map.1 he
        exact not_mem_blank_constantName (fields f (List.mem_filter.1 hf).1)
  indent := rfl
  name := rfl
  getter := render_getter _ _
  entries := caseView_entries m depth o
  length := by
    rw [caseView_entries, List.length_cons, List.length_map, List.countP_eq_length_filter]

theorem Message.getter_caseViews (m : Message) (depth : Nat) :
    (m.caseViews depth).map (·.getter) = (m.oneofs.map m.caseGetter).map Member.render := by
  rw [← map_zipIdx_fst m.caseGetter, caseViews, List.map_map, List.map_map]
  rfl

theorem Message.casesLaidOut {s : Scope} {m : Message} {depth : Nat} {text : String}
    (h : m.text s depth = .ok text) (shown : m.isMapEntry = false) :
    m.CasesLaidOut s (m.caseViews (depth + 1)) depth text := by
  rcases Message.text_eq_ok.1 h with ⟨hm, -⟩ | ⟨-, exposed, inner, he, hi, rfl⟩
  · rw [shown] at hm
    cases hm
  refine ⟨exposed, inner, he, hi, ?_⟩
  have blocks : (m.caseViews (depth + 1)).map (fun v => "\n" ++ v.block) =
      m.caseDeclarations.map fun e => "\n" ++ e.text (depth + 1) := by
    rw [caseViews, caseDeclarations, List.map_map, List.map_map]
    rfl
  have class_ : (Declaration.classDecl m.name (m.members exposed)).lines depth =
      .blank :: blockLines depth ("export class " ++ m.name ++ " extends jspb.Message \x7b")
        ((exposed.flatMap (·.accessors)).map Member.render ++
          (m.caseViews (depth + 1)).map (·.getter) ++
          (messageMembers m.name).map Member.render) := by
    rw [getter_caseViews, Declaration.lines, members, List.map_append, List.map_append]
  have namespace_ : (Declaration.namespaceDecl m.name (m.namespaceBody exposed inner)).lines depth =
      .blank :: .code depth ("export namespace " ++ m.name ++ " \x7b") ::
        declarationLines (depth + 1) (.objectType (exposed.map (·.property)) :: inner ++
          m.enums.map fun e => .enumDecl e.declaration) ++
        declarationLines (depth + 1) (m.caseDeclarations.map .enumDecl) ++
        [.code depth "\x7d"] := by
    rw [Declaration.lines, namespaceBody, declarationLines_append]
    simp
  rw [declarationLines, declarationLines, declarationLines, List.append_nil, class_, namespace_,
    render_append, render_append, render_append, render_enumDecls, render_closing, blocks]
  simp only [String.append_assoc]

theorem Message.forall₂_caseViews {m : Message} (oneofs : ∀ o ∈ m.oneofs, Spaceless o)
    (fields : ∀ f ∈ m.fields, Spaceless f.name) (depth : Nat) :
    List.Forall₂ (CaseView.Agrees m depth) m.oneofs.zipIdx (m.caseViews depth) := by
  rw [caseViews, List.forall₂_map_right_iff, List.forall₂_same]
  exact fun o ho => caseView_agrees oneofs fields ho depth

/-- The cases of all oneofs together are the fields whose oneof there is. -/
theorem Message.perm_caseViews (m : Message) (depth : Nat) :
    ((m.caseViews depth).flatMap fun v => v.reading.entries.tail).Perm
      ((m.fields.filter fun f => f.oneofIndex.any (· < m.oneofs.length)).map Field.case) := by
  have indices : m.oneofs.zipIdx.map Prod.snd = List.range m.oneofs.length := by
    rw [List.zipIdx_map_snd, List.range_eq_range']
  have tails : (m.caseViews depth).flatMap (fun v => v.reading.entries.tail) =
      ((List.range m.oneofs.length).flatMap fun n =>
        m.fields.filter (·.oneofIndex = some n)).map Field.case := by
    rw [← indices, List.flatMap_map, List.map_flatMap, caseViews, List.flatMap_map]
    simp only [caseView_entries, List.tail_cons]
  rw [tails]
  exact (flatMap_filter_perm (·.oneofIndex) m.fields m.oneofs.length).map Field.case

theorem Enum.readEnum?_text {e : Enum} (names : ∀ u ∈ e.name :: e.values.map (·.name), Spaceless u)
    (depth : Nat) : readEnum? (e.declaration.text depth) =
      some ⟨2 * depth, e.name, e.values.map fun v => (constantName v.name, v.number.toInt)⟩ := by
  have words : ∀ entry ∈ e.declaration.entries, ' ' ∉ entry.name.toList := by
    intro entry he
    obtain ⟨v, hv, rfl⟩ := List.mem_map.1 he
    exact not_mem_blank_constantName (names _ (.tail _ (List.mem_map.2 ⟨v, hv, rfl⟩)))
  rw [EnumDeclaration.readEnum?_text (e.oneLine_names fun u hu => (names u hu).oneLine) words,
    EnumDeclaration.reading, Enum.declaration, List.map_map]
  rfl

/-- Enumerations are read back. What is written of an enum at any depth says its name and its values
in order. What is written of a message has a getter and an enumeration for each oneof, in order, and
they agree; the enumerations list each field that belongs to a oneof once, and no other. The names
that are read may have no white space. -/
theorem enumerations_read_back :
    (∀ e : Enum, (∀ u ∈ e.name :: e.values.map (·.name), Spaceless u) → ∀ depth,
      readEnum? (e.declaration.text depth) =
        some ⟨2 * depth, e.name, e.values.map fun v => (constantName v.name, v.number.toInt)⟩) ∧
    (∀ (s : Scope) (m : Message) (depth : Nat) (text : String), m.text s depth = .ok text →
      m.isMapEntry = false → (∀ u ∈ m.oneofs ++ m.fields.map (·.name), Spaceless u) →
        ∃ views, List.Forall₂ (CaseView.Agrees m (depth + 1)) m.oneofs.zipIdx views ∧
          (views.flatMap fun v => v.reading.entries.tail).Perm
            ((m.fields.filter fun f => f.oneofIndex.any (· < m.oneofs.length)).map Field.case) ∧
          m.CasesLaidOut s views depth text) := by
  refine ⟨fun e names depth => e.readEnum?_text names depth, fun s m depth text h shown names => ?_⟩
  obtain ⟨oneofs, fields⟩ := List.forall_mem_append.1 names
  rw [List.forall_mem_map] at fields
  exact ⟨m.caseViews (depth + 1), Message.forall₂_caseViews oneofs fields (depth + 1),
    m.perm_caseViews (depth + 1), Message.casesLaidOut h shown⟩

end Proto

namespace Sample

/-- An enum with a negative number and one that is there twice. -/
def mood : Enum := ⟨"Mood", [⟨"calm", 0⟩, ⟨"gloomy", -3⟩, ⟨"Sad", -3⟩]⟩

/-- A message with the members of two oneofs in turn, and fields outside of them. -/
def survey : Message :=
  { name := "Survey", isMapEntry := false,
    fields := [
      { Field.plain "yes" 1 (.scalar .bool) with oneofIndex := some 0 },
      { Field.plain "lost" 2 (.scalar .int32) with oneofIndex := some 5 },
      { Field.plain "why" 3 (.scalar .string) with oneofIndex := some 1 },
      .plain "age" 4 (.scalar .int32),
      { Field.plain "no" 5 (.scalar .bool) with oneofIndex := some 0 }],
    oneofs := ["answer", "reason"], nested := [], enums := [mood] }

def surveyFile : File :=
  { name := "survey.proto", package := none, dialect := .proto3, dependencies := [],
    messages := [survey], enums := [], extensions := [] }

end Sample

open Sample Proto in
theorem sample_enumerations_read_back :
    readEnum? (mood.declaration.text 1) =
        some ⟨2, "Mood", [("CALM", 0), ("GLOOMY", -3), ("SAD", -3)]⟩ ∧
      ∃ text answer reason,
        survey.text ⟨.ofFiles [surveyFile], surveyFile⟩ 0 = .ok text ∧
        answer.getter = "getAnswerCase(): Survey.AnswerCase;" ∧
        answer.reading.entries = [("ANSWER_NOT_SET", 0), ("YES", 1), ("NO", 5)] ∧
        reason.reading.entries = [("REASON_NOT_SET", 0), ("WHY", 3)] ∧
        survey.CasesLaidOut ⟨.ofFiles [surveyFile], surveyFile⟩ [answer, reason] 0 text := by
  refine ⟨enumerations_read_back.1 mood (by decide) 1, ?_⟩
  obtain ⟨text, h⟩ : ∃ text, survey.text ⟨.ofFiles [surveyFile], surveyFile⟩ 0 = .ok text :=
    ⟨_, rfl⟩
  obtain ⟨views, agree, -, laidOut⟩ := enumerations_read_back.2 _ survey 0 text h rfl (by decide)
  have oneofs : survey.oneofs.zipIdx = [("answer", 0), ("reason", 1)] := rfl
  rw [oneofs] at agree
  obtain ⟨answer, others, ha, rest, rfl⟩ := List.forall₂_cons_left_iff.1 agree
  obtain ⟨reason, none_, hr, last, rfl⟩ := List.forall₂_cons_left_iff.1 rest
  cases last
  have getter : answer.getter = "getAnswerCase(): Survey.AnswerCase;" := by
    rw [ha.getter, ha.name]
    rfl
  exact ⟨text, answer, reason, h, getter, ha.entries, hr.entries, laidOut⟩

end ProtoTypings
