import Mathlib.Data.List.Perm.Basic
import ProtoTypings.Proofs.FileTexts

/-!
# Proofs.Walk

The text of a file's typings, read line by line, is a walk through the file: what begins a class, a
namespace, an object type or an enumeration stands in the order of the definitions, at their depth,
and is closed in its place.

* `Message.walk`, `File.walk` — the walk.
* `File.walk_perm` — it meets every type that is shown once, and nothing else.
* `text_walks_file` — the text has this walk, nested as it should be.
-/

namespace ProtoTypings
namespace Proto

open TypeScript

/-! ## The walk -/

mutual

/-- The headings of a message at a depth: its class and its namespace, and one deeper its object
type, the nested messages, the enums and the case enumerations, in this order. -/
def Message.walk (depth : Nat) : Message → List Heading
  | ⟨name, isMapEntry, _, oneofs, nested, enums⟩ =>
    if isMapEntry then []
    else
      [⟨2 * depth, .classDecl, name⟩, ⟨2 * depth, .namespaceDecl, name⟩,
        ⟨2 * (depth + 1), .objectType, "AsObject"⟩] ++
        messageWalks (depth + 1) nested ++
        enums.map (fun e => ⟨2 * (depth + 1), .enumDecl, e.name⟩) ++
        oneofs.map fun o => ⟨2 * (depth + 1), .enumDecl, caseName o⟩

def messageWalks (depth : Nat) : List Message → List Heading
  | [] => []
  | m :: ms => m.walk depth ++ messageWalks depth ms

end

/-- The headings of a file: its messages, then its enums. -/
def File.walk (file : File) : List Heading :=
  messageWalks 0 file.messages ++ file.enums.map fun e => ⟨0, .enumDecl, e.name⟩

theorem messageWalks_eq_flatMap (depth : Nat) (ms : List Message) :
    messageWalks depth ms = ms.flatMap (·.walk depth) := by
  induction ms with
  | nil => rfl
  | cons m ms ih => rw [messageWalks, List.flatMap_cons, ih]

theorem Message.walk_of_isMapEntry {m : Message} (h : m.isMapEntry) (depth : Nat) :
    m.walk depth = [] := by
  cases m
  simp only at h
  simp [Message.walk, h]

theorem Message.walk_eq {m : Message} (h : m.isMapEntry = false) (depth : Nat) :
    m.walk depth =
      [⟨2 * depth, .classDecl, m.name⟩, ⟨2 * depth, .namespaceDecl, m.name⟩,
        ⟨2 * (depth + 1), .objectType, "AsObject"⟩] ++
        m.nested.flatMap (·.walk (depth + 1)) ++
        m.enums.map (fun e => ⟨2 * (depth + 1), .enumDecl, e.name⟩) ++
        m.oneofs.map fun o => ⟨2 * (depth + 1), .enumDecl, caseName o⟩ := by
  rw [← messageWalks_eq_flatMap]
  cases m
  simp only at h
  simp [Message.walk, h]

/-! ## The headings of the outline -/

theorem headings_block (depth : Nat) (kind : HeadingKind) (name : String) (body : List Mark) :
    headings (block depth kind name body) = ⟨2 * depth, kind, name⟩ :: headings body := by
  simp [block, headings]

theorem headings_blocks {α : Type} (depth : Nat) (name : α → String) (as : List α) :
    headings (as.flatMap fun a => block depth .enumDecl (name a) []) =
      as.map fun a => ⟨2 * depth, .enumDecl, name a⟩ := by
  induction as with
  | nil => rfl
  | cons a as ih => rw [List.flatMap_cons, headings_append, headings_block, ih]; rfl

theorem Message.headings_marks (m : Message) :
    ∀ depth, headings (m.marks depth) = m.walk depth := by
  induction m using Message.nested_induction with
  | step m ih =>
    intro depth
    cases hm : m.isMapEntry with
    | true =>
      rw [Message.marks_of_isMapEntry hm, Message.walk_of_isMapEntry hm]
      rfl
    | false =>
      have nested : headings (m.nested.flatMap (·.marks (depth + 1))) =
          m.nested.flatMap (·.walk (depth + 1)) := by
        rw [headings_flatMap]
        exact List.flatMap_congr fun n hn => ih n hn (depth + 1)
      rw [Message.marks_eq hm, Message.walk_eq hm, headings_append, headings_block, headings_block,
        headings_append, headings_append, headings_append, headings_block, nested,
        headings_blocks, headings_blocks]
      rfl

theorem File.headings_marks (file : File) : headings file.marks = file.walk := by
  rw [File.marks, headings_append, headings_flatMap, headings_blocks, File.walk,
    messageWalks_eq_flatMap]
  congr 1
  exact List.flatMap_congr fun m _ => m.headings_marks 0

/-! ## What the walk meets -/

/-- The headings that a type is declared by, those of the types nested in it left out. -/
def TypeDefinition.headings (depth : Nat) : TypeDefinition → List Heading
  | .message m =>
    [⟨2 * depth, .classDecl, m.name⟩, ⟨2 * depth, .namespaceDecl, m.name⟩,
      ⟨2 * (depth + 1), .objectType, "AsObject"⟩] ++
      m.oneofs.map fun o => ⟨2 * (depth + 1), .enumDecl, caseName o⟩
  | .enumeration e => [⟨2 * depth, .enumDecl, e.name⟩]

/-- The headings of a type that stands in messages whose outermost one is at a depth. -/
def TypeDecl.headings (depth : Nat) (t : TypeDecl) : List Heading :=
  t.definition.headings (depth + t.outer.length)

theorem TypeDecl.headings_inside (m : Message) (depth : Nat) (t : TypeDecl) :
    (t.inside m).headings depth = t.headings (depth + 1) := by
  simp only [TypeDecl.headings, definition_inside, outer_inside, List.length_cons]
  congr 1
  omega

def shownHeadings (depth : Nat) (ts : List TypeDecl) : List Heading :=
  (ts.filter (·.isShown)).flatMap (·.headings depth)

theorem shownHeadings_append (depth : Nat) (ts us : List TypeDecl) :
    shownHeadings depth (ts ++ us) = shownHeadings depth ts ++ shownHeadings depth us := by
  rw [shownHeadings, List.filter_append, List.flatMap_append]
  rfl

theorem shownHeadings_flatMap {α : Type} (depth : Nat) (f : α → List TypeDecl) (as : List α) :
    shownHeadings depth (as.flatMap f) = as.flatMap fun a => shownHeadings depth (f a) := by
  induction as with
  | nil => rfl
  | cons a as ih => rw [List.flatMap_cons, shownHeadings_append, ih, List.flatMap_cons]

/-- Around a message that is shown, the types in it are shown as before and stand one deeper. -/
theorem shownHeadings_inside {m : Message} (hm : m.isMapEntry = false) (depth : Nat)
    (ts : List TypeDecl) :
    shownHeadings depth (ts.map (.inside m)) = shownHeadings (depth + 1) ts := by
  have shown : (fun t : TypeDecl => (t.inside m).isShown) = (·.isShown) := by
    funext t
    simp [hm]
  rw [shownHeadings, List.filter_map, List.flatMap_map]
  simp only [Function.comp_def, shown, TypeDecl.headings_inside]
  rfl

theorem shownHeadings_enums (depth : Nat) {outer : List Message}
    (h : outer.any (·.isMapEntry) = false) (es : List Enum) :
    shownHeadings depth (es.map fun e => ⟨outer, .enumeration e⟩) =
      es.map fun e => ⟨2 * (depth + outer.length), .enumDecl, e.name⟩ := by
  have shown : ∀ t ∈ es.map fun e => TypeDecl.mk outer (.enumeration e), t.isShown := by
    intro t ht
    obtain ⟨e, -, rfl⟩ := List.mem_map.1 ht
    simp [TypeDecl.isShown, TypeDefinition.isMapEntry, h]
  rw [shownHeadings, List.filter_eq_self.2 shown, List.flatMap_map, List.map_eq_flatMap]
  rfl

theorem Message.shownHeadings_of_isMapEntry {m : Message} (hm : m.isMapEntry) (depth : Nat) :
    shownHeadings depth m.typeDecls = [] := by
  have none_ : m.typeDecls.filter (·.isShown) = [] := by
    rw [List.filter_eq_nil_iff]
    intro t ht
    rcases Message.mem_typeDecls.1 ht with ⟨n, hn, u, hu, rfl⟩ | ⟨e, he, rfl⟩ | rfl
    · simp [hm]
    · simp [TypeDecl.isShown, hm]
    · simp [TypeDecl.isShown, TypeDefinition.isMapEntry, hm]
  rw [shownHeadings, none_]
  rfl

theorem Message.walk_perm (m : Message) :
    ∀ depth, (m.walk depth).Perm (shownHeadings depth m.typeDecls) := by
  induction m using Message.nested_induction with
  | step m ih =>
    intro depth
    cases hm : m.isMapEntry with
    | true =>
      rw [Message.walk_of_isMapEntry hm, Message.shownHeadings_of_isMapEntry hm]
    | false =>
      have nested : (m.nested.flatMap (·.walk (depth + 1))).Perm
          (shownHeadings (depth + 1) (m.nested.flatMap (·.typeDecls))) := by
        rw [shownHeadings_flatMap]
        exact .flatMap_left _ fun n hn => ih n hn (depth + 1)
      have enums : shownHeadings depth (m.enums.map fun e => ⟨[m], .enumeration e⟩) =
          m.enums.map fun e => ⟨2 * (depth + 1), .enumDecl, e.name⟩ :=
        shownHeadings_enums depth (by simp [hm]) m.enums
      have own : shownHeadings depth [⟨[], .message m⟩] =
          TypeDefinition.headings depth (.message m) := by
        simp [shownHeadings, TypeDecl.isShown, TypeDefinition.isMapEntry, hm, TypeDecl.headings]
      -- The walk meets a message before what is in it, its declared types list it after.
      rw [Message.typeDecls_eq, shownHeadings_append, shownHeadings_append,
        shownHeadings_inside hm, enums, own, Message.walk_eq hm]
      refine (List.Perm.append_right _ (List.Perm.append_right _ (nested.append_left _))).trans ?_
      rw [TypeDefinition.headings, ← List.append_assoc]
      refine List.Perm.append_right _ ?_
      rw [List.append_assoc]
      exact List.perm_append_comm

/-- The walk of a file meets every type that is shown once, and nothing else. -/
theorem File.walk_perm (file : File) : file.walk.Perm (shownHeadings 0 file.typeDecls) := by
  have messages : (messageWalks 0 file.messages).Perm
      (shownHeadings 0 (file.messages.flatMap (·.typeDecls))) := by
    rw [messageWalks_eq_flatMap, shownHeadings_flatMap]
    exact .flatMap_left _ fun m _ => m.walk_perm 0
  have enums : shownHeadings 0 (file.enums.map fun e => ⟨[], .enumeration e⟩) =
      file.enums.map fun e => ⟨0, .enumDecl, e.name⟩ :=
    shownHeadings_enums 0 rfl file.enums
  rw [File.walk, File.typeDecls, shownHeadings_append, enums]
  exact messages.append_right _

/-! ## The text -/

/-- If no text in the typings of a file has white space, the outline of their text is the one of the
file. -/
theorem File.marks_text {settings : Settings} {symbols : SymbolTable} {file : File} {text : String}
    (h : file.text settings symbols = .ok text) (runtime : Spaceless settings.runtimeModule)
    (texts : ∀ u ∈ file.texts symbols, Spaceless u) : TypeScript.marks text = file.marks := by
  obtain ⟨m, hm, rfl⟩ := Check.map_eq_ok.1 h
  have written := File.oneLine_writtenTexts runtime.oneLine fun u hu => (texts u hu).oneLine
  rw [marks_render_of_oneLine (File.oneLine_typings hm written)]
  refine File.lineMarks_typings hm fun t ht shown => ?_
  have name : t.definition.name ∈ t.definition.texts symbols := by
    cases t.definition <;> simp [TypeDefinition.texts, TypeDefinition.name]
  exact (texts _ (File.mem_texts.2 (.inr (.inr (.inr (.inr ⟨t, ht, shown, name⟩)))))).not_mem
    (by decide)

/-- If no text in the typings of a file has white space, the headings in their text are the walk
through the file, every heading is closed at its own depth after all that is nested in it, and each
type that is shown is declared once, with nothing else declared. -/
theorem text_walks_file {settings : Settings} {symbols : SymbolTable} {file : File} {text : String}
    (h : file.text settings symbols = .ok text) (runtime : Spaceless settings.runtimeModule)
    (texts : ∀ u ∈ file.texts symbols, Spaceless u) :
    headings (marks text) = file.walk ∧ Nested 0 (marks text) ∧
      (headings (marks text)).Perm (shownHeadings 0 file.typeDecls) := by
  rw [File.marks_text h runtime texts, File.headings_marks]
  exact ⟨rfl, file.nested_marks, file.walk_perm⟩

end Proto

namespace Sample

open Proto

/-- A message with a map field, a oneof and an enum. -/
def parcel : Message :=
  { name := "Parcel", isMapEntry := false,
    fields := [
      { Field.plain "tags" 1 (.message "Parcel.TagsEntry") with label := .repeated },
      { Field.plain "box" 2 (.scalar .bytes) with oneofIndex := some 0 }],
    oneofs := ["content"], nested := [.forMap "TagsEntry" (.scalar .string) (.enumeration "Size")],
    enums := [⟨"Color", [⟨"RED", 0⟩]⟩] }

def parcelFile : File :=
  { name := "parcel.proto", package := none, dialect := .proto3, dependencies := [],
    messages := [parcel], enums := [⟨"Size", [⟨"SMALL", 0⟩]⟩], extensions := [] }

end Sample

open TypeScript Proto Sample in
theorem sample_text_walks_file : ∃ text,
    parcelFile.text {} (.ofFiles [parcelFile]) = .ok text ∧
      headings (marks text) =
        [⟨0, .classDecl, "Parcel"⟩, ⟨0, .namespaceDecl, "Parcel"⟩, ⟨2, .objectType, "AsObject"⟩,
          ⟨2, .enumDecl, "Color"⟩, ⟨2, .enumDecl, "ContentCase"⟩, ⟨0, .enumDecl, "Size"⟩] ∧
      Nested 0 (marks text) := by
  obtain ⟨text, h⟩ : ∃ text, parcelFile.text {} (.ofFiles [parcelFile]) = .ok text := ⟨_, rfl⟩
  have walk := text_walks_file h (by decide) (by decide)
  refine ⟨text, h, ?_, walk.2.1⟩
  rw [walk.1]
  decide

end ProtoTypings
