import Mathlib.Logic.Function.Iterate
import ProtoTypings.Proofs.FileTexts

/-!
# Proofs.Indentation

Declarations that are moved inwards are shifted and otherwise the same: one level deeper, every line
that is not empty begins with two more spaces.

* `shifted` — a text with two spaces before every line that is not empty.
* `Declaration.lines_deeper` — one level deeper, a declaration has the same lines one deeper.
* `render_deeper` — the text of lines one deeper is the text of the lines, shifted.
* `Inside` — a text inside namespaces of another.
* `text_shifts` — messages and enumerations at a deeper level, and messages inside others.
-/

namespace ProtoTypings
namespace TypeScript

/-! ## Lines -/

/-- A line one level deeper. -/
def Line.deeper : Line → Line
  | .blank => .blank
  | .code depth text => .code (depth + 1) text

/-- A line that is blank or has more than spaces in it. -/
def Line.IsVisible : Line → Prop
  | .blank => True
  | .code _ text => ∃ c ∈ text.toList, c ≠ ' '

theorem blockLines_deeper (depth : Nat) (opening : String) (texts : List String) :
    blockLines (depth + 1) opening texts = (blockLines depth opening texts).map Line.deeper := by
  simp [blockLines, Line.deeper, Function.comp_def]

mutual

theorem Declaration.lines_deeper (depth : Nat) : ∀ d : Declaration,
    d.lines (depth + 1) = (d.lines depth).map Line.deeper
  | .classDecl name members => by
    rw [Declaration.lines, Declaration.lines, blockLines_deeper, List.map_cons]
    rfl
  | .namespaceDecl name body => by
    rw [Declaration.lines, Declaration.lines, declarationLines_deeper (depth + 1) body]
    simp [Line.deeper]
  | .objectType properties => by
    rw [Declaration.lines, Declaration.lines, blockLines_deeper]
  | .enumDecl e => by
    rw [Declaration.lines, Declaration.lines, EnumDeclaration.lines, EnumDeclaration.lines,
      blockLines_deeper, List.map_cons]
    rfl
  | .constDecl name type => rfl

/-- One level deeper, declarations have the same lines one deeper. -/
theorem declarationLines_deeper (depth : Nat) : ∀ ds : List Declaration,
    declarationLines (depth + 1) ds = (declarationLines depth ds).map Line.deeper
  | [] => rfl
  | d :: ds => by
    rw [declarationLines, declarationLines, Declaration.lines_deeper depth d,
      declarationLines_deeper depth ds, List.map_append]

end

theorem EnumDeclaration.lines_deeper (depth : Nat) (e : EnumDeclaration) :
    e.lines (depth + 1) = (e.lines depth).map Line.deeper :=
  blockLines_deeper depth _ _

/-! ## Visible lines -/

/-- The characters that the lines of declarations end with. -/
def closings : List Char := ['\x7b', '\x7d', ';', ',']

theorem isVisible_of_getLast? {depth : Nat} {text : String} {c : Char}
    (h : text.toList.getLast? = some c) (hc : c ∈ closings) : (Line.code depth text).IsVisible := by
  refine ⟨c, List.mem_of_getLast? h, ?_⟩
  rintro rfl
  exact absurd hc (by decide)

theorem isVisible_blockLines {depth : Nat} {opening : String} {texts : List String}
    (ho : opening.toList.getLast? = some '\x7b')
    (ht : ∀ t ∈ texts, ∃ c ∈ closings, t.toList.getLast? = some c) :
    ∀ l ∈ blockLines depth opening texts, l.IsVisible := by
  intro l hl
  simp only [blockLines, List.cons_append, List.mem_cons, List.mem_append, List.mem_map,
    List.not_mem_nil, or_false] at hl
  rcases hl with rfl | ⟨t, hm, rfl⟩ | rfl
  · exact isVisible_of_getLast? ho (by decide)
  · obtain ⟨c, hc, last⟩ := ht t hm
    exact isVisible_of_getLast? last hc
  · exact isVisible_of_getLast? rfl (by decide)

theorem getLast?_append (start ending : String) {c : Char} (h : ending.toList.getLast? = some c) :
    (start ++ ending).toList.getLast? = some c := by
  rw [String.toList_append, List.getLast?_append, h]
  rfl

theorem Member.getLast?_render (m : Member) : m.render.toList.getLast? = some ';' := by
  cases m <;> exact getLast?_append _ ";" rfl

theorem Property.getLast?_render (p : Property) : p.render.toList.getLast? = some ',' :=
  getLast?_append _ "," rfl

theorem EnumEntry.getLast?_render (e : EnumEntry) : e.render.toList.getLast? = some ',' :=
  getLast?_append _ "," rfl

theorem EnumDeclaration.isVisible_lines (depth : Nat) (e : EnumDeclaration) :
    ∀ l ∈ e.lines depth, l.IsVisible := by
  refine isVisible_blockLines (getLast?_append _ " \x7b" rfl) fun t ht => ?_
  obtain ⟨entry, -, rfl⟩ := List.mem_map.1 ht
  exact ⟨',', by decide, entry.getLast?_render⟩

mutual

theorem Declaration.isVisible_lines (depth : Nat) : ∀ d : Declaration,
    ∀ l ∈ d.lines depth, l.IsVisible
  | .classDecl name members => by
    rw [Declaration.lines, List.forall_mem_cons]
    refine ⟨trivial, isVisible_blockLines (getLast?_append _ " extends jspb.Message \x7b" rfl)
      fun t ht => ?_⟩
    obtain ⟨m, -, rfl⟩ := List.mem_map.1 ht
    exact ⟨';', by decide, m.getLast?_render⟩
  | .namespaceDecl name body => by
    rw [Declaration.lines, List.cons_append, List.cons_append, List.forall_mem_cons,
      List.forall_mem_cons, List.forall_mem_append, List.forall_mem_singleton]
    exact ⟨trivial, isVisible_of_getLast? (getLast?_append _ " \x7b" rfl) (by decide),
      isVisible_declarationLines (depth + 1) body, isVisible_of_getLast? rfl (by decide)⟩
  | .objectType properties => by
    rw [Declaration.lines]
    refine isVisible_blockLines (getLast?_append _ " = \x7b" rfl) fun t ht => ?_
    obtain ⟨p, -, rfl⟩ := List.mem_map.1 ht
    exact ⟨',', by decide, p.getLast?_render⟩
  | .enumDecl e => by
    rw [Declaration.lines, List.forall_mem_cons]
    exact ⟨trivial, e.isVisible_lines depth⟩
  | .constDecl name type => by
    rw [Declaration.lines, List.forall_mem_cons, List.forall_mem_singleton]
    exact ⟨trivial, isVisible_of_getLast? (getLast?_append _ ";" rfl) (by decide)⟩

/-- No line of declarations is made of spaces alone. -/
theorem isVisible_declarationLines (depth : Nat) : ∀ ds : List Declaration,
    ∀ l ∈ declarationLines depth ds, l.IsVisible
  | [] => by simp [declarationLines]
  | d :: ds => by
    rw [declarationLines, List.forall_mem_append]
    exact ⟨Declaration.isVisible_lines depth d, isVisible_declarationLines depth ds⟩

end

/-! ## Texts -/

/-- A line with two spaces before it, or the empty line. -/
def shiftedLine : List Char → List Char
  | [] => []
  | c :: cs => ' ' :: ' ' :: c :: cs

/-- A text with two spaces before every line that is not empty. -/
def shifted (text : String) : String :=
  String.ofList (['\n'].intercalate ((Text.splitOn '\n' text.toList).map shiftedLine))

theorem Line.chars_deeper {l : Line} (h : l.IsVisible) : l.deeper.chars = shiftedLine l.chars := by
  cases l with
  | blank => rfl
  | code depth text =>
    obtain ⟨c, hc, -⟩ := h
    have ne : (Line.code depth text).chars ≠ [] :=
      List.append_ne_nil_of_right_ne_nil _ (List.ne_nil_of_mem hc)
    obtain ⟨d, ds, e⟩ := List.exists_cons_of_ne_nil ne
    have two : 2 * (depth + 1) = 2 * depth + 1 + 1 := by omega
    rw [e, shiftedLine, ← e, deeper, chars, two, List.replicate_succ, List.replicate_succ]
    rfl

/-- The text of lines one level deeper is the text of the lines, shifted. -/
theorem render_deeper {ls : List Line} (oneLine : OneLines ls) (visible : ∀ l ∈ ls, l.IsVisible) :
    render (ls.map Line.deeper) = shifted (render ls) := by
  have chars : (ls.map Line.deeper).map Line.chars = (ls.map Line.chars).map shiftedLine := by
    rw [List.map_map, List.map_map]
    exact List.map_congr_left fun l hl => Line.chars_deeper (visible l hl)
  have oneLine' : OneLines (ls.map Line.deeper) := by
    intro l' hl'
    obtain ⟨l, hl, rfl⟩ := List.mem_map.1 hl'
    cases l with
    | blank => exact List.not_mem_nil
    | code depth text =>
      have := oneLine _ hl
      simpa [Line.deeper, Line.chars] using this
  rw [shifted, splitOn_render oneLine, List.map_append, ← chars, List.map_singleton, shiftedLine,
    ← splitOn_render oneLine', Text.intercalate_splitOn, String.ofList_toList]

/-- Lines that are visible and without line breaks leave no line of spaces in their text. -/
theorem visible_of_render {ls : List Line} (oneLine : OneLines ls)
    (visible : ∀ l ∈ ls, l.IsVisible) :
    ∀ line ∈ Text.splitOn '\n' (render ls).toList, line ≠ [] → ∃ c ∈ line, c ≠ ' ' := by
  intro line hl ne
  rw [splitOn_render oneLine, List.mem_append, List.mem_singleton, List.mem_map] at hl
  rcases hl with ⟨l, hl, rfl⟩ | rfl
  · cases l with
    | blank => exact absurd rfl ne
    | code depth text =>
      obtain ⟨c, hc, other⟩ := visible _ hl
      exact ⟨c, List.mem_append_right _ hc, other⟩
  · exact absurd rfl ne

/-- The text of an enumeration at a depth. -/
def EnumDeclaration.text (depth : Nat) (e : EnumDeclaration) : String := render (e.lines depth)

theorem EnumDeclaration.text_deeper {e : EnumDeclaration} (h : ∀ u ∈ e.names, OneLine u)
    (depth : Nat) : e.text (depth + 1) = shifted (e.text depth) := by
  rw [text, e.lines_deeper, render_deeper (e.oneLines h depth) (e.isVisible_lines depth)]
  rfl

/-! ## Namespaces -/

/-- A text that stands inside namespaces of another, outermost first, the first of them at a
depth. -/
def Inside (inner : String) : Nat → List String → String → Prop
  | _, [], text => ∃ before after, text = before ++ inner ++ after
  | depth, name :: names, text => ∃ before body after,
      text = before ++ (indentation depth ++ "export namespace " ++ name ++ " \x7b\n" ++ body ++
        indentation depth ++ "\x7d\n") ++ after ∧
      Inside inner (depth + 1) names body

theorem Inside.append {inner text : String} {depth : Nat} {names : List String}
    (h : Inside inner depth names text) (before after : String) :
    Inside inner depth names (before ++ text ++ after) := by
  cases names with
  | nil =>
    obtain ⟨front, back, rfl⟩ := h
    exact ⟨before ++ front, back ++ after, by simp [String.append_assoc]⟩
  | cons name names =>
    obtain ⟨front, body, back, rfl, h⟩ := h
    exact ⟨before ++ front, body, back ++ after, by simp [String.append_assoc], h⟩

theorem render_cons (l : Line) (ls : List Line) : render (l :: ls) = l.render ++ render ls := by
  simp [render]

theorem render_closing (depth : Nat) :
    render [.code depth "\x7d"] = indentation depth ++ "\x7d\n" := by
  simp [render, Line.render, String.append_assoc]

theorem inside_namespace {inner : String} {depth : Nat} {names : List String} (name : String)
    {body : List Declaration}
    (h : Inside inner (depth + 1) names (render (declarationLines (depth + 1) body))) :
    Inside inner depth (name :: names)
      (render ((Declaration.namespaceDecl name body).lines depth)) := by
  refine ⟨"\n", render (declarationLines (depth + 1) body), "", ?_, h⟩
  rw [Declaration.lines, List.cons_append, List.cons_append, render_cons, render_cons,
    render_append, render_closing]
  simp [Line.render, String.append_assoc]

theorem Inside.among {inner : String} {depth : Nat} {names : List String}
    {own ds : List Declaration} (among : own <:+: ds)
    (h : Inside inner depth names (render (declarationLines depth own))) :
    Inside inner depth names (render (declarationLines depth ds)) := by
  obtain ⟨before, after, rfl⟩ := among
  rw [declarationLines_append, declarationLines_append, render_append, render_append]
  exact h.append _ _

end TypeScript

open TypeScript

namespace Proto

/-- The text of a message at a depth: its class, and its namespace with all that is in it. -/
def Message.text (s : Scope) (depth : Nat) (m : Message) : Except ReferenceError String :=
  (m.declarations s).map fun ds => render (declarationLines depth ds)

/-- A text that is the class of a message and its namespace, where the fields are exposed as given
and the nested messages are declared as given. -/
structure Message.WrittenAs (s : Scope) (m : Message) (exposed : List ExposedField)
    (inner : List Declaration) (depth : Nat) (text : String) : Prop where
  exposes : each s.expose m.fields = .ok exposed
  nests : messageDeclarations s m.nested = .ok inner
  text : text = render (declarationLines depth [.classDecl m.name (m.members exposed),
    .namespaceDecl m.name (m.namespaceBody exposed inner)])

theorem Message.text_eq_ok {s : Scope} {m : Message} {depth : Nat} {text : String} :
    m.text s depth = .ok text ↔ (m.isMapEntry ∧ text = "") ∨
      (m.isMapEntry = false ∧ ∃ exposed inner, m.WrittenAs s exposed inner depth text) := by
  rw [Message.text, Check.map_eq_ok]
  constructor
  · rintro ⟨ds, hds, rfl⟩
    rcases Message.declarations_eq_ok.1 hds with ⟨hm, rfl⟩ | ⟨hm, exposed, inner, he, hi, rfl⟩
    · exact .inl ⟨hm, rfl⟩
    · exact .inr ⟨hm, exposed, inner, he, hi, rfl⟩
  · rintro (⟨hm, rfl⟩ | ⟨hm, exposed, inner, he, hi, rfl⟩)
    · exact ⟨[], Message.declarations_eq_ok.2 (.inl ⟨hm, rfl⟩), rfl⟩
    · exact ⟨_, Message.declarations_eq_ok.2 (.inr ⟨hm, exposed, inner, he, hi, rfl⟩), rfl⟩

/-- One level deeper, the text of a message is shifted. -/
theorem Message.text_deeper {s : Scope} {m : Message} (names : m.PrintsOneLine s) (depth : Nat) :
    m.text s (depth + 1) = (m.text s depth).map shifted := by
  unfold Message.text
  cases h : m.declarations s with
  | error e => rfl
  | ok ds =>
    have oneLine : OneLines (declarationLines depth ds) := m.oneLines_declarations h names
    have lines := render_deeper oneLine (isVisible_declarationLines depth ds)
    simp only [Except.map, declarationLines_deeper, lines]

/-- The text of a message at a depth is its text at the top, shifted as often. -/
theorem Message.text_eq {s : Scope} {m : Message} (names : m.PrintsOneLine s) (depth : Nat) :
    m.text s depth = (m.text s 0).map shifted^[depth] := by
  induction depth with
  | zero => cases m.text s 0 <;> rfl
  | succ depth ih =>
    rw [Message.text_deeper names, ih, Function.iterate_succ']
    cases m.text s 0 <;> rfl

/-- A message that is shown stands, in the text of a message around it, inside the namespaces of all
messages around it. -/
theorem Message.inside {s : Scope} (m : Message) : ∀ {outer : List Message} {k : Message},
    ⟨outer, .message k⟩ ∈ m.typeDecls → (TypeDecl.mk outer (.message k)).isShown →
    ∀ {ds}, m.declarations s = .ok ds → ∃ own, k.declarations s = .ok own ∧ ∀ depth,
      Inside (render (declarationLines (depth + outer.length) own)) depth (outer.map (·.name))
        (render (declarationLines depth ds)) := by
  induction m using Message.nested_induction with
  | step m ih =>
    intro outer k ht shown ds h
    rcases Message.mem_typeDecls.1 ht with ⟨n, hn, u, hu, e⟩ | ⟨e, -, e'⟩ | e
    · rw [e, TypeDecl.isShown_inside, Bool.and_eq_true, Bool.not_eq_true'] at shown
      obtain ⟨around, definition⟩ := u
      cases e
      rcases Message.declarations_eq_ok.1 h with ⟨hm, -⟩ | ⟨-, exposed, inner, -, hi, rfl⟩
      · rw [shown.1] at hm
        cases hm
      obtain ⟨nested, hnested, among⟩ := exists_declarations hi hn
      obtain ⟨own, hown, inside⟩ := ih n hn hu shown.2 hnested
      refine ⟨own, hown, fun depth => ?_⟩
      have deep : depth + (m :: around).length = depth + 1 + around.length := by
        rw [List.length_cons]
        omega
      rw [deep, List.map_cons]
      have body : nested <:+: m.namespaceBody exposed inner :=
        among.trans ⟨[.objectType (exposed.map (·.property))],
          m.enums.map (fun e => .enumDecl e.declaration) ++ m.caseDeclarations.map .enumDecl,
          by simp [Message.namespaceBody]⟩
      have namespace_ := inside_namespace m.name ((inside (depth + 1)).among body)
      have whole := namespace_.append
        (render ((Declaration.classDecl m.name (m.members exposed)).lines depth)) ""
      rw [String.append_empty, ← render_append] at whole
      simpa [declarationLines] using whole
    · cases e'
    · cases e
      exact ⟨ds, h, fun depth => ⟨"", "", by simp⟩⟩

/-- A message that is shown stands, in the text of a message around it, inside the namespaces of all
messages around it, with the text that it has at the top, shifted to where it stands. -/
theorem Message.inside_text {s : Scope} {m k : Message} {outer : List Message} {depth : Nat}
    {text : String} (h : m.text s depth = .ok text) (ht : ⟨outer, .message k⟩ ∈ m.typeDecls)
    (shown : (TypeDecl.mk outer (.message k)).isShown) (names : k.PrintsOneLine s) :
    ∃ own, k.text s 0 = .ok own ∧
      Inside (shifted^[depth + outer.length] own) depth (outer.map (·.name)) text := by
  obtain ⟨ds, hds, rfl⟩ := Check.map_eq_ok.1 h
  obtain ⟨ownDecls, hown, inside⟩ := m.inside ht shown hds
  have placed : k.text s (depth + outer.length) =
      .ok (render (declarationLines (depth + outer.length) ownDecls)) :=
    Check.map_eq_ok.2 ⟨ownDecls, hown, rfl⟩
  rw [Message.text_eq names] at placed
  obtain ⟨own, top, e⟩ := Check.map_eq_ok.1 placed
  exact ⟨own, top, e ▸ inside depth⟩

/-- So it does in the text of its file. -/
theorem File.inside_text {settings : Settings} {symbols : SymbolTable} {file : File} {text : String}
    (h : file.text settings symbols = .ok text) {outer : List Message} {m : Message}
    (ht : ⟨outer, .message m⟩ ∈ file.typeDecls)
    (shown : (TypeDecl.mk outer (.message m)).isShown) (names : m.PrintsOneLine ⟨symbols, file⟩) :
    ∃ own, m.text ⟨symbols, file⟩ 0 = .ok own ∧
      Inside (shifted^[outer.length] own) 0 (outer.map (·.name)) text := by
  obtain ⟨module, hm, rfl⟩ := Check.map_eq_ok.1 h
  obtain ⟨body, hb, rfl⟩ := Check.map_eq_ok.1 hm
  obtain ⟨messages, extensions, hmessages, -, rfl⟩ := File.declarations_eq_ok.1 hb
  rcases List.mem_append.1 ht with ht | ht
  · obtain ⟨top, htop, ht⟩ := List.mem_flatMap.1 ht
    obtain ⟨ds, hds, among⟩ := exists_declarations hmessages htop
    have topText : top.text ⟨symbols, file⟩ 0 = .ok (render (declarationLines 0 ds)) :=
      Check.map_eq_ok.2 ⟨ds, hds, rfl⟩
    obtain ⟨own, hown, inside⟩ := Message.inside_text topText ht shown names
    rw [Nat.zero_add] at inside
    refine ⟨own, hown, ?_⟩
    have all : ds <:+: messages ++ extensions ++
        file.enums.map fun e => .enumDecl e.declaration := by
      rw [List.append_assoc]
      exact among.trans (List.prefix_append _ _).isInfix
    rw [Module.lines, render_append, render_append]
    exact (inside.among all).append _ _
  · obtain ⟨e, -, e'⟩ := List.mem_map.1 ht
    cases e'

/-- Moving inwards shifts. A message whose names have no line breaks fails at every level alike, or
its text one level deeper is its text, shifted; no line of it is made of spaces alone. So it is with
the enumerations of enums and of the cases of oneofs. In the text of a message or of a file the
messages nested in it stand inside the namespaces of the messages around them, and what stands there
is the text that each has at the top, shifted once for each level. -/
theorem text_shifts :
    (∀ (s : Scope) (m : Message), m.PrintsOneLine s → ∀ depth,
      m.text s (depth + 1) = (m.text s depth).map shifted ∧
      ∀ text, m.text s depth = .ok text →
        ∀ line ∈ Text.splitOn '\n' text.toList, line ≠ [] → ∃ c ∈ line, c ≠ ' ') ∧
    (∀ e : EnumDeclaration, (∀ u ∈ e.names, OneLine u) → ∀ depth,
      e.text (depth + 1) = shifted (e.text depth)) ∧
    (∀ (s : Scope) (m : Message) (depth : Nat) (text : String), m.text s depth = .ok text →
      ∀ outer k, ⟨outer, .message k⟩ ∈ m.typeDecls →
      (TypeDecl.mk outer (.message k)).isShown → k.PrintsOneLine s →
        ∃ own, k.text s 0 = .ok own ∧
          Inside (shifted^[depth + outer.length] own) depth (outer.map (·.name)) text) ∧
    (∀ (settings : Settings) (symbols : SymbolTable) (file : File) (text : String),
      file.text settings symbols = .ok text → ∀ outer k,
      ⟨outer, .message k⟩ ∈ file.typeDecls → (TypeDecl.mk outer (.message k)).isShown →
      k.PrintsOneLine ⟨symbols, file⟩ →
        ∃ own, k.text ⟨symbols, file⟩ 0 = .ok own ∧
          Inside (shifted^[outer.length] own) 0 (outer.map (·.name)) text) := by
  refine ⟨fun s m names depth => ⟨Message.text_deeper names depth, fun text h => ?_⟩,
    fun e names depth => e.text_deeper names depth,
    fun _ _ _ _ h _ _ ht shown names => Message.inside_text h ht shown names,
    fun _ _ _ _ h _ _ ht shown names => File.inside_text h ht shown names⟩
  obtain ⟨ds, hds, rfl⟩ := Check.map_eq_ok.1 h
  exact visible_of_render (m.oneLines_declarations hds names) (isVisible_declarationLines depth ds)

end Proto

namespace Sample

open Proto

def drawer : Message :=
  { name := "Drawer", isMapEntry := false, fields := [.plain "width" 1 (.scalar .int32)],
    oneofs := [], nested := [], enums := [] }

/-- A message inside another one. -/
def cabinet : Message :=
  { name := "Cabinet", isMapEntry := false,
    fields := [{ Field.plain "drawers" 1 (.message "Cabinet.Drawer") with label := .repeated }],
    oneofs := [], nested := [drawer], enums := [] }

def cabinetFile : File :=
  { name := "cabinet.proto", package := none, dialect := .proto3, dependencies := [],
    messages := [cabinet], enums := [], extensions := [] }

end Sample

open Proto Sample in
theorem sample_text_shifts : ∃ text own,
    cabinetFile.text {} (.ofFiles [cabinetFile]) = .ok text ∧
      drawer.text ⟨.ofFiles [cabinetFile], cabinetFile⟩ 0 = .ok own ∧
      Inside (shifted own) 0 ["Cabinet"] text := by
  obtain ⟨text, h⟩ : ∃ text, cabinetFile.text {} (.ofFiles [cabinetFile]) = .ok text := ⟨_, rfl⟩
  have names : drawer.PrintsOneLine ⟨.ofFiles [cabinetFile], cabinetFile⟩ := by
    unfold Message.PrintsOneLine TypeDefinition.PrintsOneLine
    decide
  have nested : ⟨[cabinet], .message drawer⟩ ∈ cabinetFile.typeDecls := .head _
  obtain ⟨own, top, inside⟩ :=
    text_shifts.2.2.2 {} _ cabinetFile text h [cabinet] drawer nested (by decide) names
  exact ⟨text, own, h, top, inside⟩

end ProtoTypings
