import ProtoTypings.Proofs.Splitting
import ProtoTypings.TypeScript.Layout

/-!
# Proofs.Outline

The outline of a text of typings, read off its lines: which lines begin a class, a namespace, an
object type or an enumeration, and which are a closing brace.

* `marks` — the outline of a text; `lineMarks` — that of lines before they are joined.
* `Nested` — every heading is closed at its own depth, after all that is nested in it.
* `Declares` — a heading inside exactly the given namespaces.
* `marks_render` — the outline of a text, from the lines that were joined to it.
* `marks_render_of_oneLine` — lines without line breaks of their own keep their outline in the text.
-/

namespace ProtoTypings

namespace TypeScript

inductive HeadingKind where
  | classDecl
  | namespaceDecl
  | objectType
  | enumDecl
deriving Repr, DecidableEq

/-- The beginning of a declaration: the spaces in front of it, its kind and its name. -/
structure Heading where
  indent : Nat
  kind : HeadingKind
  name : String
deriving Repr, DecidableEq

/-- What a line does to the nesting of declarations. -/
inductive Mark where
  | opens (heading : Heading)
  | closes (indent : Nat)
deriving Repr, DecidableEq

/-! ## Reading lines -/

def firstWord (s : List Char) : String := String.ofList (s.takeWhile (· != ' '))

/-- The kind and the name of the declaration that a text begins. -/
def headingOf? (s : List Char) : Option (HeadingKind × String) :=
  ((Text.dropPrefix? "export class ".toList s).map fun rest => (.classDecl, firstWord rest)).or <|
  ((Text.dropPrefix? "export namespace ".toList s).map
    fun rest => (.namespaceDecl, firstWord rest)).or <|
  ((Text.dropPrefix? "export type AsObject".toList s).map fun _ => (.objectType, "AsObject")).or <|
  (Text.dropPrefix? "export enum ".toList s).map fun rest => (.enumDecl, firstWord rest)

/-- The mark of a line, if it has one. -/
def Mark.ofLine? (line : List Char) : Option Mark :=
  let indent := (line.takeWhile (· == ' ')).length
  let text := line.dropWhile (· == ' ')
  if text = ['\x7d'] then some (.closes indent)
  else (headingOf? text).map fun (kind, name) => .opens { indent, kind, name }

/-- The outline of a text. -/
def marks (text : String) : List Mark :=
  (Text.splitOn '\n' text.toList).filterMap Mark.ofLine?

/-- A line as it is written, without its line break. -/
def Line.chars : Line → List Char
  | .blank => []
  | .code depth text => List.replicate (2 * depth) ' ' ++ text.toList

def lineMarks (ls : List Line) : List Mark := ls.filterMap fun l => Mark.ofLine? l.chars

def headings (ms : List Mark) : List Heading :=
  ms.filterMap fun
    | .opens h => some h
    | .closes _ => none

/-! ## Nesting -/

/-- Outlines at a depth, of two spaces each, in which every heading is closed at its own depth, and
all that stands between is one deeper. -/
inductive Nested : Nat → List Mark → Prop where
  | nil {depth : Nat} : Nested depth []
  | block {depth : Nat} {kind : HeadingKind} {name : String} {body rest : List Mark} :
      Nested (depth + 1) body → Nested depth rest →
      Nested depth (.opens ⟨2 * depth, kind, name⟩ :: body ++ .closes (2 * depth) :: rest)

/-- The headings that are open after an outline, innermost first, if `stack` was open before it. -/
def openAfter (stack : List Heading) : List Mark → List Heading
  | [] => stack
  | .opens h :: ms => openAfter (h :: stack) ms
  | .closes _ :: ms => openAfter stack.tail ms

/-- An outline in which a declaration of that kind and name stands inside exactly the namespaces
`outer`, outermost first. -/
def Declares (ms : List Mark) (outer : List String) (kind : HeadingKind) (name : String) : Prop :=
  ∃ before after, ms = before ++ .opens ⟨2 * outer.length, kind, name⟩ :: after ∧
    (openAfter [] before).reverse.map (fun h => (h.kind, h.name)) =
      outer.map fun n => (.namespaceDecl, n)

theorem declares_iff {ms : List Mark} {outer : List String} {kind : HeadingKind} {name : String} :
    Declares ms outer kind name ↔
      ∃ i < ms.length, ms[i]? = some (.opens ⟨2 * outer.length, kind, name⟩) ∧
        (openAfter [] (ms.take i)).reverse.map (fun h => (h.kind, h.name)) =
          outer.map fun n => (.namespaceDecl, n) := by
  constructor
  · rintro ⟨before, after, rfl, open_⟩
    exact ⟨before.length, by simp, by simp, by simpa using open_⟩
  · rintro ⟨i, hi, heading, open_⟩
    refine ⟨ms.take i, ms.drop (i + 1), ?_, open_⟩
    obtain ⟨_, same⟩ := List.getElem?_eq_some_iff.1 heading
    rw [← same, List.getElem_cons_drop, List.take_append_drop]

instance (ms : List Mark) (outer : List String) (kind : HeadingKind) (name : String) :
    Decidable (Declares ms outer kind name) :=
  decidable_of_iff _ declares_iff.symm

theorem openAfter_append (stack : List Heading) (ms ns : List Mark) :
    openAfter stack (ms ++ ns) = openAfter (openAfter stack ms) ns := by
  induction ms generalizing stack with
  | nil => rfl
  | cons m ms ih =>
    cases m with
    | opens h => exact ih _
    | closes d => exact ih _

/-- What is nested as it should be leaves nothing open and closes nothing else. -/
theorem Nested.openAfter {depth : Nat} {ms : List Mark} (h : Nested depth ms) :
    ∀ stack, openAfter stack ms = stack := by
  induction h with
  | nil => intro _; rfl
  | block _ _ body rest =>
    intro stack
    rw [List.cons_append, TypeScript.openAfter, openAfter_append, body]
    exact rest stack

theorem Nested.append {depth : Nat} {ms ns : List Mark} (h : Nested depth ms)
    (h' : Nested depth ns) : Nested depth (ms ++ ns) := by
  induction h with
  | nil => exact h'
  | block body _ _ ih =>
    rw [List.append_assoc, List.cons_append]
    exact .block body (ih h')

theorem Nested.flatMap {α : Type} {depth : Nat} {f : α → List Mark} {as : List α}
    (h : ∀ a ∈ as, Nested depth (f a)) : Nested depth (as.flatMap f) := by
  induction as with
  | nil => exact .nil
  | cons a as ih =>
    rw [List.flatMap_cons]
    exact (h a (by simp)).append (ih fun b hb => h b (List.mem_cons_of_mem _ hb))

theorem headings_append (ms ns : List Mark) : headings (ms ++ ns) = headings ms ++ headings ns :=
  List.filterMap_append

theorem headings_flatMap {α : Type} (f : α → List Mark) (as : List α) :
    headings (as.flatMap f) = as.flatMap fun a => headings (f a) := by
  simp [headings, List.filterMap_flatMap]

/-! ## Lines in a text -/

theorem toList_render (l : Line) : l.render.toList = l.chars ++ ['\n'] := by
  cases l with
  | blank => rfl
  | code depth text => simp [Line.render, Line.chars, indentation]

theorem toList_render_cons (l : Line) (ls : List Line) :
    (render (l :: ls)).toList = l.chars ++ '\n' :: (render ls).toList := by
  simp [render, toList_render]

/-- Lines without line breaks of their own are the lines of the text. -/
theorem splitOn_render {ls : List Line} (h : ∀ l ∈ ls, '\n' ∉ l.chars) :
    Text.splitOn '\n' (render ls).toList = ls.map Line.chars ++ [[]] := by
  induction ls with
  | nil => rfl
  | cons l ls ih =>
    rw [toList_render_cons, Text.splitOn_append, Text.splitOn_of_not_mem (h l (by simp)),
      ih fun m hm => h m (List.mem_cons_of_mem _ hm)]
    rfl

/-- The marks of a line, which may have line breaks of its own. -/
def Line.marks (l : Line) : List Mark := (Text.splitOn '\n' l.chars).filterMap Mark.ofLine?

theorem marks_render (ls : List Line) : marks (render ls) = ls.flatMap Line.marks := by
  induction ls with
  | nil => rfl
  | cons l ls ih =>
    rw [List.flatMap_cons, ← ih, TypeScript.marks, toList_render_cons, Text.splitOn_append,
      List.filterMap_append]
    rfl

theorem marks_render_of_oneLine {ls : List Line} (h : ∀ l ∈ ls, '\n' ∉ l.chars) :
    marks (render ls) = lineMarks ls := by
  rw [marks_render, lineMarks, List.filterMap_eq_flatMap_toList]
  refine List.flatMap_congr fun l hl => ?_
  rw [Line.marks, Text.splitOn_of_not_mem (h l hl), List.filterMap_eq_flatMap_toList,
    List.flatMap_singleton]

theorem lineMarks_append (ls ms : List Line) :
    lineMarks (ls ++ ms) = lineMarks ls ++ lineMarks ms :=
  List.filterMap_append

@[simp] theorem lineMarks_nil : lineMarks [] = [] := rfl

@[simp] theorem lineMarks_blank (ls : List Line) : lineMarks (.blank :: ls) = lineMarks ls := by
  simp [lineMarks, Line.chars, Mark.ofLine?, headingOf?, Text.dropPrefix?]

end TypeScript
end ProtoTypings
