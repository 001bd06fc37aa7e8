import ProtoTypings.Proofs.Placement

/-!
# Proofs.Scoping

How type paths are read. A path is written somewhere inside namespaces. Its first name is looked for
in the innermost of them, then in the one around it, and in the end among the declarations of the
file; the other names are followed down from there. All blocks of a namespace count as one.

* `leadsTo?` — the place that a path leads to, as the names from the file down.
* `declarationsAt` — what is declared at a place.
* `Captured` — a path whose first name a namespace around it declares.
* `leadsTo?_eq_self_iff` — a path from the file down leads to its own place unless it is captured.
-/

namespace ProtoTypings
namespace TypeScript

/-- The name by which paths lead to a declaration. Constants are no types. -/
def Declaration.typeName? : Declaration → Option String
  | .classDecl name _ | .namespaceDecl name _ => some name
  | .objectType _ => some TypeExpr.objectTypeName
  | .enumDecl e => some e.name
  | .constDecl _ _ => none

/-- The names from the file down to a declaration, its own name last. -/
def Placed.place? (p : Placed) : Option (List String) :=
  p.declaration.typeName?.map fun name => p.around ++ [name]

/-- What declarations declare at a place. -/
def declarationsAt (ds : List Declaration) (place : List String) : List Declaration :=
  ((placedIn [] ds).filter fun p => p.place? = some place).map (·.declaration)

/-- Whether a name is declared in a scope, which is given by its namespaces. -/
def declaresIn (ds : List Declaration) (scope : List String) (name : String) : Bool :=
  (placedIn [] ds).any fun p => p.place? = some (scope ++ [name])

/-- The scopes around what stands in some namespaces: the innermost first, the file last. -/
def scopesAround : List String → List (List String)
  | [] => [[]]
  | name :: around => (scopesAround around).map (name :: ·) ++ [[]]

/-- The place that a path leads to if it is written in some namespaces: the path taken from the
innermost scope that declares its first name. -/
def leadsTo? (ds : List Declaration) (around : List String) : List String → Option (List String)
  | [] => none
  | first :: rest =>
    ((scopesAround around).find? (declaresIn ds · first)).map fun scope => scope ++ first :: rest

/-- A namespace around a path declares its first name. -/
def Captured (ds : List Declaration) (around path : List String) : Prop :=
  ∃ scope ∈ scopesAround around, scope ≠ [] ∧ path.head?.any (declaresIn ds scope)

instance (ds : List Declaration) (around path : List String) :
    Decidable (Captured ds around path) :=
  inferInstanceAs (Decidable (∃ scope ∈ scopesAround around, _))

/-- The names that a path is made of. -/
def pathNames (path : String) : List String :=
  (Text.splitOn '.' path.toList).map String.ofList

theorem mem_declarationsAt {ds : List Declaration} {place : List String} {d : Declaration} :
    d ∈ declarationsAt ds place ↔
      ∃ p ∈ placedIn [] ds, p.place? = some place ∧ p.declaration = d := by
  simp [declarationsAt, and_assoc]

theorem declaresIn_iff {ds : List Declaration} {scope : List String} {name : String} :
    declaresIn ds scope name ↔ ∃ p ∈ placedIn [] ds, p.place? = some (scope ++ [name]) := by
  simp [declaresIn]

theorem exists_scopesAround (around : List String) :
    ∃ inner, scopesAround around = inner ++ [[]] ∧ ∀ scope ∈ inner, scope ≠ [] := by
  cases around with
  | nil => exact ⟨[], rfl, by simp⟩
  | cons name around => exact ⟨(scopesAround around).map (name :: ·), rfl, by simp⟩

/-- Where the file declares the first name of a path, the path leads to its own place from within
some namespaces just if none of these declares the first name. -/
theorem leadsTo?_eq_self_iff {ds : List Declaration} {around : List String} {first : String}
    {rest : List String} (declared : declaresIn ds [] first) :
    leadsTo? ds around (first :: rest) = some (first :: rest) ↔
      ¬ Captured ds around (first :: rest) := by
  obtain ⟨inner, split_, nonempty⟩ := exists_scopesAround around
  have captured : Captured ds around (first :: rest) ↔
      ∃ scope ∈ inner, declaresIn ds scope first := by
    simp only [Captured, split_, List.head?_cons, Option.any_some, List.mem_append,
      List.mem_singleton]
    constructor
    · rintro ⟨scope, h | rfl, ne, found⟩
      · exact ⟨scope, h, found⟩
      · exact absurd rfl ne
    · rintro ⟨scope, h, found⟩
      exact ⟨scope, .inl h, nonempty scope h, found⟩
  rw [captured, leadsTo?, split_, List.find?_append]
  cases h : inner.find? (declaresIn ds · first) with
  | none =>
    have free := List.find?_eq_none.1 h
    simp only [Option.none_or, List.find?_cons, declared, Option.map_some, List.nil_append,
      true_iff]
    rintro ⟨scope, hs, found⟩
    exact free scope hs found
  | some scope =>
    have hs : scope ∈ inner := List.mem_of_find?_eq_some h
    have found : declaresIn ds scope first :=
      List.find?_some (p := (declaresIn ds · first)) h
    have other : scope ++ first :: rest ≠ first :: rest := fun e =>
      nonempty scope hs (List.append_left_eq_self.1 e)
    simp only [Option.some_or, Option.map_some, Option.some.injEq, other, false_iff, not_not]
    exact ⟨scope, hs, found⟩

end TypeScript

open TypeScript

/-- The names of a path are read off it again if none of them has a dot. -/
theorem pathNames_dotted {names : List String} (ne : names ≠ [])
    (h : ∀ n ∈ names, '.' ∉ n.toList) : pathNames (dotted names) = names := by
  induction names with
  | nil => exact absurd rfl ne
  | cons name names ih =>
    have own : Text.splitOn '.' name.toList = [name.toList] :=
      Text.splitOn_of_not_mem (h name (by simp))
    by_cases hn : names = []
    · subst hn
      simp [pathNames, dotted, own]
    · have joined : (dotted (name :: names)).toList =
          name.toList ++ '.' :: (dotted names).toList := by
        simp [dotted_cons name hn]
      have rest : (Text.splitOn '.' (dotted names).toList).map String.ofList = names :=
        ih hn fun n hm => h n (List.mem_cons_of_mem _ hm)
      rw [pathNames, joined, Text.splitOn_append, own, List.map_append, rest]
      simp

end ProtoTypings
