import ProtoTypings.Proofs.EveryDepth
import ProtoTypings.Proofs.FileOutline

/-!
# Proofs.ClassText

The classes of the typings of a file: one for every message that is shown, with the accessors of its
fields, and in the text with all its lines together.

* `ClassDeclaration`, `declarationClasses` — the classes in declarations.
* `lines_infix_of_mem_classes` — the lines of a class stand together among those around it.
* `File.forall₂_classes` — the classes of a file stand beside its messages.
-/

namespace ProtoTypings
namespace TypeScript

/-- A class with the depth at which it stands. -/
structure ClassDeclaration where
  depth : Nat
  name : String
  members : List Member

def ClassDeclaration.lines (c : ClassDeclaration) : List Line :=
  (Declaration.classDecl c.name c.members).lines c.depth

mutual

/-- The classes of a declaration at a depth, in order. -/
def Declaration.classes (depth : Nat) : Declaration → List ClassDeclaration
  | .classDecl name members => [⟨depth, name, members⟩]
  | .namespaceDecl _ body => declarationClasses (depth + 1) body
  | .objectType _ | .enumDecl _ | .constDecl _ _ => []

def declarationClasses (depth : Nat) : List Declaration → List ClassDeclaration
  | [] => []
  | d :: ds => d.classes depth ++ declarationClasses depth ds

end

mutual

theorem Declaration.lines_infix {c : ClassDeclaration} : ∀ {depth : Nat} {d : Declaration},
    c ∈ d.classes depth → c.lines <:+: d.lines depth
  | depth, .classDecl name members, h => by
    rw [Declaration.classes, List.mem_singleton] at h
    rw [h]
    exact List.infix_rfl
  | depth, .namespaceDecl name body, h => by
    rw [Declaration.classes] at h
    obtain ⟨before, after, e⟩ := lines_infix_of_mem_classes h
    refine ⟨.blank :: .code depth ("export namespace " ++ name ++ " \x7b") :: before,
      after ++ [.code depth "\x7d"], ?_⟩
    rw [Declaration.lines, ← e]
    simp
  | _, .objectType _, h | _, .enumDecl _, h | _, .constDecl _ _, h => by
    simp [Declaration.classes] at h

/-- The lines of a class stand together among the lines of the declarations around it. -/
theorem lines_infix_of_mem_classes {c : ClassDeclaration} : ∀ {depth : Nat} {ds : List Declaration},
    c ∈ declarationClasses depth ds → c.lines <:+: declarationLines depth ds
  | _, [], h => by simp [declarationClasses] at h
  | depth, d :: ds, h => by
    rw [declarationClasses, List.mem_append] at h
    rw [declarationLines]
    rcases h with h | h
    · exact (Declaration.lines_infix h).trans (List.prefix_append _ _).isInfix
    · exact (lines_infix_of_mem_classes h).trans (List.suffix_append _ _).isInfix

end

theorem declarationClasses_append (depth : Nat) (ds es : List Declaration) :
    declarationClasses depth (ds ++ es) =
      declarationClasses depth ds ++ declarationClasses depth es := by
  induction ds with
  | nil => rfl
  | cons d ds ih => rw [List.cons_append, declarationClasses, ih, declarationClasses,
      List.append_assoc]

theorem declarationClasses_eq_nil {depth : Nat} {ds : List Declaration}
    (h : ∀ d ∈ ds, d.classes depth = []) : declarationClasses depth ds = [] := by
  induction ds with
  | nil => rfl
  | cons d ds ih =>
    rw [declarationClasses, h d (by simp), ih fun e he => h e (List.mem_cons_of_mem _ he)]
    rfl

theorem Module.lines_infix {m : Module} {c : ClassDeclaration}
    (h : c ∈ declarationClasses 0 m.body) : c.lines <:+: m.lines :=
  (lines_infix_of_mem_classes h).trans ((List.suffix_append _ _).isInfix.trans
    (List.prefix_append _ _).isInfix)

end TypeScript

namespace Proto

open TypeScript

/-- A class that is declared for a message whose fields are exposed as a scope has them. -/
def Message.DeclaredBy (s : Scope) (m : Message) (c : ClassDeclaration) : Prop :=
  ∃ fields, each s.expose m.fields = .ok fields ∧ c.name = m.name ∧ c.members = m.members fields

theorem Message.shown_eq (m : Message) :
    m.shown = if m.isMapEntry then [] else m :: m.nested.flatMap (·.shown) := by
  rw [shown, select_eq]
  cases m.isMapEntry <;> rfl

theorem forall₂_messageClasses {s : Scope} {depth : Nat} {ms : List Message}
    {ds : List Declaration} (h : messageDeclarations s ms = .ok ds)
    (each_ : ∀ m ∈ ms, ∀ own, m.declarations s = .ok own →
      List.Forall₂ (Message.DeclaredBy s) m.shown (declarationClasses depth own)) :
    List.Forall₂ (Message.DeclaredBy s) (ms.flatMap (·.shown)) (declarationClasses depth ds) := by
  induction ms generalizing ds with
  | nil =>
    cases h
    exact .nil
  | cons m ms ih =>
    obtain ⟨first, rest, hf, hr, rfl⟩ := messageDeclarations_cons_eq_ok.1 h
    rw [List.flatMap_cons, declarationClasses_append]
    exact List.rel_append (each_ m (by simp) first hf)
      (ih hr fun n hn => each_ n (List.mem_cons_of_mem _ hn))

/-- The classes of a message are one for each message that it shows, in order. -/
theorem Message.forall₂_classes {s : Scope} (m : Message) :
    ∀ {depth : Nat} {ds : List Declaration}, m.declarations s = .ok ds →
      List.Forall₂ (Message.DeclaredBy s) m.shown (declarationClasses depth ds) := by
  induction m using Message.nested_induction with
  | step m ih =>
    intro depth ds h
    rw [Message.shown_eq]
    rcases Message.declarations_eq_ok.1 h with ⟨hm, rfl⟩ | ⟨hm, exposed, inner, he, hi, rfl⟩
    · rw [if_pos hm]
      exact .nil
    have enums : declarationClasses (depth + 1)
        (m.enums.map fun e => .enumDecl e.declaration) = [] :=
      declarationClasses_eq_nil fun d hd => by
        obtain ⟨e, -, rfl⟩ := List.mem_map.1 hd
        rfl
    have cases_ : declarationClasses (depth + 1) (m.caseDeclarations.map .enumDecl) = [] :=
      declarationClasses_eq_nil fun d hd => by
        obtain ⟨e, -, rfl⟩ := List.mem_map.1 hd
        rfl
    have body : declarationClasses (depth + 1) (m.namespaceBody exposed inner) =
        declarationClasses (depth + 1) inner := by
      rw [Message.namespaceBody, declarationClasses_append, declarationClasses_append, enums,
        cases_]
      simp [declarationClasses, Declaration.classes]
    simp only [hm, declarationClasses, Declaration.classes, body]
    refine .cons ⟨exposed, he, rfl, rfl⟩ ?_
    simpa using forall₂_messageClasses hi fun n hn own hown => ih n hn hown

/-- The classes in the typings of a file are one for each message that it shows, in order. -/
theorem File.forall₂_classes {settings : Settings} {symbols : SymbolTable} {file : File}
    {m : Module} (h : file.typings settings symbols = .ok m) :
    List.Forall₂ (Message.DeclaredBy ⟨symbols, file⟩) file.shown (declarationClasses 0 m.body) := by
  obtain ⟨body, hb, rfl⟩ := Check.map_eq_ok.1 h
  obtain ⟨messages, extensions, hm, he, rfl⟩ := File.declarations_eq_ok.1 hb
  have extensions_ : declarationClasses 0 extensions = [] :=
    declarationClasses_eq_nil fun d hd => by
      obtain ⟨f, -, hf⟩ := exists_of_mem_each he hd
      obtain ⟨type, -, rfl⟩ := Check.map_eq_ok.1 hf
      rfl
  have enums : declarationClasses 0 (file.enums.map fun e => .enumDecl e.declaration) = [] :=
    declarationClasses_eq_nil fun d hd => by
      obtain ⟨e, -, rfl⟩ := List.mem_map.1 hd
      rfl
  rw [declarationClasses_append, declarationClasses_append, extensions_, enums, List.append_nil,
    List.append_nil]
  exact forall₂_messageClasses hm fun n _ own hown => n.forall₂_classes hown

end Proto
end ProtoTypings
