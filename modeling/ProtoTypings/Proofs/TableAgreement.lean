import ProtoTypings.Proofs.Checks
import ProtoTypings.Proofs.TypeDecl
import ProtoTypings.Surface.File

/-!
# Proofs.TableAgreement

Generated code depends on a symbol table by its answers alone, and more symbols change nothing that
was generated without them.

* `SymbolTable.ExtendedBy` — a table that another one adds symbols to.
* `Keeps` — a result over a table, and the result over an extension of it: the same, unless the
  first one misses a symbol.
* `keeps_generate` — so it is for the generated files.
-/

namespace ProtoTypings

open Proto TypeScript

/-- All that a table knows is known to another one, which may know more. -/
def SymbolTable.ExtendedBy (t u : SymbolTable) : Prop :=
  ∀ name s, t.get? name = some s → u.get? name = some s

/-- Results over two tables: they are the same, unless the first is a reference that cannot be
followed to a name for which the tables differ. -/
def Keeps (t u : SymbolTable) {α : Type} (x y : Except ReferenceError α) : Prop :=
  y = x ∨ ∃ name file, x = .error (.unresolved name file) ∧ t.get? name ≠ u.get? name

namespace Keeps

variable {t u : SymbolTable} {α β : Type} {x y : Except ReferenceError α}

theorem refl (x : Except ReferenceError α) : Keeps t u x x := .inl rfl

theorem eq_of_ok {a : α} (h : Keeps t u x y) (hx : x = .ok a) : y = x := by
  rcases h with h | ⟨name, file, he, -⟩
  · exact h
  · rw [hx] at he
    cases he

/-- Over tables that answer alike results are the same, failures included. -/
theorem eq_of_same (h : Keeps t u x y) (same : ∀ name, t.get? name = u.get? name) : y = x := by
  rcases h with h | ⟨name, file, -, differ⟩
  · exact h
  · exact absurd (same name) differ

theorem bind {f g : α → Except ReferenceError β} (h : Keeps t u x y)
    (hf : ∀ a, Keeps t u (f a) (g a)) : Keeps t u (x >>= f) (y >>= g) := by
  rcases h with rfl | ⟨name, file, rfl, differ⟩
  · cases y with
    | error e => exact refl _
    | ok a => exact hf a
  · exact .inr ⟨name, file, rfl, differ⟩

theorem map {f : α → β} (h : Keeps t u x y) : Keeps t u (x.map f) (y.map f) := by
  rcases h with rfl | ⟨name, file, rfl, differ⟩
  · exact refl _
  · exact .inr ⟨name, file, rfl, differ⟩

theorem each {f g : α → Except ReferenceError β} {as : List α}
    (h : ∀ a ∈ as, Keeps t u (f a) (g a)) :
    Keeps t u (ProtoTypings.each f as) (ProtoTypings.each g as) := by
  induction as with
  | nil => exact refl _
  | cons a as ih =>
    rcases h a (by simp) with e | ⟨name, file, hf, differ⟩
    · simp only [ProtoTypings.each, e]
      cases f a with
      | error _ => exact refl _
      | ok b =>
        rcases ih fun x hx => h x (List.mem_cons_of_mem _ hx) with e | ⟨name, file, hs, differ⟩
        · rw [e]
          exact refl _
        · exact .inr ⟨name, file, by rw [hs], differ⟩
    · exact .inr ⟨name, file, by simp only [ProtoTypings.each, hf], differ⟩

theorem messageDeclarations {s s' : Scope} {ms : List Message}
    (h : ∀ m ∈ ms, Keeps t u (m.declarations s) (m.declarations s')) :
    Keeps t u (Proto.messageDeclarations s ms) (Proto.messageDeclarations s' ms) := by
  induction ms with
  | nil => exact refl _
  | cons m ms ih =>
    refine (h m (by simp)).bind fun first => ?_
    exact (ih fun n hn => h n (List.mem_cons_of_mem _ hn)).bind fun rest => refl _

end Keeps

/-! ## Scopes -/

section Scopes

variable {t u : SymbolTable} (extended : t.ExtendedBy u) (file : File)

include extended

/-- A symbol that is looked up is missed only if the larger table has one of that name. -/
theorem keeps_resolved (p : Symbol → Bool) (name : String) :
    Keeps t u (Scope.resolved ⟨t, file⟩ name ((t.get? name).filter p))
      (Scope.resolved ⟨u, file⟩ name ((u.get? name).filter p)) := by
  by_cases same : t.get? name = u.get? name
  · rw [same]
    exact .refl _
  · cases ht : t.get? name with
    | none => exact .inr ⟨name, file.name, rfl, same⟩
    | some s => exact absurd (ht.trans (extended name s ht).symm) same

theorem keeps_message (name : String) :
    Keeps t u (Scope.message ⟨t, file⟩ name) (Scope.message ⟨u, file⟩ name) :=
  keeps_resolved extended file (·.isMessage) name

theorem keeps_enum (name : String) :
    Keeps t u (Scope.enum ⟨t, file⟩ name) (Scope.enum ⟨u, file⟩ name) :=
  keeps_resolved extended file (!·.isMessage) name

theorem keeps_typeExpr (type : FieldType) :
    Keeps t u (Scope.typeExpr ⟨t, file⟩ type) (Scope.typeExpr ⟨u, file⟩ type) := by
  cases type with
  | scalar scalar => exact .refl _
  | message name => exact (keeps_message extended file name).map
  | enumeration name => exact (keeps_enum extended file name).map

theorem keeps_entryView (entry : MapEntry) :
    Keeps t u (Scope.entryView ⟨t, file⟩ entry) (Scope.entryView ⟨u, file⟩ entry) := by
  refine (keeps_typeExpr extended file entry.key.type).bind fun key => ?_
  by_cases bytes : entry.value.isBytes
  · simp only [if_pos bytes]
    exact .refl _
  · simp only [if_neg bytes]
    exact (keeps_typeExpr extended file entry.value.type).bind fun value => .refl _

theorem keeps_exposure (f : Field) :
    Keeps t u (Scope.exposure ⟨t, file⟩ f) (Scope.exposure ⟨u, file⟩ f) := by
  unfold Scope.exposure
  split
  · exact .refl _
  · exact .refl _
  · exact (keeps_typeExpr extended file f.type).map
  · rename_i name _
    refine (keeps_message extended file name).bind fun symbol => ?_
    cases symbol.mapEntry with
    | none => exact .refl _
    | some entry => exact (keeps_entryView extended file entry).map

theorem keeps_expose (f : Field) :
    Keeps t u (Scope.expose ⟨t, file⟩ f) (Scope.expose ⟨u, file⟩ f) :=
  (keeps_exposure extended file f).map

/-! ## Declarations -/

theorem keeps_declarations (m : Message) :
    Keeps t u (m.declarations ⟨t, file⟩) (m.declarations ⟨u, file⟩) := by
  induction m using Message.nested_induction with
  | step m ih =>
    -- Whether the message is declared at all does not depend on the table.
    rw [Message.declarations_eq, Message.declarations_eq]
    split
    · exact .refl _
    · refine (Keeps.each fun f _ => keeps_expose extended file f).bind fun exposed => ?_
      exact (Keeps.messageDeclarations ih).bind fun inner => .refl _

theorem keeps_extension (f : Field) :
    Keeps t u (Field.extensionDeclaration ⟨t, file⟩ f) (Field.extensionDeclaration ⟨u, file⟩ f) :=
  (keeps_typeExpr extended file f.type).map

theorem keeps_generateFile (settings : Settings) :
    Keeps t u (generateFile settings t file) (generateFile settings u file) := by
  have declarations : Keeps t u (file.declarations t) (file.declarations u) := by
    refine (Keeps.messageDeclarations fun m _ => keeps_declarations extended file m).bind
      fun messages => ?_
    exact (Keeps.each fun f _ => keeps_extension extended file f).bind fun extensions => .refl _
  exact declarations.map.map.map

/-- With more symbols files are generated as before, unless one was missed. -/
theorem keeps_generate (settings : Settings) (files : List File) :
    Keeps t u (generate settings t files) (generate settings u files) :=
  Keeps.each fun file _ => keeps_generateFile extended file settings

end Scopes

end ProtoTypings
