import Mathlib.Data.List.Nodup
import ProtoTypings.Proofs.Scoping

/-!
# Proofs.Denotation

Which declarations stand for the types of a file in its typings, and whether a path denotes a type.

* `TypeDecl.place`, `TypeDecl.generated` — the places of a type, and of what is generated beside it.
* `TypeDefinition.Declares` — what declares a type.
* `TypeDecl.DenotedBy` — a path that leads to what declares a type, and to nothing else.
* `File.declarationsAt_place` — what stands at the place of a type.
* `File.leadsTo?_place` — the path of a type leads to its place unless it is captured.
-/

namespace ProtoTypings

open TypeScript

namespace Proto

/-! ## Places -/

/-- The place of a type; in plain objects, the place of its object type if it is a message. -/
def TypeDecl.place (plain : Bool) (t : TypeDecl) : List String :=
  match plain, t.definition with
  | true, .message _ => t.path ++ [TypeExpr.objectTypeName]
  | _, _ => t.path

theorem TypeDecl.place_false (t : TypeDecl) : t.place false = t.path := rfl

/-- The places of what is generated for a type in its namespace. -/
def TypeDecl.generated (t : TypeDecl) : List (List String) :=
  match t.definition with
  | .message m =>
    (t.path ++ [TypeExpr.objectTypeName]) :: m.oneofs.map fun o => t.path ++ [caseName o]
  | .enumeration _ => []

/-- Nothing else is declared at the place of a type: what is generated for no type if it is the
type's own place, no type if it is the place of its object type. -/
def File.Alone (file : File) (plain : Bool) (t : TypeDecl) : Prop :=
  ∀ u ∈ file.typeDecls,
    if t.place plain = t.path then t.path ∉ u.generated else u.path ≠ t.place plain

instance (file : File) (plain : Bool) (t : TypeDecl) : Decidable (file.Alone plain t) :=
  inferInstanceAs (Decidable (∀ u ∈ file.typeDecls,
    if t.place plain = t.path then t.path ∉ u.generated else u.path ≠ t.place plain))

/-- What declares a type: a class and a namespace, or an enumeration. In plain objects it is the
object type that declares a message. -/
def TypeDefinition.Declares (s : Scope) (plain : Bool) (d : TypeDefinition) (x : Declaration) :
    Prop :=
  match d with
  | .message m => ∃ exposed inner, each s.expose m.fields = .ok exposed ∧
      messageDeclarations s m.nested = .ok inner ∧
      if plain then x = .objectType (exposed.map (·.property))
      else x = .classDecl m.name (m.members exposed) ∨
        x = .namespaceDecl m.name (m.namespaceBody exposed inner)
  | .enumeration e => x = .enumDecl e.declaration

/-- A path that is written in some namespaces denotes a type: it leads to the place of the type, or
of its object type, and whatever is declared there declares the type. -/
structure TypeDecl.DenotedBy (t : TypeDecl) (s : Scope) (ds : List Declaration)
    (around : List String) (plain : Bool) (path : String) : Prop where
  leads : leadsTo? ds around (pathNames path) = some (t.place plain)
  declared : declarationsAt ds (t.place plain) ≠ []
  only : ∀ x ∈ declarationsAt ds (t.place plain), t.definition.Declares s plain x

theorem caseName_ne_objectTypeName (oneof : String) : caseName oneof ≠ TypeExpr.objectTypeName := by
  intro h
  have last := congrArg (fun s => s.toList.getLast?) h
  simp [caseName, TypeExpr.objectTypeName] at last

theorem names_caseDeclarations (m : Message) :
    m.caseDeclarations.map (·.name) = m.oneofs.map caseName := by
  rw [← map_zipIdx_fst caseName, Message.caseDeclarations, List.map_map]
  rfl

theorem name_of_mem_caseDeclarations {m : Message} {e : EnumDeclaration}
    (h : e ∈ m.caseDeclarations) : ∃ o ∈ m.oneofs, e.name = caseName o := by
  have named : e.name ∈ m.oneofs.map caseName :=
    names_caseDeclarations m ▸ List.mem_map_of_mem h
  obtain ⟨o, ho, same⟩ := List.mem_map.1 named
  exact ⟨o, ho, same.symm⟩

/-- What a type puts into typings stands at the place of the type, or of its object type, and
declares it, or it stands at another place of what is generated for the type. -/
theorem TypeDecl.place_of_puts {s : Scope} {t : TypeDecl} {p : Placed} (h : t.Puts s [] p) :
    (∃ plain, p.place? = some (t.place plain) ∧ t.definition.Declares s plain p.declaration) ∨
      ∃ m, t.definition = .message m ∧
        ∃ o ∈ m.oneofs, p.place? = some (t.path ++ [caseName o]) := by
  obtain ⟨outer, d⟩ := t
  cases d with
  | enumeration e =>
    rw [TypeDecl.puts_enum] at h
    rw [h]
    exact .inl ⟨false, rfl, rfl⟩
  | message m =>
    obtain ⟨exposed, inner, he, hi, h⟩ := h
    simp only [Message.placements, List.mem_append, List.mem_cons, List.mem_map, List.not_mem_nil,
      or_false, List.nil_append] at h
    rcases h with (rfl | rfl | rfl) | ⟨e, hmem, rfl⟩
    · exact .inl ⟨false, rfl, exposed, inner, he, hi, .inl rfl⟩
    · exact .inl ⟨false, rfl, exposed, inner, he, hi, .inr rfl⟩
    · exact .inl ⟨true, rfl, exposed, inner, he, hi, rfl⟩
    · obtain ⟨o, ho, name⟩ := name_of_mem_caseDeclarations hmem
      refine .inr ⟨m, rfl, o, ho, ?_⟩
      simp [Placed.place?, Declaration.typeName?, name, TypeDecl.path, TypeDefinition.name]

theorem TypeDecl.exists_puts {s : Scope} {t : TypeDecl} {plain : Bool} {x : Declaration}
    (h : t.definition.Declares s plain x) :
    ∃ p, t.Puts s [] p ∧ p.place? = some (t.place plain) ∧ p.declaration = x := by
  obtain ⟨outer, d⟩ := t
  cases d with
  | enumeration e =>
    cases h
    exact ⟨_, TypeDecl.puts_enum.2 rfl, by cases plain <;> rfl, rfl⟩
  | message m =>
    obtain ⟨exposed, inner, he, hi, h⟩ := h
    have put (p : Placed) : TypeDecl.Puts s [] ⟨outer, .message m⟩ p ↔
        p ∈ m.placements (outer.map (·.name)) exposed inner := TypeDecl.puts_message he hi
    cases plain with
    | true =>
      cases h
      exact ⟨_, (put ⟨outer.map (·.name) ++ [m.name], _⟩).2 (by simp [Message.placements]), rfl,
        rfl⟩
    | false =>
      rcases h with rfl | rfl
      · exact ⟨_, (put ⟨outer.map (·.name), _⟩).2 (by simp [Message.placements]), rfl, rfl⟩
      · exact ⟨_, (put ⟨outer.map (·.name), _⟩).2 (by simp [Message.placements]), rfl, rfl⟩

/-- The place is that of the type, and plain objects do not differ, or it is that of the object type
that is generated for it. -/
theorem TypeDecl.place_cases (t : TypeDecl) (plain : Bool) :
    (t.place plain = t.path ∧
      ∀ s x, t.definition.Declares s plain x ↔ t.definition.Declares s false x) ∨
    (t.place plain = t.path ++ [TypeExpr.objectTypeName] ∧ t.place plain ∈ t.generated ∧
      ∀ s x, t.definition.Declares s plain x ↔ t.definition.Declares s true x) := by
  obtain ⟨outer, d⟩ := t
  cases plain with
  | false => exact .inl ⟨rfl, fun _ _ => .rfl⟩
  | true =>
    cases d with
    | enumeration e => exact .inl ⟨rfl, fun _ _ => .rfl⟩
    | message m => exact .inr ⟨rfl, .head _, fun _ _ => .rfl⟩

theorem TypeDecl.place_eq (t : TypeDecl) (plain : Bool) :
    t.place plain = t.path ∨ t.place plain = t.path ++ [TypeExpr.objectTypeName] :=
  (t.place_cases plain).imp And.left And.left

section File

variable {file : File} {symbols : SymbolTable} {ds : List Declaration}

theorem File.eq_of_path (distinct : (file.typeDecls.map (·.path)).Nodup) {t u : TypeDecl}
    (ht : t ∈ file.typeDecls) (hu : u ∈ file.typeDecls) (h : t.path = u.path) : t = u :=
  List.inj_on_of_nodup_map distinct ht hu h

/-- Where a type is alone, no other type puts anything, and nothing but what declares the type is
put there. -/
theorem TypeDecl.declares_of_puts (distinct : (file.typeDecls.map (·.path)).Nodup)
    {t u : TypeDecl} (ht : t ∈ file.typeDecls) (hu : u ∈ file.typeDecls) {plain : Bool}
    (alone : file.Alone plain t) {s : Scope} {p : Placed} (puts : u.Puts s [] p)
    (place : p.place? = some (t.place plain)) : t.definition.Declares s plain p.declaration := by
  have own := alone u hu
  rcases TypeDecl.place_of_puts puts with ⟨plain', found, declares⟩ | ⟨m, hm, o, ho, found⟩
  · have same : t.place plain = u.place plain' := Option.some.inj (place.symm.trans found)
    rcases t.place_cases plain with ⟨atType, dt⟩ | ⟨atObject, -, dt⟩
    · rw [if_pos atType] at own
      rcases u.place_cases plain' with ⟨atType', du⟩ | ⟨-, generated, -⟩
      · obtain rfl := File.eq_of_path distinct ht hu (by rw [← atType, same, atType'])
        exact (dt s _).2 ((du s _).1 declares)
      · rw [← same, atType] at generated
        exact absurd generated own
    · rw [if_neg (by simp [atObject])] at own
      rcases u.place_cases plain' with ⟨atType', -⟩ | ⟨atObject', -, du⟩
      · exact absurd (atType'.symm.trans same.symm) own
      · have paths : t.path = u.path := by
          rw [atObject, atObject'] at same
          exact List.append_cancel_right same
        obtain rfl := File.eq_of_path distinct ht hu paths
        exact (dt s _).2 ((du s _).1 declares)
  · have same : t.place plain = u.path ++ [caseName o] := Option.some.inj (place.symm.trans found)
    rcases t.place_cases plain with ⟨atType, -⟩ | ⟨atObject, -, -⟩
    · rw [if_pos atType] at own
      refine absurd ?_ own
      rw [← atType, same, TypeDecl.generated, hm]
      exact List.mem_cons_of_mem _ (List.mem_map.2 ⟨o, ho, rfl⟩)
    · rw [atObject] at same
      have names := (List.append_inj' same rfl).2
      rw [List.singleton_inj] at names
      exact absurd names.symm (caseName_ne_objectTypeName o)

/-- At the place of a type that is shown, or of its object type, stands what declares the type, and
nothing else if the type is alone there. -/
theorem File.declarationsAt_place (h : file.declarations symbols = .ok ds)
    (distinct : (file.typeDecls.map (·.path)).Nodup) {t : TypeDecl} (ht : t ∈ file.typeDecls)
    (shown : t.isShown) {plain : Bool} (alone : file.Alone plain t) {x : Declaration} :
    x ∈ declarationsAt ds (t.place plain) ↔ t.definition.Declares ⟨symbols, file⟩ plain x := by
  rw [TypeScript.mem_declarationsAt]
  constructor
  · rintro ⟨p, hp, place, rfl⟩
    rcases (File.mem_placedIn h).1 hp with ⟨u, hu, -, puts⟩ | ⟨f, -, type, -, rfl⟩
    · exact TypeDecl.declares_of_puts distinct ht hu alone puts place
    · cases place
  · intro declares
    obtain ⟨p, puts, place, rfl⟩ := TypeDecl.exists_puts declares
    exact ⟨p, (File.mem_placedIn h).2 (.inl ⟨t, ht, shown, puts⟩), place, rfl⟩

/-! ## Types that are shown -/

theorem Message.exists_declares {s : Scope} (plain : Bool) (m : Message) :
    ∀ {ds : List Declaration}, m.declarations s = .ok ds → ∀ t ∈ m.typeDecls, t.isShown →
      ∃ x, t.definition.Declares s plain x := by
  induction m using Message.nested_induction with
  | step m ih =>
    intro ds h t ht shown
    rcases Message.mem_typeDecls.1 ht with ⟨n, hn, u, hu, rfl⟩ | ⟨e, -, rfl⟩ | rfl
    · rw [TypeDecl.isShown_inside, Bool.and_eq_true] at shown
      rcases Message.declarations_eq_ok.1 h with ⟨hm, -⟩ | ⟨-, exposed, inner, -, hi, -⟩
      · simp [hm] at shown
      · obtain ⟨own, hown, -⟩ := exists_declarations hi hn
        exact ih n hn hown u hu shown.2
    · exact ⟨_, rfl⟩
    · rcases Message.declarations_eq_ok.1 h with ⟨hm, -⟩ | ⟨-, exposed, inner, he, hi, -⟩
      · simp [TypeDecl.isShown, TypeDefinition.isMapEntry, hm] at shown
      · cases plain with
        | false => exact ⟨_, exposed, inner, he, hi, .inl rfl⟩
        | true => exact ⟨_, exposed, inner, he, hi, rfl⟩

theorem File.exists_declares (h : file.declarations symbols = .ok ds) {t : TypeDecl}
    (ht : t ∈ file.typeDecls) (shown : t.isShown) (plain : Bool) :
    ∃ x, t.definition.Declares ⟨symbols, file⟩ plain x := by
  obtain ⟨messages, extensions, hm, -, -⟩ := File.declarations_eq_ok.1 h
  rcases List.mem_append.1 ht with ht | ht
  · obtain ⟨m, hmem, ht⟩ := List.mem_flatMap.1 ht
    obtain ⟨own, hown, -⟩ := exists_declarations hm hmem
    exact m.exists_declares plain hown t ht shown
  · obtain ⟨e, -, rfl⟩ := List.mem_map.1 ht
    exact ⟨_, rfl⟩

/-- The path of a type that is shown begins with the name of a type that is shown at the top. -/
theorem File.exists_root {t : TypeDecl} (ht : t ∈ file.typeDecls) (shown : t.isShown) :
    ∃ r ∈ file.typeDecls, r.isShown ∧ ∃ rest, t.path = r.path ++ rest ∧ r.outer = [] := by
  rcases List.mem_append.1 ht with inMessage | inEnums
  · obtain ⟨m, hm, inMessage⟩ := List.mem_flatMap.1 inMessage
    have root : ⟨[], .message m⟩ ∈ file.typeDecls :=
      List.mem_append_left _ (List.mem_flatMap.2
        ⟨m, hm, Message.mem_typeDecls.2 (.inr (.inr rfl))⟩)
    rcases Message.mem_typeDecls.1 inMessage with ⟨n, -, u, -, rfl⟩ | ⟨e, -, rfl⟩ | rfl
    · rw [TypeDecl.isShown_inside, Bool.and_eq_true] at shown
      refine ⟨_, root, ?_, u.path, rfl, rfl⟩
      simpa [TypeDecl.isShown, TypeDefinition.isMapEntry] using shown.1
    · refine ⟨_, root, ?_, [e.name], rfl, rfl⟩
      simpa [TypeDecl.isShown, TypeDefinition.isMapEntry] using shown
    · exact ⟨_, root, shown, [], (List.append_nil _).symm, rfl⟩
  · obtain ⟨e, -, rfl⟩ := List.mem_map.1 inEnums
    exact ⟨_, ht, shown, [], (List.append_nil _).symm, rfl⟩

/-- The place of a type that is shown is led to by its path unless this is captured. -/
theorem File.leadsTo?_place (h : file.declarations symbols = .ok ds) {t : TypeDecl}
    (ht : t ∈ file.typeDecls) (shown : t.isShown) (plain : Bool) (around : List String) :
    leadsTo? ds around (t.place plain) = some (t.place plain) ↔
      ¬ Captured ds around (t.place plain) := by
  obtain ⟨r, hr, shown', rest, path, top⟩ := File.exists_root ht shown
  have first : r.path = [r.definition.name] := by rw [TypeDecl.path, top]; rfl
  have declared : declaresIn ds [] r.definition.name := by
    obtain ⟨x, declares⟩ := File.exists_declares h hr shown' false
    obtain ⟨p, puts, place, -⟩ := TypeDecl.exists_puts declares
    refine declaresIn_iff.2 ⟨p, (File.mem_placedIn h).2 (.inl ⟨r, hr, shown', puts⟩), ?_⟩
    rw [place, TypeDecl.place_false, first]
    rfl
  have place : ∃ rest', t.place plain = r.definition.name :: rest' := by
    rcases t.place_eq plain with e | e <;> rw [e, path, first]
    · exact ⟨rest, rfl⟩
    · exact ⟨rest ++ _, rfl⟩
  obtain ⟨rest', e⟩ := place
  rw [e]
  exact leadsTo?_eq_self_iff declared

end File

end Proto
end ProtoTypings
