import ProtoTypings.Proofs.FileOutline

/-!
# Proofs.Placement

Where declarations stand in typings: every declaration, at any depth, with the names of the
namespaces around it, and which of them a type of the file is the reason for.

* `Placed`, `placedIn` — declarations in their places.
* `TypeDecl.Puts` — what a type puts into typings.
* `File.mem_placedIn` — the declarations of a file are those of its types and its extensions.
-/

namespace ProtoTypings
namespace TypeScript

/-- A declaration and the namespaces that it stands in, the outermost first. -/
structure Placed where
  around : List String
  declaration : Declaration

mutual

/-- A declaration and all that is nested in it, in the places that they have. -/
def Declaration.placed (around : List String) : Declaration → List Placed
  | .namespaceDecl name body =>
    ⟨around, .namespaceDecl name body⟩ :: placedIn (around ++ [name]) body
  | .classDecl name members => [⟨around, .classDecl name members⟩]
  | .objectType properties => [⟨around, .objectType properties⟩]
  | .enumDecl e => [⟨around, .enumDecl e⟩]
  | .constDecl name type => [⟨around, .constDecl name type⟩]

def placedIn (around : List String) : List Declaration → List Placed
  | [] => []
  | d :: ds => d.placed around ++ placedIn around ds

end

theorem placedIn_eq_flatMap (around : List String) (ds : List Declaration) :
    placedIn around ds = ds.flatMap (·.placed around) := by
  induction ds with
  | nil => rfl
  | cons d ds ih => rw [placedIn, List.flatMap_cons, ih]

theorem placedIn_append (around : List String) (ds es : List Declaration) :
    placedIn around (ds ++ es) = placedIn around ds ++ placedIn around es := by
  simp [placedIn_eq_flatMap]

theorem placedIn_enums {α : Type} (around : List String) (f : α → EnumDeclaration) (as : List α) :
    placedIn around (as.map fun a => .enumDecl (f a)) =
      as.map fun a => ⟨around, .enumDecl (f a)⟩ := by
  induction as with
  | nil => rfl
  | cons a as ih => rw [List.map_cons, placedIn, ih]; rfl

end TypeScript

namespace Proto

open TypeScript

/-! ## Messages -/

/-- What a message puts into typings in some namespaces, what is nested in it left out. -/
def Message.placements (m : Message) (outer : List String) (exposed : List ExposedField)
    (inner : List Declaration) : List Placed :=
  [⟨outer, .classDecl m.name (m.members exposed)⟩,
    ⟨outer, .namespaceDecl m.name (m.namespaceBody exposed inner)⟩,
    ⟨outer ++ [m.name], .objectType (exposed.map (·.property))⟩] ++
    m.caseDeclarations.map fun e => ⟨outer ++ [m.name], .enumDecl e⟩

/-- What a type puts into typings in some namespaces, what is nested in it left out. -/
def TypeDecl.Puts (s : Scope) (around : List String) (t : TypeDecl) (p : Placed) : Prop :=
  match t.definition with
  | .message m => ∃ exposed inner, each s.expose m.fields = .ok exposed ∧
      messageDeclarations s m.nested = .ok inner ∧
      p ∈ m.placements (around ++ t.outer.map (·.name)) exposed inner
  | .enumeration e => p = ⟨around ++ t.outer.map (·.name), .enumDecl e.declaration⟩

theorem TypeDecl.puts_inside {s : Scope} {around : List String} {m : Message} {t : TypeDecl}
    {p : Placed} : (t.inside m).Puts s around p ↔ t.Puts s (around ++ [m.name]) p := by
  simp only [TypeDecl.Puts, definition_inside, outer_inside, List.map_cons, List.append_assoc,
    List.singleton_append]

theorem TypeDecl.puts_enum {s : Scope} {around : List String} {outer : List Message} {e : Enum}
    {p : Placed} : (TypeDecl.mk outer (.enumeration e)).Puts s around p ↔
      p = ⟨around ++ outer.map (·.name), .enumDecl e.declaration⟩ := .rfl

theorem TypeDecl.puts_message {s : Scope} {around : List String} {outer : List Message}
    {m : Message} {exposed : List ExposedField} {inner : List Declaration}
    (he : each s.expose m.fields = .ok exposed) (hi : messageDeclarations s m.nested = .ok inner)
    {p : Placed} : (TypeDecl.mk outer (.message m)).Puts s around p ↔
      p ∈ m.placements (around ++ outer.map (·.name)) exposed inner := by
  simp [TypeDecl.Puts, he, hi]

theorem mem_placedIn_messages {s : Scope} {ms : List Message} {ds : List Declaration}
    (h : messageDeclarations s ms = .ok ds) {around : List String} {p : Placed} :
    p ∈ placedIn around ds ↔
      ∃ m ∈ ms, ∃ own, m.declarations s = .ok own ∧ p ∈ placedIn around own := by
  induction ms generalizing ds with
  | nil =>
    cases h
    simp [placedIn]
  | cons m ms ih =>
    obtain ⟨first, rest, hf, hr, rfl⟩ := messageDeclarations_cons_eq_ok.1 h
    simp [placedIn_append, ih hr, hf]

theorem Message.mem_placedIn_own {m : Message} {around : List String}
    {exposed : List ExposedField} {inner : List Declaration} {p : Placed} :
    p ∈ placedIn around [.classDecl m.name (m.members exposed),
        .namespaceDecl m.name (m.namespaceBody exposed inner)] ↔
      p ∈ placedIn (around ++ [m.name]) inner ∨
        (∃ e ∈ m.enums, p = ⟨around ++ [m.name], .enumDecl e.declaration⟩) ∨
        p ∈ m.placements around exposed inner := by
  have enums : p ∈ placedIn (around ++ [m.name]) (m.enums.map fun e => .enumDecl e.declaration) ↔
      ∃ e ∈ m.enums, p = ⟨around ++ [m.name], .enumDecl e.declaration⟩ := by
    rw [placedIn_enums, List.mem_map]
    simp only [eq_comm]
  have cases_ : placedIn (around ++ [m.name]) (m.caseDeclarations.map .enumDecl) =
      m.caseDeclarations.map fun e => ⟨around ++ [m.name], .enumDecl e⟩ :=
    placedIn_enums _ id _
  rw [← enums]
  simp only [placedIn, Declaration.placed, Message.namespaceBody, Message.placements,
    placedIn_append, List.cons_append, cases_, List.mem_append, List.mem_cons, List.append_nil,
    List.nil_append]
  grind

/-- What the types that a message shows put into typings comes from the messages nested in it, from
its enums, and from itself. -/
theorem Message.exists_puts_iff {s : Scope} {m : Message} {around : List String}
    {exposed : List ExposedField} {inner : List Declaration} (hm : m.isMapEntry = false)
    (he : each s.expose m.fields = .ok exposed) (hi : messageDeclarations s m.nested = .ok inner)
    {p : Placed} :
    (∃ t ∈ m.typeDecls, t.isShown ∧ t.Puts s around p) ↔
      (∃ n ∈ m.nested, ∃ u ∈ n.typeDecls, u.isShown ∧ u.Puts s (around ++ [m.name]) p) ∨
        (∃ e ∈ m.enums, p = ⟨around ++ [m.name], .enumDecl e.declaration⟩) ∨
          p ∈ m.placements around exposed inner := by
  constructor
  · rintro ⟨t, ht, shown, puts⟩
    rcases Message.mem_typeDecls.1 ht with ⟨n, hn, u, hu, rfl⟩ | ⟨e, he, rfl⟩ | rfl
    · rw [TypeDecl.isShown_inside, hm] at shown
      exact .inl ⟨n, hn, u, hu, by simpa using shown, TypeDecl.puts_inside.1 puts⟩
    · exact .inr (.inl ⟨e, he, TypeDecl.puts_enum.1 puts⟩)
    · exact .inr (.inr (by simpa using (TypeDecl.puts_message he hi).1 puts))
  · rintro (⟨n, hn, u, hu, shown, puts⟩ | ⟨e, he, puts⟩ | puts)
    · refine ⟨u.inside m, Message.mem_typeDecls.2 (.inl ⟨n, hn, u, hu, rfl⟩), ?_,
        TypeDecl.puts_inside.2 puts⟩
      rw [TypeDecl.isShown_inside, hm, shown]
      rfl
    · exact ⟨_, Message.mem_typeDecls.2 (.inr (.inl ⟨e, he, rfl⟩)), by
        simp [TypeDecl.isShown, TypeDefinition.isMapEntry, hm], TypeDecl.puts_enum.2 puts⟩
    · exact ⟨_, Message.mem_typeDecls.2 (.inr (.inr rfl)), by
        simp [TypeDecl.isShown, TypeDefinition.isMapEntry, hm],
        (TypeDecl.puts_message he hi).2 (by simpa using puts)⟩

/-- What a message declares is what the types that it shows put into typings. -/
theorem Message.mem_placedIn {s : Scope} (m : Message) :
    ∀ {around : List String} {ds : List Declaration}, m.declarations s = .ok ds → ∀ {p : Placed},
      p ∈ placedIn around ds ↔ ∃ t ∈ m.typeDecls, t.isShown ∧ t.Puts s around p := by
  induction m using Message.nested_induction with
  | step m ih =>
    intro around ds h p
    rcases Message.declarations_eq_ok.1 h with ⟨hm, rfl⟩ | ⟨hm, exposed, inner, he, hi, rfl⟩
    · -- Nothing in a message behind a map field is shown.
      constructor
      · intro hp
        cases hp
      · rintro ⟨t, ht, shown, -⟩
        rcases Message.mem_typeDecls.1 ht with ⟨n, -, u, -, rfl⟩ | ⟨e, -, rfl⟩ | rfl <;>
          simp [TypeDecl.isShown, TypeDefinition.isMapEntry, hm] at shown
    have nested : p ∈ placedIn (around ++ [m.name]) inner ↔
        ∃ n ∈ m.nested, ∃ u ∈ n.typeDecls, u.isShown ∧ u.Puts s (around ++ [m.name]) p := by
      rw [mem_placedIn_messages hi]
      constructor
      · rintro ⟨n, hn, own, hown, hp⟩
        exact ⟨n, hn, (ih n hn hown).1 hp⟩
      · rintro ⟨n, hn, found⟩
        obtain ⟨own, hown, -⟩ := exists_declarations hi hn
        exact ⟨n, hn, own, hown, (ih n hn hown).2 found⟩
    rw [Message.mem_placedIn_own, nested, Message.exists_puts_iff hm he hi]

/-! ## Files -/

/-- The constant that an extension becomes stands in no namespace. -/
def Field.PutsConst (s : Scope) (f : Field) (p : Placed) : Prop :=
  ∃ type, s.typeExpr f.type = .ok type ∧
    p = ⟨[], .constDecl f.camelName (.generic "jspb.ExtensionFieldInfo" type)⟩

theorem mem_placedIn_extensions {s : Scope} {fs : List Field} {ds : List Declaration}
    (h : each (Field.extensionDeclaration s) fs = .ok ds) {p : Placed} :
    p ∈ placedIn [] ds ↔ ∃ f ∈ fs, f.PutsConst s p := by
  induction fs generalizing ds with
  | nil =>
    cases h
    simp [placedIn]
  | cons f fs ih =>
    obtain ⟨d, rest, hd, hr, rfl⟩ := each_cons_eq_ok.1 h
    obtain ⟨type, ht, rfl⟩ := Check.map_eq_ok.1 hd
    simp [placedIn, Declaration.placed, Field.PutsConst, ih hr, ht]

/-- What a file declares is what the types that it shows put into typings, and its extensions. -/
theorem File.mem_placedIn {symbols : SymbolTable} {file : File} {ds : List Declaration}
    (h : file.declarations symbols = .ok ds) {p : Placed} :
    p ∈ placedIn [] ds ↔
      (∃ t ∈ file.typeDecls, t.isShown ∧ t.Puts ⟨symbols, file⟩ [] p) ∨
        ∃ f ∈ file.extensions, f.PutsConst ⟨symbols, file⟩ p := by
  obtain ⟨messages, extensions, hm, hx, rfl⟩ := File.declarations_eq_ok.1 h
  have inMessages : p ∈ placedIn [] messages ↔ ∃ m ∈ file.messages, ∃ t ∈ m.typeDecls,
      t.isShown ∧ t.Puts ⟨symbols, file⟩ [] p := by
    rw [mem_placedIn_messages hm]
    constructor
    · rintro ⟨m, hm, own, hown, hp⟩
      exact ⟨m, hm, (m.mem_placedIn hown).1 hp⟩
    · rintro ⟨m, hmem, found⟩
      obtain ⟨own, hown, -⟩ := exists_declarations hm hmem
      exact ⟨m, hmem, own, hown, (m.mem_placedIn hown).2 found⟩
  have inEnums : p ∈ placedIn [] (file.enums.map fun e => .enumDecl e.declaration) ↔
      ∃ e ∈ file.enums, p = ⟨[], .enumDecl e.declaration⟩ := by
    rw [placedIn_enums, List.mem_map]
    simp only [eq_comm]
  have types : (∃ t ∈ file.typeDecls, t.isShown ∧ t.Puts ⟨symbols, file⟩ [] p) ↔
      (∃ m ∈ file.messages, ∃ t ∈ m.typeDecls, t.isShown ∧ t.Puts ⟨symbols, file⟩ [] p) ∨
        ∃ e ∈ file.enums, p = ⟨[], .enumDecl e.declaration⟩ := by
    constructor
    · rintro ⟨t, ht, shown, puts⟩
      rcases List.mem_append.1 ht with ht | ht
      · obtain ⟨m, hm, ht⟩ := List.mem_flatMap.1 ht
        exact .inl ⟨m, hm, t, ht, shown, puts⟩
      · obtain ⟨e, he, rfl⟩ := List.mem_map.1 ht
        exact .inr ⟨e, he, TypeDecl.puts_enum.1 puts⟩
    · rintro (⟨m, hm, t, ht, found⟩ | ⟨e, he, puts⟩)
      · exact ⟨t, List.mem_append_left _ (List.mem_flatMap.2 ⟨m, hm, ht⟩), found⟩
      · exact ⟨_, List.mem_append_right _ (List.mem_map.2 ⟨e, he, rfl⟩), rfl,
          TypeDecl.puts_enum.2 puts⟩
  rw [placedIn_append, placedIn_append, List.mem_append, List.mem_append, inMessages,
    mem_placedIn_extensions hx, inEnums, types, or_right_comm]

end Proto
end ProtoTypings
