import ProtoTypings.Proofs.FileTexts
import ProtoTypings.Proofs.Lookup

/-!
# Proofs.Reference

What a reference to a declared type is written as, and that the typings of the file which declares
the type have it at that path.

* `Scope.typeExpr_reference` — a reference to a declared type is followed.
* `render_declaredType` — it is written as the path of the type, under the alias of the module if
  another file declares it.
* `reference_matches_declaration` — the path of a reference is the path of the declaration.
* `Displaced`, `declarations_displaced` — what a line break in a name can do to that.
-/

namespace ProtoTypings

open TypeScript Proto SymbolTable

/-! ## Following references -/

section Declared

variable {files : List File} {G : File} {t : TypeDecl}

theorem message?_fullName (named : ∀ file ∈ files, MessagesNamed file.typeDecls)
    (distinct : (fullNames files).Nodup) (hG : G ∈ files) (ht : t ∈ G.typeDecls) {m : Message}
    (hm : t.definition = .message m) :
    (ofFiles files).message? (G.fullName t.path) = some (t.symbol G) := by
  rw [message?, get?_fullName named distinct hG ht, Option.filter_some_pos]
  simp [Symbol.isMessage, TypeDecl.symbol, TypeDefinition.symbolKind, hm]

theorem enum?_fullName (named : ∀ file ∈ files, MessagesNamed file.typeDecls)
    (distinct : (fullNames files).Nodup) (hG : G ∈ files) (ht : t ∈ G.typeDecls) {e : Enum}
    (he : t.definition = .enumeration e) :
    (ofFiles files).enum? (G.fullName t.path) = some (t.symbol G) := by
  rw [enum?, get?_fullName named distinct hG ht, Option.filter_some_pos]
  simp [Symbol.isMessage, TypeDecl.symbol, TypeDefinition.symbolKind, he]

/-- A reference to a declared type, of the kind of that type, is followed from every file. -/
theorem Scope.typeExpr_reference (named : ∀ file ∈ files, MessagesNamed file.typeDecls)
    (distinct : (fullNames files).Nodup) (hG : G ∈ files) (ht : t ∈ G.typeDecls) (F : File) :
    Scope.typeExpr ⟨ofFiles files, F⟩ (t.definition.reference (G.fullName t.path)) =
      .ok (Scope.declaredType ⟨ofFiles files, F⟩ (G.fullName t.path) (t.symbol G)) := by
  cases hd : t.definition with
  | message m =>
    simp [TypeDefinition.reference, typeExpr, message, resolved,
      message?_fullName named distinct hG ht hd, Except.map]
  | enumeration e =>
    simp [TypeDefinition.reference, typeExpr, enum, resolved,
      enum?_fullName named distinct hG ht hd, Except.map]

/-- A declared type is written as its path, and under the alias of its module in other files. -/
theorem render_declaredType (symbols : SymbolTable) (F G : File) (t : TypeDecl) :
    (Scope.declaredType ⟨symbols, F⟩ (G.fullName t.path) (t.symbol G)).render =
      if G.name = F.name then dotted t.path
      else ModulePath.importAlias G.name ++ "." ++ dotted t.path := by
  have local_ : (t.symbol G).localName (G.fullName t.path) = dotted t.path :=
    (t.symbol G).localName_dotted t.path_ne_nil
  have fileName : (t.symbol G).fileName = G.name := rfl
  simp only [Scope.declaredType, local_, fileName]
  by_cases h : G.name = F.name
  · rw [if_pos h, if_pos h]
    rfl
  · rw [if_neg h, if_neg h]
    rfl

end Declared

/-! ## References and declarations -/

/-- A name as the protocol compiler admits it for a type: not empty, without dots and without white
space. -/
def IsTypeName (name : String) : Prop :=
  name ≠ "" ∧ '.' ∉ name.toList ∧ Spaceless name

instance (name : String) : Decidable (IsTypeName name) := inferInstanceAs (Decidable (_ ∧ _ ∧ _))

theorem IsTypeName.isWord {d : TypeDefinition} (h : IsTypeName d.name) : d.IsWord :=
  h.2.2.not_mem (by decide)

/-- Among files with distinct names whose types have distinct full names, a reference from `F` to a
type that `G` declares is written as the path of the type, under the alias of the module of `G` if
that is another file. If the type is shown and no text that the typings of `G` are written with has
a line break, they declare it at this very path: a class, or an enum, of the type's name stands
inside exactly the namespaces of the messages around it. -/
theorem reference_matches_declaration {files : List File}
    (fileNames : (files.map (·.name)).Nodup) (distinct : (fullNames files).Nodup)
    (names : ∀ file ∈ files, ∀ t ∈ file.typeDecls, IsTypeName t.definition.name)
    {F G : File} (hF : F ∈ files) (hG : G ∈ files) {t : TypeDecl} (ht : t ∈ G.typeDecls) :
    (G = F → (Scope.typeExpr ⟨ofFiles files, F⟩
        (t.definition.reference (G.fullName t.path))).map TypeExpr.render =
      .ok (dotted t.path)) ∧
    (G ≠ F → (Scope.typeExpr ⟨ofFiles files, F⟩
        (t.definition.reference (G.fullName t.path))).map TypeExpr.render =
      .ok (ModulePath.importAlias G.name ++ "." ++ dotted t.path)) ∧
    ∀ settings text, t.isShown → G.text settings (ofFiles files) = .ok text →
      (∀ u ∈ G.writtenTexts settings (ofFiles files), OneLine u) →
        Declares (marks text) (t.outer.map (·.name)) t.definition.headingKind
          t.definition.name := by
  have named : ∀ file ∈ files, MessagesNamed file.typeDecls := by
    intro file hf u hu m hm
    have := (names file hf u hu).1
    rwa [hm] at this
  have followed := Scope.typeExpr_reference named distinct hG ht F
  refine ⟨?_, ?_, ?_⟩
  · rintro rfl
    rw [followed, Except.map, render_declaredType, if_pos rfl]
  · intro other
    have otherName : G.name ≠ F.name := fun e =>
      other (List.inj_on_of_nodup_map fileNames hG hF e)
    rw [followed, Except.map, render_declaredType, if_neg otherName]
  · intro settings text shown h texts
    obtain ⟨m, hm, rfl⟩ := Check.map_eq_ok.1 h
    have outline : lineMarks m.lines = G.marks :=
      File.lineMarks_typings hm fun u hu _ => (names G hG u hu).isWord
    rw [marks_render_of_oneLine (File.oneLine_typings hm texts), outline]
    exact File.declares ht shown

namespace Sample

def item : Message :=
  { name := "Item", isMapEntry := false, fields := [], oneofs := [], nested := [],
    enums := [⟨"Kind", [⟨"NONE", 0⟩]⟩] }

def order : Message :=
  { name := "Order", isMapEntry := false,
    fields := [.plain "first" 1 (.message "Order.Order.Item")], oneofs := [], nested := [item],
    enums := [] }

/-- A file whose package has the name of its message. -/
def orderFile : File :=
  { name := "shop/order.proto", package := some "Order", dialect := .proto3, dependencies := [],
    messages := [order], enums := [], extensions := [] }

/-- A file without a package that refers to a message of `orderFile`. -/
def cartFile : File :=
  { name := "cart.proto", package := none, dialect := .proto3, dependencies := ["shop/order.proto"],
    messages := [
      { name := "Cart", isMapEntry := false,
        fields := [.plain "item" 1 (.message "Order.Order.Item")], oneofs := [], nested := [],
        enums := [] }],
    enums := [], extensions := [] }

def files : List File := [orderFile, cartFile]

end Sample

open Sample in
theorem sample_reference_matches_declaration :
    (Scope.typeExpr ⟨ofFiles files, orderFile⟩ (.message "Order.Order.Item")).map TypeExpr.render =
      .ok "Order.Item" ∧
    (Scope.typeExpr ⟨ofFiles files, cartFile⟩ (.message "Order.Order.Item")).map TypeExpr.render =
      .ok "shop_order_pb.Order.Item" ∧
    ∃ text, orderFile.text {} (ofFiles files) = .ok text ∧
      Declares (marks text) ["Order"] .classDecl "Item" := by
  have fileNames : (files.map (·.name)).Nodup := by decide
  have distinct : (fullNames files).Nodup := by decide
  have names : ∀ file ∈ files, ∀ t ∈ file.typeDecls, IsTypeName t.definition.name := by decide
  have declared : ⟨[order], .message item⟩ ∈ orderFile.typeDecls :=
    List.mem_of_getElem? (i := 1) rfl
  have inOrder := reference_matches_declaration fileNames distinct names
    (F := orderFile) (G := orderFile) (.head _) (.head _) declared
  have inCart := reference_matches_declaration fileNames distinct names
    (F := cartFile) (G := orderFile) (.tail _ (.head _)) (.head _) declared
  refine ⟨inOrder.1 rfl, inCart.2.1 ?_, ?_⟩
  · intro h
    exact absurd (congrArg File.name h) (by decide)
  · obtain ⟨text, h⟩ : ∃ text, orderFile.text {} (ofFiles files) = .ok text := ⟨_, rfl⟩
    exact ⟨text, h, inOrder.2.2 {} text rfl h (by decide)⟩

/-! ## Line breaks -/

/-- Files whose names are distinct and whose types are named as they should be, and yet the typings
of one of them declare a type that it shows elsewhere than at its path. -/
def Displaced (settings : Settings) (files : List File) : Prop :=
  (files.map (·.name)).Nodup ∧ (fullNames files).Nodup ∧
    (∀ file ∈ files, ∀ t ∈ file.typeDecls, IsTypeName t.definition.name) ∧
    ∃ G ∈ files, ∃ t ∈ G.typeDecls, t.isShown ∧
      ∃ text, G.text settings (ofFiles files) = .ok text ∧
        ¬ Declares (marks text) (t.outer.map (·.name)) t.definition.headingKind t.definition.name

/-- What a text declares can be read off the lines that are joined to it. -/
theorem displaced_iff {settings : Settings} {files : List File} :
    Displaced settings files ↔
      (files.map (·.name)).Nodup ∧ (fullNames files).Nodup ∧
        (∀ file ∈ files, ∀ t ∈ file.typeDecls, IsTypeName t.definition.name) ∧
        ∃ G ∈ files, ∃ t ∈ G.typeDecls, t.isShown ∧
          ∃ m ∈ (G.typings settings (ofFiles files)).toOption,
            ¬ Declares (m.lines.flatMap Line.marks) (t.outer.map (·.name))
              t.definition.headingKind t.definition.name := by
  have texts (G : File) (t : TypeDecl) :
      (∃ text, G.text settings (ofFiles files) = .ok text ∧
        ¬ Declares (marks text) (t.outer.map (·.name)) t.definition.headingKind
          t.definition.name) ↔
      ∃ m ∈ (G.typings settings (ofFiles files)).toOption,
        ¬ Declares (m.lines.flatMap Line.marks) (t.outer.map (·.name)) t.definition.headingKind
          t.definition.name := by
    rw [File.text]
    cases G.typings settings (ofFiles files) with
    | error e => simp [Except.map, Except.toOption]
    | ok m => simp [Except.map, Except.toOption, marks_render]
  simp only [Displaced, texts]

instance (settings : Settings) (files : List File) : Decidable (Displaced settings files) :=
  decidable_of_iff _ displaced_iff.symm

namespace Sample

/-- After its line break this text reads as the heading of a namespace. -/
def opening : String := "a\nexport namespace A \x7b"

/-- Between its line breaks this text reads as the end of a block. -/
def closing : String := "oak\n\x7d\n"

def size : Enum := ⟨"Size", [⟨"SMALL", 0⟩]⟩

/-- A file with an enum. -/
def hallFile : File :=
  { name := "hall.proto", package := none, dialect := .proto2, dependencies := [], messages := [],
    enums := [size], extensions := [] }

/-- A file with another enum, which has such a text for its path. -/
def lampFile : File :=
  { name := opening, package := none, dialect := .proto2, dependencies := [], messages := [],
    enums := [⟨"Lamp", [⟨"LED", 0⟩]⟩], extensions := [] }

/-- A file with a message in which two enums are nested, the first with such a name for a value. -/
def cellarFile : File :=
  { name := "cellar.proto", package := none, dialect := .proto3, dependencies := [],
    messages := [
      { name := "Cellar", isMapEntry := false, fields := [], oneofs := [], nested := [],
        enums := [⟨"Wood", [⟨closing, 0⟩]⟩, size] }],
    enums := [], extensions := [] }

end Sample

open Sample in
/-- A line break in the runtime module, in a package or in a path may put declarations into what is
no namespace of theirs. One in the name of an enum value may take them out of their own; the names
of oneofs and of their members are written in enumerations too. -/
theorem declarations_displaced :
    Displaced { runtimeModule := opening } [hallFile] ∧
      Displaced {} [{ hallFile with package := some opening }] ∧
      Displaced {} [{ hallFile with name := opening }] ∧
      Displaced {} [{ hallFile with dependencies := [opening] }] ∧
      Displaced {}
        [{ hallFile with extensions := [.plain "lamp" 9 (.enumeration "Lamp")] }, lampFile] ∧
      Displaced {} [cellarFile] := by
  decide +kernel

end ProtoTypings
