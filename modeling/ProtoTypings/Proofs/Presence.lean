import ProtoTypings.Proofs.ClassText
import ProtoTypings.Proofs.Declared
import ProtoTypings.Proofs.OneofNumbering

/-!
# Proofs.Presence

Which fields can be asked if they are set and which can be cleared, from the descriptors down to the
lines of the typings.

* `PresencePolicy` — the methods for this in the accessors of a field, by its descriptor.
* `Field.hasPresence_iff` — leaving synthetic oneofs out takes the presence of no field away.
* `text_follows_presencePolicy` — the accessors of every field in a text follow the policy.
-/

namespace ProtoTypings

open TypeScript

/-! ## Lines that begin with a word -/

namespace TypeScript

/-- The lines that begin with a word. -/
def linesFrom (word : String) (lines : List String) : List String :=
  lines.filter fun line => word.toList <+: line.toList

theorem linesFrom_append (word : String) (ls ms : List String) :
    linesFrom word (ls ++ ms) = linesFrom word ls ++ linesFrom word ms :=
  List.filter_append ls ms

theorem linesFrom_eq_nil {word : String} {ms : List Member}
    (h : ∀ m ∈ ms, ¬ word.toList <+: m.render.toList) :
    linesFrom word (ms.map Member.render) = [] := by
  rw [linesFrom, List.filter_eq_nil_iff]
  intro line hl
  obtain ⟨m, hm, rfl⟩ := List.mem_map.1 hl
  simpa using h m hm

theorem linesFrom_of_not_prefix {word : String} {m : Member}
    (h : ¬ word.toList <+: m.render.toList) : linesFrom word [m.render] = [] := by
  have single : ∀ n ∈ [m], ¬ word.toList <+: n.render.toList := by simpa using h
  exact linesFrom_eq_nil single

theorem render_call (name : String) (parameters : List Parameter) (result : TypeExpr) :
    (Member.call name parameters result).render = name ++
      ("(" ++ ", ".intercalate (parameters.map Parameter.render) ++ "): " ++ result.render ++
        ";") := by
  simp [Member.call, Member.render, staticMark, String.append_assoc]

theorem render_presence (name : String) :
    (Member.presence name).render = "has" ++ name ++ "(): boolean;" := by
  rw [Member.presence, render_call]
  rfl

theorem render_clearer (name : String) :
    (Member.clearer name).render = "clear" ++ name ++ "(): void;" := by
  rw [Member.clearer, render_call]
  rfl

/-- Words that differ in their first character begin no common line. -/
theorem not_prefix_call {word verb : String} {a b : Char} (hw : word.toList.head? = some a)
    (hv : verb.toList.head? = some b) (ne : a ≠ b) (name : String) (parameters : List Parameter)
    (result : TypeExpr) :
    ¬ word.toList <+: (Member.call (verb ++ name) parameters result).render.toList := by
  obtain ⟨ws, hw⟩ := List.head?_eq_some_iff.1 hw
  obtain ⟨vs, hv⟩ := List.head?_eq_some_iff.1 hv
  rw [render_call, String.toList_append, String.toList_append, hw, hv]
  simp [ne]

end TypeScript

/-! ## Accessors -/

def Exposure.isMap : Exposure → Bool
  | map _ => true
  | scalar _ | bytes | enumeration _ | message _ => false

theorem Scope.isMap_of_exposure {s : Scope} {f : Proto.Field} {e : Exposure}
    (h : s.exposure f = .ok e) : s.isMap f = .ok e.isMap := by
  obtain ⟨fieldName, number, label, type, oneofIndex, proto3Optional⟩ := f
  cases type with
  | scalar scalar => cases scalar <;> cases h <;> rfl
  | enumeration name =>
    obtain ⟨type, -, rfl⟩ := Check.map_eq_ok.1 h
    rfl
  | message name =>
    obtain ⟨symbol, hs, h⟩ := Check.bind_eq_ok.1 h
    have entry : s.isMap ⟨fieldName, number, label, .message name, oneofIndex, proto3Optional⟩ =
        .ok symbol.mapEntry.isSome := by
      simp [isMap, mapEntry, hs, Except.map]
    rw [entry]
    cases hm : symbol.mapEntry with
    | none =>
      simp only [hm] at h
      cases h
      rfl
    | some entry =>
      simp only [hm] at h
      obtain ⟨view, -, rfl⟩ := Check.map_eq_ok.1 h
      rfl

theorem Scope.expose_eq_ok {s : Scope} {f : Proto.Field} {exposed : ExposedField} :
    s.expose f = .ok exposed ↔ exposed.field = f ∧ s.exposure f = .ok exposed.exposure ∧
      exposed.hasPresence = s.hasPresence f := by
  rw [expose, Check.map_eq_ok]
  constructor
  · rintro ⟨exposure, h, rfl⟩
    exact ⟨rfl, h, rfl⟩
  · rintro ⟨rfl, h, same⟩
    exact ⟨_, h, by rw [← same]⟩

namespace ExposedField

/-- Getters, setters and adders aside, a map has a method that clears it, and any other field has
those by which it is asked for and cleared. -/
theorem linesFrom_accessors {word : String} {a : Char} (hw : word.toList.head? = some a)
    (g : a ≠ 'g') (s : a ≠ 's') (d : a ≠ 'a') (f : ExposedField) :
    linesFrom word (f.accessors.map Member.render) =
      if f.exposure.isMap then
        linesFrom word [(Member.clearer (f.field.pascalName ++ "Map")).render]
      else linesFrom word (f.presenceAccessors.map Member.render) := by
  have getter : ∀ name type, ¬ word.toList <+: (Member.getter name type).render.toList :=
    fun name type => not_prefix_call hw rfl g name _ _
  have setter : ∀ name mayOmit type,
      ¬ word.toList <+: (Member.setter name mayOmit type).render.toList :=
    fun name _ _ => not_prefix_call hw rfl s name _ _
  have adder : ∀ name mayOmit item,
      ¬ word.toList <+: (Member.adder name mayOmit item).render.toList :=
    fun name _ _ => not_prefix_call hw rfl d name _ _
  have bytes := linesFrom_eq_nil (f.forall_bytesAccessors getter setter adder)
  have values : ∀ value mayOmit,
      linesFrom word ((f.valueAccessors value mayOmit).map Member.render) = [] := by
    intro value mayOmit
    exact linesFrom_eq_nil (f.forall_valueAccessors value mayOmit getter setter adder)
  unfold accessors
  cases f.exposure with
  | map types => simp [mapAccessors, linesFrom, getter, Exposure.isMap]
  | bytes => simp [linesFrom_append, bytes, Exposure.isMap]
  | scalar type | enumeration type | message type =>
    simp [linesFrom_append, values, Exposure.isMap]

theorem linesFrom_has (f : ExposedField) :
    linesFrom "has" (f.accessors.map Member.render) =
      if f.exposure.isMap = false ∧ f.hasPresence then
        ["has" ++ f.field.pascalName ++ "(): boolean;"] else [] := by
  have clearer : ∀ name, ¬ "has".toList <+: (Member.clearer name).render.toList := fun name =>
    not_prefix_call (a := 'h') rfl rfl (by decide) name _ _
  have cleared : linesFrom "has" ((if f.isClearable then
      [Member.clearer (f.field.pascalName ++ f.listSuffix)] else []).map Member.render) = [] := by
    split
    · exact linesFrom_of_not_prefix (clearer _)
    · rfl
  rw [linesFrom_accessors (a := 'h') rfl (by decide) (by decide) (by decide), presenceAccessors,
    List.map_append, linesFrom_append, cleared, linesFrom_of_not_prefix (clearer _)]
  cases f.exposure.isMap with
  | true => rfl
  | false => cases f.hasPresence <;> simp [linesFrom, render_presence]

/-- A field has the method by which it is asked for if its presence is known and it is no map. -/
theorem mem_accessors_iff (f : ExposedField) :
    "has" ++ f.field.pascalName ++ "(): boolean;" ∈ f.accessors.map Member.render ↔
      f.exposure.isMap = false ∧ f.hasPresence := by
  have begins : "has".toList <+: ("has" ++ f.field.pascalName ++ "(): boolean;").toList := by
    simp
  have mem : "has" ++ f.field.pascalName ++ "(): boolean;" ∈ f.accessors.map Member.render ↔
      "has" ++ f.field.pascalName ++ "(): boolean;" ∈
        linesFrom "has" (f.accessors.map Member.render) := by
    rw [linesFrom, List.mem_filter, decide_eq_true_iff, and_iff_left begins]
  rw [mem, linesFrom_has]
  split <;> simp [*]

/-- The ending of the name of the method that clears a field. -/
def clearSuffix (f : ExposedField) : String := if f.exposure.isMap then "Map" else f.listSuffix

theorem linesFrom_clear (f : ExposedField) :
    linesFrom "clear" (f.accessors.map Member.render) =
      if f.exposure.isMap ∨ f.isClearable then
        ["clear" ++ f.field.pascalName ++ f.clearSuffix ++ "(): void;"] else [] := by
  have presence : ∀ name, ¬ "clear".toList <+: (Member.presence name).render.toList := fun name =>
    not_prefix_call (a := 'c') rfl rfl (by decide) name _ _
  have asked : linesFrom "clear" ((if f.hasPresence then
      [Member.presence f.field.pascalName] else []).map Member.render) = [] := by
    split
    · exact linesFrom_of_not_prefix (presence _)
    · rfl
  rw [linesFrom_accessors (a := 'c') rfl (by decide) (by decide) (by decide), presenceAccessors,
    List.map_append, linesFrom_append, asked, clearSuffix]
  cases f.exposure.isMap with
  | true => simp [linesFrom, render_clearer, String.append_assoc]
  | false => cases f.isClearable <;> simp [linesFrom, render_clearer, String.append_assoc]

end ExposedField

/-! ## Descriptors -/

namespace Descriptor

/-- Every oneof that a `proto3_optional` field points at has no other member. -/
def Message.OptionalsAlone (d : Message) : Prop :=
  ∀ f ∈ d.fields, f.proto3Optional = some true → ∀ i < d.oneofs.length, f.PointsAt i →
    ∀ g ∈ d.fields, g.PointsAt i → g = f

instance (d : Message) : Decidable d.OptionalsAlone :=
  inferInstanceAs (Decidable (∀ f ∈ d.fields, _))

/-- Whether a field of a message can be asked if it is set, unless it is a map. Label 3 is for
repeated fields, types 10 and 11 are groups and messages. -/
def Field.HasPresence (file : File) (d : Message) (g : Field) : Prop :=
  g.label ≠ some 3 ∧
    ((∃ i < d.oneofs.length, g.PointsAt i) ∨ g.proto3Optional = some true ∨
      (g.type = some 10 ∨ g.type = some 11) ∨
      file.syntaxName ∈ [none, some "", some "proto2"])

instance (file : File) (d : Message) (g : Field) : Decidable (g.HasPresence file d) :=
  inferInstanceAs (Decidable (_ ∧ _))

end Descriptor

namespace Proto

theorem labelOf_eq_repeated {field : String} {label : Option Int32} {l : Label}
    (h : Field.labelOf field label = .ok l) : l = .repeated ↔ label = some 3 := by
  cases label with
  | none =>
    cases h
    simp
  | some n =>
    have number : Label.ofNumber? n = some .repeated ↔ n = 3 := by
      rw [← Int32.toInt_inj]
      unfold Label.ofNumber?
      split <;> simp_all
    simp only [Field.labelOf] at h
    split at h
    · cases h
    · rename_i found
      cases h
      rw [Option.some.injEq, ← number, found, Option.some.injEq]

theorem typeOf_isMessage {field : String} {type : Option Int32} {typeName : Option String}
    {t : FieldType} (h : Field.typeOf field type typeName = .ok t) :
    (∃ name, t = .message name) ↔ type = some 10 ∨ type = some 11 := by
  cases type with
  | none => cases h
  | some n =>
    have number : TypeCode.ofNumber? n = some .message ↔ n = 10 ∨ n = 11 := by
      refine ⟨eq_of_ofNumber?_message, ?_⟩
      rintro (rfl | rfl) <;> rfl
    simp only [Option.some.injEq, ← number]
    simp only [Field.typeOf] at h
    split at h
    · cases h
    · rename_i code
      cases h
      simp [code]
    · rename_i code
      obtain ⟨name, -, rfl⟩ := Check.map_eq_ok.1 h
      simp [code]
    · rename_i code
      obtain ⟨name, -, rfl⟩ := Check.map_eq_ok.1 h
      simp [code]

theorem Dialect.ofName_eq_proto2 {file : String} {name : Option String} {dialect : Dialect}
    (h : Dialect.ofName file name = .ok dialect) :
    dialect = .proto2 ↔ name ∈ [none, some "", some "proto2"] := by
  cases name with
  | none =>
    cases h
    simp
  | some name =>
    simp only [Dialect.ofName] at h
    split at h
    · cases h
      simpa
    · split at h
      · cases h
        simp_all
      · cases h

/-- A field that moves to a oneof which is kept, or is `proto3_optional`, is one that points at a
oneof or is `proto3_optional`: the oneofs that are left out have no members but such fields. -/
theorem Field.isSome_oneofIndex_or {d : Descriptor.Message} (alone : d.OptionalsAlone)
    {g : Descriptor.Field} (hg : g ∈ d.fields) {f : Field}
    (h : Field.MovesTo (realIndices d.oneofs.length (isSynthetic d.fields)) g f) :
    f.oneofIndex.isSome ∨ g.proto3Optional = some true ↔
      (∃ i < d.oneofs.length, g.PointsAt i) ∨ g.proto3Optional = some true := by
  refine or_congr_left' fun plain => ?_
  rw [Option.isSome_iff_exists]
  constructor
  · rintro ⟨j, hj⟩
    obtain ⟨i, hi, points⟩ := (h.2 j).1 hj
    exact ⟨i, (mem_realIndices.1 (List.mem_of_getElem? hi)).1, points⟩
  · rintro ⟨i, hi, points⟩
    have small : i < 2 ^ 31 := by
      obtain ⟨n, -, hn⟩ := pointsAt_iff.1 points
      have := n.toInt_lt
      omega
    -- A `proto3_optional` field that makes the oneof synthetic would be this field itself.
    have real : isSynthetic d.fields i = false := by
      rw [← Bool.not_eq_true, isSynthetic_iff small]
      rintro ⟨f, hf, optional, other⟩
      rw [alone f hf optional i hi other g hg points] at plain
      exact plain optional
    obtain ⟨j, hj⟩ := List.getElem?_of_mem (mem_realIndices.2 ⟨hi, real⟩)
    exact ⟨j, (h.2 j).2 ⟨i, hj, points⟩⟩

theorem Field.isRepeated_of_isImage {g : Descriptor.Field} {f : Field} (h : Field.IsImage g f) :
    f.isRepeated ↔ g.label = some 3 := by
  obtain ⟨scope, image, hi, e⟩ := h
  obtain ⟨name, label, type, -, hl, -, rfl⟩ := Field.ofDescriptor_eq_ok.1 hi
  rw [e, Field.isRepeated, beq_iff_eq]
  exact labelOf_eq_repeated hl

/-- Leaving synthetic oneofs out takes the presence of no field away. -/
theorem Field.hasPresence_iff {dfile : Descriptor.File} {s : Scope}
    (converts : File.ofDescriptor dfile = .ok s.file) {d : Descriptor.Message}
    (alone : d.OptionalsAlone) {g : Descriptor.Field} (hg : g ∈ d.fields) {f : Field}
    (h : Field.MovesTo (realIndices d.oneofs.length (isSynthetic d.fields)) g f) :
    s.hasPresence f ↔ g.HasPresence dfile d := by
  have oneof := Field.isSome_oneofIndex_or alone hg h
  obtain ⟨scope, image, hi, e⟩ := h.1
  obtain ⟨name, label, type, -, -, ht, rfl⟩ := Field.ofDescriptor_eq_ok.1 hi
  obtain ⟨_, dialect, _, _, _, -, hd, -, -, -, hf⟩ := File.ofDescriptor_eq_ok.1 converts
  have dialect : s.file.dialect = .proto2 ↔ dfile.syntaxName ∈ [none, some "", some "proto2"] := by
    rw [hf]
    exact Dialect.ofName_eq_proto2 hd
  have repeated := Field.isRepeated_of_isImage h.1
  have message : f.isMessage ↔ g.type = some 10 ∨ g.type = some 11 := by
    rw [← typeOf_isMessage ht, e, Field.isMessage]
    cases type <;> simp
  have optional : f.proto3Optional ↔ g.proto3Optional = some true := by
    rw [e]
    cases g.proto3Optional <;> simp
  rw [Scope.hasPresence, Descriptor.Field.HasPresence, Bool.and_eq_true, Bool.or_eq_true,
    Bool.or_eq_true, Bool.or_eq_true, Bool.not_eq_true', ← Bool.not_eq_true, repeated, message,
    optional, beq_iff_eq, dialect, or_right_comm (a := f.oneofIndex.isSome), oneof, or_assoc,
    or_assoc]

end Proto

/-! ## The policy -/

/-- What a class offers to ask whether a field of a message is set and to clear it. The field is a
map or not as the scope `s` has it. -/
structure PresencePolicy (s : Scope) (file : Descriptor.File) (d : Descriptor.Message)
    (g : Descriptor.Field) (f : ExposedField) (isMap : Bool) : Prop where
  image : Proto.Field.IsImage g f.field
  map : s.isMap f.field = .ok isMap
  /-- It can be asked for unless it is a map, if the descriptor gives it presence. -/
  asked : "has" ++ f.field.pascalName ++ "(): boolean;" ∈ f.accessors.map Member.render ↔
    isMap = false ∧ g.HasPresence file d
  /-- There is one way to clear it if it can be asked for, is repeated or is a map, else none. -/
  cleared : linesFrom "clear" (f.accessors.map Member.render) =
    if "has" ++ f.field.pascalName ++ "(): boolean;" ∈ f.accessors.map Member.render ∨
        g.label = some 3 ∨ isMap then
      ["clear" ++ f.field.pascalName ++
        (if isMap then "Map" else if g.label = some 3 then "List" else "") ++ "(): void;"]
    else []

namespace Proto

theorem Field.presencePolicy {dfile : Descriptor.File} {s : Scope}
    (converts : File.ofDescriptor dfile = .ok s.file) {d : Descriptor.Message}
    (alone : d.OptionalsAlone) {g : Descriptor.Field} (hg : g ∈ d.fields) {f : Field}
    (h : Field.MovesTo (realIndices d.oneofs.length (isSynthetic d.fields)) g f)
    {exposed : ExposedField} (he : s.expose f = .ok exposed) :
    ∃ isMap, PresencePolicy s dfile d g exposed isMap := by
  obtain ⟨rfl, hx, shown⟩ := Scope.expose_eq_ok.1 he
  have presence : exposed.hasPresence ↔ g.HasPresence dfile d := by
    rw [shown, Field.hasPresence_iff converts alone hg h]
  have repeated : exposed.field.isRepeated ↔ g.label = some 3 := Field.isRepeated_of_isImage h.1
  have asked := exposed.mem_accessors_iff
  refine ⟨exposed.exposure.isMap, h.1, Scope.isMap_of_exposure hx, by rw [asked, presence], ?_⟩
  have suffix : exposed.clearSuffix = if exposed.exposure.isMap then "Map"
      else if g.label = some 3 then "List" else "" := by
    simp only [ExposedField.clearSuffix, ExposedField.listSuffix, repeated]
  have clearable : exposed.exposure.isMap ∨ exposed.isClearable ↔
      "has" ++ exposed.field.pascalName ++ "(): boolean;" ∈ exposed.accessors.map Member.render ∨
        g.label = some 3 ∨ exposed.exposure.isMap := by
    rw [asked, ExposedField.isClearable, Bool.or_eq_true, repeated]
    cases exposed.exposure.isMap <;> simp
  rw [exposed.linesFrom_clear, suffix]
  exact if_congr clearable rfl rfl

/-- The class of a message, among whose members the accessors of its fields follow the policy. -/
def Message.FollowsPolicy (s : Scope) (file : Descriptor.File) (d : Descriptor.Message)
    (c : ClassDeclaration) : Prop :=
  ∃ m fields, Message.MadeFrom d m ∧ each s.expose m.fields = .ok fields ∧
    c.name = m.name ∧ c.members = m.members fields ∧
    List.Forall₂ (fun g f => ∃ isMap, PresencePolicy s file d g f isMap) d.fields fields

theorem forall₂_comp {α β γ : Type} {r : α → β → Prop} {s : β → γ → Prop} {as : List α}
    {bs : List β} {cs : List γ} (h : List.Forall₂ r as bs) (h' : List.Forall₂ s bs cs) :
    List.Forall₂ (fun a c => ∃ b, r a b ∧ s b c) as cs := by
  induction h generalizing cs with
  | nil =>
    cases h'
    exact .nil
  | cons hr _ ih =>
    cases h' with
    | cons hs h' => exact .cons ⟨_, hr, hs⟩ (ih h')

theorem Message.followsPolicy {dfile : Descriptor.File} {s : Scope}
    (converts : File.ofDescriptor dfile = .ok s.file) {d : Descriptor.Message}
    (alone : d.OptionalsAlone) {m : Message} (made : Message.MadeFrom d m) {c : ClassDeclaration}
    (h : m.DeclaredBy s c) : Message.FollowsPolicy s dfile d c := by
  obtain ⟨fields, he, name, members⟩ := h
  obtain ⟨scope, hm⟩ := made
  refine ⟨m, fields, ⟨scope, hm⟩, he, name, members, ?_⟩
  have moved := forall₂_comp (Message.forall₂_movesTo hm) (each_eq_ok_iff_forall₂.1 he)
  refine ((List.forall₂_and_left _ _).2 ⟨fun g hg => hg, moved⟩).imp ?_
  rintro g exposed ⟨hg, f, moves, he⟩
  exact Field.presencePolicy converts alone hg moves he

/-- Take a file descriptor that passes its checks and whose `proto3_optional` fields share no oneof
with other fields. In the text of the typings of the file, in any scope, each message that is shown
has its class, the lines of it stand together, and the accessors of each field in it follow the
presence policy. -/
theorem text_follows_presencePolicy {d : Descriptor.File} {file : File}
    (converts : File.ofDescriptor d = .ok file) (alone : ∀ m ∈ d.shown, m.OptionalsAlone)
    {settings : Settings} {symbols : SymbolTable} {text : String}
    (h : file.text settings symbols = .ok text) :
    ∃ typings, file.typings settings symbols = .ok typings ∧ text = render typings.lines ∧
      List.Forall₂ (fun m c => c.lines <:+: typings.lines ∧
        Message.FollowsPolicy ⟨symbols, file⟩ d m c)
        d.shown (declarationClasses 0 typings.body) := by
  obtain ⟨typings, hm, rfl⟩ := Check.map_eq_ok.1 h
  refine ⟨typings, hm, rfl, ?_⟩
  have declared := forall₂_comp (File.forall₂_shown converts) (File.forall₂_classes hm)
  have lines : List.Forall₂ (fun _ c => c.lines <:+: typings.lines) d.shown
      (declarationClasses 0 typings.body) :=
    List.forall₂_iff_zip.2 ⟨declared.length_eq, fun hz => Module.lines_infix (List.of_mem_zip hz).2⟩
  refine List.Forall₂.mp ?_ lines ((List.forall₂_and_left _ _).2 ⟨alone, declared⟩)
  rintro m c inside ⟨hm, definition, made, hc⟩
  exact ⟨inside, Message.followsPolicy converts hm made hc⟩

end Proto

namespace Sample

/-- A field of the given label and type that points at the given oneof. -/
def profileField (name : String) (label type : Int32) (typeName : Option String)
    (oneof : Option Int32) (optional : Bool) : Descriptor.Field :=
  { name := some name, number := none, label := some label, type := some type, typeName,
    oneofIndex := oneof, proto3Optional := some optional }

/-- A message with fields of every sort: two in a oneof, one `proto3_optional`, one repeated, a map,
a message and a plain one. -/
def profileDescriptor : Descriptor.File :=
  { name := some "profile.proto", package := none, dependencies := [],
    messages := [
      { name := some "Profile",
        fields := [
          profileField "nick" 1 9 none (some 0) true, profileField "mail" 1 9 none (some 1) false,
          profileField "phone" 1 9 none (some 1) false, profileField "tags" 3 9 none none false,
          profileField "marks" 3 11 (some ".Profile.MarksEntry") none false,
          profileField "friend" 1 11 (some ".Profile") none false,
          profileField "age" 1 5 none none false],
        nested := [
          { name := some "MarksEntry",
            fields := [
              { profileField "key" 1 9 none none false with number := some 1 },
              { profileField "value" 1 5 none none false with number := some 2 }],
            nested := [], enums := [], oneofs := [], options := some ⟨some true⟩ }],
        enums := [], oneofs := [⟨some "_nick"⟩, ⟨some "contact"⟩], options := none }],
    enums := [], extensions := [], syntaxName := some "proto3" }

end Sample

open Proto Sample in
theorem sample_text_follows_presencePolicy : ∃ file text profile, ∃ typings : Module,
    File.ofDescriptor profileDescriptor = .ok file ∧
      file.text {} (.ofFiles [file]) = .ok text ∧
      profileDescriptor.shown = [profile] ∧
      (profile.fields.map fun g => decide (g.HasPresence profileDescriptor profile)) =
        [true, true, true, false, false, true, false] ∧
      text = render typings.lines ∧
      ∃ c ∈ declarationClasses 0 typings.body, c.lines <:+: typings.lines ∧
        Message.FollowsPolicy ⟨.ofFiles [file], file⟩ profileDescriptor profile c := by
  obtain ⟨file, converts⟩ : ∃ file, File.ofDescriptor profileDescriptor = .ok file := ⟨_, rfl⟩
  obtain ⟨text, h⟩ : ∃ text, file.text {} (.ofFiles [file]) = .ok text := by
    cases converts
    exact ⟨_, rfl⟩
  obtain ⟨typings, -, ht, follows⟩ := text_follows_presencePolicy converts (by decide) h
  obtain ⟨c, rest, ⟨inside, hc⟩, -, e⟩ := List.forall₂_cons_left_iff.1 follows
  refine ⟨file, text, _, typings, converts, h, rfl, by decide, ht, c, ?_, inside, hc⟩
  rw [e]
  exact .head _

end ProtoTypings
