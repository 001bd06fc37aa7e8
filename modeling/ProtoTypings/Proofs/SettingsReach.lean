import ProtoTypings.Proofs.FileTexts

/-!
# Proofs.SettingsReach

How far the settings reach. No declaration, type or failure depends on them. The output suffix ends
the names of the generated files and is in no text. The runtime module stands in the imports of
`jspb` and of dependencies that are standard files, and in no other line. So the text of a file is
a form with a blank in these lines, to be filled in with the runtime module.

* `LineForm`, `filled` — lines with a blank for the runtime module, and the text they become.
* `File.HasForm` — a form with the imports from the runtime that a file has.
* `VariesIn` — lines, as they depend on the runtime module, whose text has a form.
* `exists_forms` — the generated files under all settings.
* `generate_agrees` — what is generated under two settings.
-/

namespace ProtoTypings

open Proto TypeScript

/-! ## Forms -/

/-- A line of typings: with the same text under all settings, or an import from the runtime, where
`path` stands right after the runtime module. -/
inductive LineForm where
  | fixed (text : String)
  | runtimeImport (name path : String)
deriving Repr, DecidableEq

namespace LineForm

/-- The line if the runtime module is the given one. -/
def fill (runtime : String) : LineForm → String
  | fixed text => text
  | runtimeImport name path => (Import.mk name (runtime ++ path)).render

/-- The name that is bound and the path inside the runtime, if the line imports from there. -/
def import? : LineForm → Option (String × String)
  | fixed _ => none
  | runtimeImport name path => some (name, path)

end LineForm

/-- The text of the lines, each with its line break. -/
def filled (runtime : String) (form : List LineForm) : String :=
  String.join (form.map fun l => l.fill runtime ++ "\n")

theorem filled_cons (runtime : String) (l : LineForm) (form : List LineForm) :
    filled runtime (l :: form) = l.fill runtime ++ "\n" ++ filled runtime form := by
  simp [filled]

theorem filled_append (runtime : String) (form form' : List LineForm) :
    filled runtime (form ++ form') = filled runtime form ++ filled runtime form' := by
  simp [filled]

theorem toList_filled_fixed (runtime : String) (ws : List (List Char)) :
    (filled runtime (ws.map fun w => .fixed (String.ofList w))).toList =
      ws.flatMap (· ++ ['\n']) := by
  induction ws with
  | nil => rfl
  | cons w ws ih => simp [filled_cons, LineForm.fill, ih]

theorem LineForm.oneLine_fill {l : LineForm} (h : OneLine (l.fill "")) {runtime : String}
    (hr : OneLine runtime) : OneLine (l.fill runtime) := by
  cases l with
  | fixed text => exact h
  | runtimeImport name path =>
    simp only [OneLine, fill, Import.render, String.toList_append, List.mem_append,
      not_or] at h hr ⊢
    exact ⟨⟨h.1.1, hr, h.1.2.2⟩, h.2⟩

/-- The lines of the form are those of the text, if the runtime module has no line break. -/
theorem splitOn_filled {form : List LineForm} (h : ∀ l ∈ form, OneLine (l.fill ""))
    {runtime : String} (hr : OneLine runtime) :
    Text.splitOn '\n' (filled runtime form).toList =
      form.map (fun l => (l.fill runtime).toList) ++ [[]] := by
  induction form with
  | nil => rfl
  | cons l form ih =>
    obtain ⟨hl, hform⟩ := List.forall_mem_cons.1 h
    have text : (filled runtime (l :: form)).toList =
        (l.fill runtime).toList ++ '\n' :: (filled runtime form).toList := by
      simp [filled_cons]
    rw [text, Text.splitOn_append, Text.splitOn_of_not_mem (LineForm.oneLine_fill hl hr), ih hform]
    rfl

/-! ## Lines that depend on the runtime module -/

/-- Lines, given for every runtime module, with the same text under all of them but for the given
imports from the runtime. -/
def VariesIn (imports : List (String × String)) (lines : String → List Line) : Prop :=
  ∃ form, (∀ l ∈ form, OneLine (l.fill "")) ∧ form.filterMap LineForm.import? = imports ∧
    ∀ runtime, render (lines runtime) = filled runtime form

namespace VariesIn

theorem append {imports imports' : List (String × String)} {lines lines' : String → List Line}
    (h : VariesIn imports lines) (h' : VariesIn imports' lines') :
    VariesIn (imports ++ imports') fun runtime => lines runtime ++ lines' runtime := by
  obtain ⟨form, oneLine, rfl, text⟩ := h
  obtain ⟨form', oneLine', rfl, text'⟩ := h'
  refine ⟨form ++ form', List.forall_mem_append.2 ⟨oneLine, oneLine'⟩, List.filterMap_append,
    fun runtime => ?_⟩
  rw [render_append, text, text', filled_append]

/-- A line that is the same under all settings may have line breaks in it. -/
theorem line (l : Line) : VariesIn [] fun _ => [l] := by
  refine ⟨(Text.splitOn '\n' l.chars).map fun w => .fixed (String.ofList w), ?_, ?_,
    fun runtime => ?_⟩
  · intro f hf
    obtain ⟨w, hw, rfl⟩ := List.mem_map.1 hf
    rw [LineForm.fill, OneLine, String.toList_ofList]
    exact Text.not_mem_of_mem_splitOn hw
  · rw [List.filterMap_map]
    exact List.filterMap_eq_nil_iff.2 fun _ _ => rfl
  · rw [← String.toList_inj, toList_filled_fixed, Text.flatMap_splitOn, ← toList_render]
    simp [render]

theorem fixed (ls : List Line) : VariesIn [] fun _ => ls := by
  induction ls with
  | nil => exact ⟨[], by simp, rfl, fun _ => rfl⟩
  | cons l ls ih => exact (line l).append ih

theorem runtimeImport {name path : String} (hn : OneLine name) (hp : OneLine path) :
    VariesIn [(name, path)] fun runtime => [.code 0 (Import.mk name (runtime ++ path)).render] := by
  refine ⟨[.runtimeImport name path], ?_, rfl, fun runtime => ?_⟩
  · rw [List.forall_mem_singleton]
    exact oneLine_import hn (OneLine.append (by decide) hp)
  · simp [filled, LineForm.fill, render, Line.render, indentation]

end VariesIn

/-! ## Files -/

namespace Proto

/-- The imports of a file from the runtime, each with its path there: that of the runtime itself,
then those of the dependencies that are standard files. -/
def File.runtimeImports (file : File) : List (String × String) :=
  ("jspb", "") :: (file.dependencies.filter (· ∈ ModulePath.standardFiles)).map fun dependency =>
    (ModulePath.importAlias dependency, "/" ++ ModulePath.modulePath dependency)

/-- A form for the text of a file. -/
structure File.HasForm (file : File) (form : List LineForm) : Prop where
  /-- Its lines are those of the text, if the runtime module brings no line break with it. -/
  lines : ∀ runtime, OneLine runtime → Text.splitOn '\n' (filled runtime form).toList =
    form.map (fun l => (l.fill runtime).toList) ++ [[]]
  /-- The runtime module stands in the lines of these imports and no others. -/
  imports : form.filterMap LineForm.import? = file.runtimeImports

theorem File.variesIn_imports (file : File) : VariesIn file.runtimeImports fun runtime =>
    (file.imports { runtimeModule := runtime }).map fun i => .code 0 i.render := by
  have standard : ∀ d ∈ ModulePath.standardFiles, OneLine d := by decide +kernel
  have jspb : VariesIn [("jspb", "")] fun runtime =>
      [.code 0 (Import.mk "jspb" (runtime ++ "")).render] :=
    VariesIn.runtimeImport (by decide) (by decide)
  simp only [String.append_empty] at jspb
  refine jspb.append ?_
  -- The paths of standard files are known, so no line break comes into their imports. Any other
  -- dependency may have one in its path, but its import is the same under all settings.
  induction file.dependencies with
  | nil => exact .fixed []
  | cons dependency dependencies ih =>
    by_cases among : dependency ∈ ModulePath.standardFiles
    · have oneLine := standard dependency among
      have path : OneLine ("/" ++ ModulePath.modulePath dependency) :=
        OneLine.append (by decide) (ModulePath.oneLine_modulePath oneLine)
      have own := VariesIn.runtimeImport (ModulePath.oneLine_importAlias oneLine) path
      have varies := own.append ih
      simpa [ModulePath.specifier, among, String.append_assoc] using varies
    · have same := (VariesIn.fixed [.code 0 (Import.mk (ModulePath.importAlias dependency)
        (ModulePath.toRoot file.name ++ ModulePath.modulePath dependency)).render]).append ih
      simpa [ModulePath.specifier, among] using same

/-- A file fails under all settings alike, or has a form that its text follows under all
settings. -/
theorem File.exists_form (symbols : SymbolTable) (file : File) :
    (∃ e, ∀ settings, file.text settings symbols = .error e) ∨
      ∃ form, file.HasForm form ∧
        ∀ settings, file.text settings symbols = .ok (filled settings.runtimeModule form) := by
  cases h : file.declarations symbols with
  | error e => exact .inl ⟨e, fun settings => by rw [File.text, File.typings, h]; rfl⟩
  | ok body =>
    have before := VariesIn.fixed (file.comments.map (fun c => .code 0 ("// " ++ c)) ++ [.blank])
    have after := VariesIn.fixed (declarationLines 0 body ++ [.blank])
    obtain ⟨form, oneLine, imports, text⟩ := (before.append file.variesIn_imports).append after
    rw [List.nil_append, List.append_nil] at imports
    refine .inr ⟨form, ⟨fun _ => splitOn_filled oneLine, imports⟩, fun settings => ?_⟩
    rw [File.text, File.typings, h, ← text]
    simp only [Except.map, Module.lines, List.append_assoc]
    rfl

end Proto

/-! ## Requests -/

/-- The generated file of a file whose text follows a form. -/
def formedFile (settings : Settings) (file : File) (form : List LineForm) : GeneratedFile :=
  { name := settings.outputName file.name, content := filled settings.runtimeModule form }

/-- Generating fails under all settings alike, or gives, under all settings, files that follow the
same forms. -/
theorem exists_forms (symbols : SymbolTable) (targets : List File) :
    (∃ e, ∀ settings, generate settings symbols targets = .error e) ∨
      ∃ forms, List.Forall₂ File.HasForm targets forms ∧ ∀ settings,
        generate settings symbols targets =
          .ok (List.zipWith (formedFile settings) targets forms) := by
  induction targets with
  | nil => exact .inr ⟨[], .nil, fun _ => rfl⟩
  | cons file targets ih =>
    rcases file.exists_form symbols with ⟨e, fails⟩ | ⟨form, has, text⟩
    · refine .inl ⟨e, fun settings => ?_⟩
      rw [generate, each, generateFile, fails]
      rfl
    · have own : ∀ settings, generateFile settings symbols file =
          .ok (formedFile settings file form) := by
        intro settings
        rw [generateFile, text]
        rfl
      simp only [generate, each, own] at ih ⊢
      rcases ih with ⟨e, fails⟩ | ⟨forms, others, rest⟩
      · exact .inl ⟨e, fun settings => by rw [fails]⟩
      · exact .inr ⟨form :: forms, .cons has others, fun settings => by rw [rest]; rfl⟩

/-- Whatever is generated, two settings make no difference but in what they name. Generating fails
with the same failure under both, or succeeds under both. Settings with the same runtime module give
the same texts, those with the same output suffix the same names. In any case the texts follow the
same forms: they have the same lines, but in the import of `jspb` and in the imports of dependencies
that are standard files the one has the one runtime module and the other the other. -/
theorem generate_agrees (symbols : SymbolTable) (targets : List File) (s t : Settings) :
    (∃ e, generate s symbols targets = .error e ∧ generate t symbols targets = .error e) ∨
      ∃ out out', generate s symbols targets = .ok out ∧ generate t symbols targets = .ok out' ∧
        (s.runtimeModule = t.runtimeModule → out.map (·.content) = out'.map (·.content)) ∧
        (s.outputSuffix = t.outputSuffix → out.map (·.name) = out'.map (·.name)) ∧
        ∃ forms, List.Forall₂ File.HasForm targets forms ∧
          out = List.zipWith (formedFile s) targets forms ∧
          out' = List.zipWith (formedFile t) targets forms := by
  rcases exists_forms symbols targets with ⟨e, fails⟩ | ⟨forms, follow, generates⟩
  · exact .inl ⟨e, fails s, fails t⟩
  · refine .inr ⟨_, _, generates s, generates t, fun same => ?_, fun same => ?_, forms, follow, rfl,
      rfl⟩
    · simp only [List.map_zipWith, formedFile, same]
    · simp only [List.map_zipWith, formedFile, Settings.outputName, same]

end ProtoTypings
