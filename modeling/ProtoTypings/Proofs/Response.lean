import ProtoTypings.Plugin.Respond
import ProtoTypings.Proofs.Conversion

/-!
# Proofs.Response

What a request is answered: either an error and no file, or one file for every target that was sent.

* `FirstFailure` — the failure that decides: the parameter comes before the files sent, and these
  before the targets, each list in its order.
* `answer?` — what is answered for the name of a file, which does not depend on the targets.
* `respond_answers` — the response to a request, in these terms.
-/

namespace ProtoTypings
namespace Plugin

open Proto

/-! ## Files by name -/

/-- The first file sent under a name, if it passes its check. -/
def firstNamed? (descriptors : List Descriptor.File) (name : String) : Option File :=
  (descriptors.find? (·.name == some name)).bind fun d => (File.ofDescriptor d).toOption

/-- Among the files that pass their checks the first of a name is the first sent under it. -/
theorem find?_of_each {descriptors : List Descriptor.File} {files : List File}
    (h : each File.ofDescriptor descriptors = .ok files) (name : String) :
    files.find? (·.name == name) = firstNamed? descriptors name := by
  induction descriptors generalizing files with
  | nil =>
    cases h
    rfl
  | cons d descriptors ih =>
    obtain ⟨file, rest, hd, hr, rfl⟩ := each_cons_eq_ok.1 h
    have same : (d.name == some name) = (file.name == name) := by
      rw [File.ofDescriptor_name hd]
      rfl
    rw [firstNamed?, List.find?_cons, List.find?_cons, same]
    cases file.name == name with
    | true => simp [hd, Except.toOption]
    | false => exact ih hr

theorem name_of_firstNamed? {descriptors : List Descriptor.File} {name : String} {file : File}
    (h : firstNamed? descriptors name = some file) : file.name = name := by
  obtain ⟨d, hd, h⟩ := Option.bind_eq_some_iff.1 h
  have named := List.find?_some hd
  cases hf : File.ofDescriptor d with
  | error fault =>
    rw [hf] at h
    cases h
  | ok file' =>
    rw [hf] at h
    cases h
    rw [File.ofDescriptor_name hf] at named
    simpa using named

theorem isSome_firstNamed? {descriptors : List Descriptor.File} {files : List File}
    (h : each File.ofDescriptor descriptors = .ok files) (name : String) :
    (firstNamed? descriptors name).isSome ↔ ∃ d ∈ descriptors, d.name = some name := by
  rw [← find?_of_each h, List.find?_isSome]
  constructor
  · rintro ⟨file, hf, hn⟩
    obtain ⟨d, hd, ok⟩ := exists_of_mem_each h hf
    refine ⟨d, hd, ?_⟩
    rw [File.ofDescriptor_name ok]
    simpa using hn
  · rintro ⟨d, hd, hn⟩
    obtain ⟨file, hf, ok⟩ := forall_of_each h hd
    rw [File.ofDescriptor_name ok] at hn
    exact ⟨file, hf, by simpa using hn⟩

/-! ## Failures and answers -/

/-- The failure that decides the response to a request: all that comes before it succeeds. -/
inductive FirstFailure (q : Request) : Failure → Prop where
  | settings {error : SettingsError} :
      Settings.parse (q.parameter.getD "") = .error error → FirstFailure q (.settings error)
  | descriptor {settings : Settings} {before after : List Descriptor.File} {d : Descriptor.File}
      {fault : Descriptor.Fault} :
      Settings.parse (q.parameter.getD "") = .ok settings → q.files = before ++ d :: after →
      (∀ x ∈ before, ∃ file, File.ofDescriptor x = .ok file) →
      File.ofDescriptor d = .error fault → FirstFailure q (.descriptor fault)
  | reference {settings : Settings} {files : List File} {before after : List String}
      {name : String} {file : File} {error : ReferenceError} :
      Settings.parse (q.parameter.getD "") = .ok settings →
      each File.ofDescriptor q.files = .ok files → q.filesToGenerate = before ++ name :: after →
      (∀ x ∈ before, ∀ earlier, firstNamed? q.files x = some earlier →
        ∃ text, earlier.text settings (.ofFiles files) = .ok text) →
      firstNamed? q.files name = some file →
      file.text settings (.ofFiles files) = .error error → FirstFailure q (.reference error)

/-- What is answered for the name of a file: the text of the first file sent under it, among the
symbols of all files sent. -/
def answer? (parameter : Option String) (descriptors : List Descriptor.File) (name : String) :
    Option ResponseFile := do
  let settings ← (Settings.parse (parameter.getD "")).toOption
  let files ← (each File.ofDescriptor descriptors).toOption
  let file ← firstNamed? descriptors name
  let text ← (file.text settings (.ofFiles files)).toOption
  return { name := some (settings.outputName name), content := some text }

/-! ## Generation -/

theorem targets_eq {descriptors : List Descriptor.File} {files : List File}
    (h : each File.ofDescriptor descriptors = .ok files) (names : List String) :
    targets names files = names.filterMap (firstNamed? descriptors) := by
  rw [targets]
  congr 1
  funext name
  exact find?_of_each h name

theorem generateFile_eq_error {settings : Settings} {symbols : SymbolTable} {file : File}
    {e : ReferenceError} :
    generateFile settings symbols file = .error e ↔ file.text settings symbols = .error e :=
  Check.map_eq_error

theorem exists_generateFile {settings : Settings} {symbols : SymbolTable} {file : File} :
    (∃ out, generateFile settings symbols file = .ok out) ↔
      ∃ text, file.text settings symbols = .ok text := by
  constructor
  · rintro ⟨out, h⟩
    obtain ⟨text, ht, -⟩ := Check.map_eq_ok.1 h
    exact ⟨text, ht⟩
  · rintro ⟨text, h⟩
    exact ⟨_, Check.map_eq_ok.2 ⟨text, h, rfl⟩⟩

theorem generate_eq_ok {q : Request} {out : List GeneratedFile} :
    q.generate = .ok out ↔
      ∃ settings files, Settings.parse (q.parameter.getD "") = .ok settings ∧
        each File.ofDescriptor q.files = .ok files ∧
        each (generateFile settings (.ofFiles files))
          (q.filesToGenerate.filterMap (firstNamed? q.files)) = .ok out := by
  simp only [Request.generate, Check.bind_eq_ok, Check.mapError_eq_ok]
  constructor
  · rintro ⟨settings, hs, files, hf, h⟩
    rw [targets_eq hf] at h
    exact ⟨settings, files, hs, hf, h⟩
  · rintro ⟨settings, files, hs, hf, h⟩
    rw [← targets_eq hf] at h
    exact ⟨settings, hs, files, hf, h⟩

theorem generate_eq_error {q : Request} {failure : Failure} :
    q.generate = .error failure ↔ FirstFailure q failure := by
  simp only [Request.generate, Check.bind_eq_error, Check.mapError_eq_ok, Check.mapError_eq_error]
  constructor
  · rintro (⟨e, he, rfl⟩ | ⟨settings, hs, ⟨fault, hd, rfl⟩ | ⟨files, hf, e, he, rfl⟩⟩)
    · exact .settings he
    · obtain ⟨before, d, after, split_, hb, hd⟩ := each_eq_error_iff.1 hd
      exact .descriptor hs split_ hb hd
    · rw [ProtoTypings.generate, targets_eq hf, each_filterMap_eq_error] at he
      obtain ⟨before, name, after, file, split_, hb, hn, he⟩ := he
      refine .reference hs hf split_ (fun x hx earlier h => ?_) hn (generateFile_eq_error.1 he)
      exact exists_generateFile.1 (hb x hx earlier h)
  · rintro (he | ⟨hs, split_, hb, hd⟩ | ⟨hs, hf, split_, hb, hn, he⟩)
    · exact .inl ⟨_, he, rfl⟩
    · exact .inr ⟨_, hs, .inl ⟨_, each_eq_error_iff.2 ⟨_, _, _, split_, hb, hd⟩, rfl⟩⟩
    · refine .inr ⟨_, hs, .inr ⟨_, hf, _, ?_, rfl⟩⟩
      rw [ProtoTypings.generate, targets_eq hf, each_filterMap_eq_error]
      refine ⟨_, _, _, _, split_, fun x hx earlier h => ?_, hn, generateFile_eq_error.2 he⟩
      exact exists_generateFile.2 (hb x hx earlier h)

theorem generate_files {q : Request} {out : List GeneratedFile} (h : q.generate = .ok out) :
    (out.map fun f => ResponseFile.mk (some f.name) (some f.content)) =
      q.filesToGenerate.filterMap (answer? q.parameter q.files) := by
  obtain ⟨settings, files, hs, hf, h⟩ := generate_eq_ok.1 h
  rw [each_filterMap_eq_ok h, List.map_filterMap]
  congr 1
  funext name
  simp only [answer?, hs, hf, Except.toOption]
  cases hn : firstNamed? q.files name with
  | none => rfl
  | some file =>
    cases ht : file.text settings (.ofFiles files) with
    | error e => simp [generateFile, ht, Except.map]
    | ok text => simp [generateFile, ht, Except.map, name_of_firstNamed? hn]

theorem isSome_answer? {q : Request} {out : List GeneratedFile} (h : q.generate = .ok out)
    {name : String} (hm : name ∈ q.filesToGenerate) :
    (answer? q.parameter q.files name).isSome ↔ ∃ d ∈ q.files, d.name = some name := by
  obtain ⟨settings, files, hs, hf, h⟩ := generate_eq_ok.1 h
  rw [← isSome_firstNamed? hf name]
  simp only [answer?, hs, hf, Except.toOption]
  cases hn : firstNamed? q.files name with
  | none => simp
  | some file =>
    obtain ⟨g, -, hg⟩ := forall_of_each h (List.mem_filterMap.2 ⟨name, hm, hn⟩)
    obtain ⟨text, ht, -⟩ := Check.map_eq_ok.1 hg
    simp [ht]

/-! ## Names of generated files -/

theorem stem_append (base : String) : ModulePath.stem (base ++ ".proto") = base := by
  have cut : Text.dropSuffix? ".proto".toList (base ++ ".proto").toList = some base.toList := by
    rw [Text.dropSuffix?_eq_some_iff, String.toList_append]
  rw [ModulePath.stem, cut]
  exact String.ofList_toList

theorem name_of_answer? {parameter : Option String} {descriptors : List Descriptor.File}
    {name : String} {f : ResponseFile} (h : answer? parameter descriptors name = some f) :
    ∃ settings, Settings.parse (parameter.getD "") = .ok settings ∧
      f.name = some (settings.outputName name) := by
  simp only [answer?, Option.bind_eq_bind, Option.bind_eq_some_iff] at h
  obtain ⟨settings, hs, files, -, file, -, text, -, h⟩ := h
  cases h
  refine ⟨settings, ?_, rfl⟩
  cases hp : Settings.parse (parameter.getD "") with
  | error e =>
    rw [hp] at hs
    cases hs
  | ok settings' =>
    rw [hp] at hs
    cases hs
    rfl

theorem nodup_answers (parameter : Option String) (descriptors : List Descriptor.File)
    {names : List String} (distinct : names.Nodup)
    (proto : ∀ name ∈ names, ∃ base, name = base ++ ".proto") :
    ((names.filterMap (answer? parameter descriptors)).map (·.name)).Nodup := by
  rw [List.Nodup, List.pairwise_map, List.pairwise_filterMap]
  refine List.Pairwise.imp_of_mem ?_ distinct
  intro name name' hm hm' ne f hf f' hf' same
  obtain ⟨settings, hs, e⟩ := name_of_answer? hf
  obtain ⟨settings', hs', e'⟩ := name_of_answer? hf'
  obtain ⟨base, rfl⟩ := proto name hm
  obtain ⟨base', rfl⟩ := proto name' hm'
  rw [hs] at hs'
  cases hs'
  rw [e, e', Option.some.injEq, Settings.outputName, Settings.outputName, stem_append, stem_append,
    String.append_left_inj] at same
  exact ne (by rw [same])

/-! ## The response -/

/-- What is promised of the response to a request. -/
structure Answers (q : Request) (r : Response) : Prop where
  /-- The error is the message of the failure that decides. -/
  error_eq : ∀ message, r.error = some message ↔
    ∃ failure, FirstFailure q failure ∧ failure.message = message
  /-- There is an error if the parameter or any file sent is at fault, or a target cannot be
  printed, and only then. -/
  error_iff : r.error ≠ none ↔
    (∃ e, Settings.parse (q.parameter.getD "") = .error e) ∨
    (∃ d ∈ q.files, ∃ fault, File.ofDescriptor d = .error fault) ∨
    ∃ settings files, Settings.parse (q.parameter.getD "") = .ok settings ∧
      each File.ofDescriptor q.files = .ok files ∧
      ∃ name ∈ q.filesToGenerate, ∃ file, firstNamed? q.files name = some file ∧
        ∃ e, file.text settings (.ofFiles files) = .error e
  /-- There is no file beside an error. -/
  no_files : r.error ≠ none → r.files = []
  /-- Without an error the files are the answers to the targets, in order. -/
  files_eq : r.error = none → r.files = q.filesToGenerate.filterMap (answer? q.parameter q.files)
  /-- Without an error just the targets that were sent have answers. -/
  answered : r.error = none → ∀ name ∈ q.filesToGenerate,
    (answer? q.parameter q.files name).isSome ↔ ∃ d ∈ q.files, d.name = some name
  /-- Distinct targets give files with distinct names. -/
  distinct : q.filesToGenerate.Nodup →
    (∀ name ∈ q.filesToGenerate, ∃ base, name = base ++ ".proto") → (r.files.map (·.name)).Nodup

/-- A failure decides just when the parameter or a file sent is at fault or a target cannot be
printed. -/
theorem exists_firstFailure (q : Request) :
    (∃ failure, FirstFailure q failure) ↔
      (∃ e, Settings.parse (q.parameter.getD "") = .error e) ∨
      (∃ d ∈ q.files, ∃ fault, File.ofDescriptor d = .error fault) ∨
      ∃ settings files, Settings.parse (q.parameter.getD "") = .ok settings ∧
        each File.ofDescriptor q.files = .ok files ∧
        ∃ name ∈ q.filesToGenerate, ∃ file, firstNamed? q.files name = some file ∧
          ∃ e, file.text settings (.ofFiles files) = .error e := by
  constructor
  · rintro ⟨failure, he | ⟨hs, split_, hb, hd⟩ | ⟨hs, hf, split_, hb, hn, he⟩⟩
    · exact .inl ⟨_, he⟩
    · exact .inr (.inl ⟨_, by simp [split_], _, hd⟩)
    · exact .inr (.inr ⟨_, _, hs, hf, _, by simp [split_], _, hn, _, he⟩)
  · -- Where generation does not fail, neither can any of the three.
    intro h
    rcases Check.eq_error_or_eq_ok q.generate with ⟨failure, e⟩ | ⟨out, ok⟩
    · exact ⟨failure, generate_eq_error.1 e⟩
    exfalso
    obtain ⟨settings, files, hs, hf, ok⟩ := generate_eq_ok.1 ok
    rcases h with ⟨e, he⟩ | ⟨d, hd, fault, he⟩ |
      ⟨settings', files', hs', hf', name, hm, file, hn, he⟩
    · rw [hs] at he
      cases he
    · obtain ⟨file, -, h⟩ := forall_of_each hf hd
      rw [h] at he
      cases he
    · rw [hs] at hs'
      rw [hf] at hf'
      cases hs'
      cases hf'
      obtain ⟨e, he⟩ := he
      obtain ⟨g, -, hg⟩ := forall_of_each ok (List.mem_filterMap.2 ⟨name, hm, hn⟩)
      rw [generateFile_eq_error.2 he] at hg
      cases hg

/-- Every request is answered as promised: with the message of the failure that decides and no
file, or with one file for every target that was sent. -/
theorem respond_answers (q : Request) : Answers q (respond q) := by
  rcases Check.eq_error_or_eq_ok q.generate with ⟨failure, e⟩ | ⟨out, ok⟩
  · have decides : FirstFailure q failure := generate_eq_error.1 e
    have response : respond q = ⟨some failure.message, some proto3OptionalFeature, []⟩ := by
      rw [respond, e]
    rw [response]
    refine ⟨fun message => ?_, ?_, fun _ => rfl, fun h => ?_, fun h => ?_, fun _ _ => .nil⟩
    · constructor
      · intro h
        exact ⟨failure, decides, Option.some.inj h⟩
      · rintro ⟨other, h, rfl⟩
        rw [← generate_eq_error, e] at h
        cases h
        rfl
    · rw [← exists_firstFailure]
      exact ⟨fun _ => ⟨failure, decides⟩, fun _ => by simp⟩
    · cases h
    · cases h
  · have none_ : ¬ ∃ failure, FirstFailure q failure := by
      rintro ⟨failure, h⟩
      rw [← generate_eq_error, ok] at h
      cases h
    have response : respond q = ⟨none, some proto3OptionalFeature,
        q.filesToGenerate.filterMap (answer? q.parameter q.files)⟩ := by
      rw [respond, ok, ← generate_files ok]
    rw [response]
    refine ⟨fun message => ?_, ?_, fun h => absurd rfl h, fun _ => rfl,
      fun _ name hm => isSome_answer? ok hm, fun distinct proto => nodup_answers _ _ distinct proto⟩
    · constructor
      · intro h
        cases h
      · rintro ⟨failure, h, -⟩
        exact absurd ⟨failure, h⟩ none_
    · rw [← exists_firstFailure]
      exact ⟨fun h => absurd rfl h, fun h => absurd h none_⟩

end Plugin
end ProtoTypings
