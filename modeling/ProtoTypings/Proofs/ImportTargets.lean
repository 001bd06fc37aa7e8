import ProtoTypings.Proofs.RelativePath

/-!
# Proofs.ImportTargets

Where imports lead. An import names the module of a dependency, and the ending of that name is
fixed; the ending of the names of the files that are written is a setting. So imports lead to the
typings of the dependencies just if the setting is what it is by default.

* `ImportLeads`, `Request.ImportsLead` — an import that leads to the file that was written for the
  dependency, and a request whose answer has no others.
* `importsLead_iff` — the settings under which every request is such a one.
* `imports_misled` — a request that is not, under another setting.
-/

namespace ProtoTypings

open Proto TypeScript

/-! ## Output names -/

namespace ModulePath

/-- Under the default ending, what a file writes to import another is the way from its own typings
to the module that the typings of the other describe. -/
theorem resolve?_specifier {settings : Settings} (default_ : settings.outputSuffix = "_pb.d.ts")
    {file dependency : String} (hf : IsProtoPath file) (hd : IsProtoPath dependency)
    (other : dependency ∉ standardFiles) :
    resolve? (settings.outputName file) (specifier settings.runtimeModule file dependency) =
      some (modulePath dependency) := by
  obtain ⟨base, rfl⟩ := hf.1
  rw [specifier, if_neg other]
  refine resolve?_toRoot ?_ (isOrdinary_modulePath hd.2)
  rw [Settings.outputName, default_, Plugin.stem_append,
    directory_append base _ ".proto" (by decide) (by decide), length_directory]

theorem outputName_eq {settings : Settings} (default_ : settings.outputSuffix = "_pb.d.ts")
    (path : String) : settings.outputName path = modulePath path ++ ".d.ts" := by
  rw [Settings.outputName, default_, modulePath, String.append_assoc]
  rfl

/-- From a file in the root or below a directory, the module beside it has the name of a file in the
root only if the first file is there, too. -/
theorem suffix_of_resolve? {suffix module : String}
    (h : resolve? ("a" ++ suffix) "./b_pb" = some module)
    (same : "b" ++ suffix = module ++ ".d.ts") : suffix = "_pb.d.ts" := by
  have beside : resolve? ("a" ++ suffix) "./b_pb" =
      some (joined (directory ("a" ++ suffix) ++ ["b_pb"])) := rfl
  rw [beside, Option.some.injEq] at h
  obtain ⟨w, ws, e⟩ := List.exists_cons_of_ne_nil (Text.splitOn_ne_nil '/' suffix.toList)
  have parts : segments ("a" ++ suffix) =
      String.ofList ('a' :: w) :: ws.map String.ofList := by
    have cons : ("a" ++ suffix).toList = 'a' :: suffix.toList := by simp
    rw [segments, cons, Text.splitOn_cons, if_neg (by decide), e]
    rfl
  rw [← String.toList_inj, ← h, directory, parts] at same
  cases ws with
  | nil =>
    have there : 'b' :: suffix.toList = 'b' :: "_pb.d.ts".toList := by
      simpa [joined] using same
    exact String.toList_inj.1 (List.cons.inj there).2
  | cons v vs =>
    -- The module would be inside a directory whose name begins with another letter.
    exfalso
    have head := congrArg List.head? same
    simp [joined] at head

end ModulePath

/-! ## Returned files -/

namespace Plugin

/-- The typings returned for `F` import a module under the alias of `D`. From where the typings are
written this leads to the module that the typings returned for `D` are written for. -/
def ImportLeads (q : Request) (settings : Settings) (symbols : SymbolTable) (F D : File) : Prop :=
  ∃ m text specifier module,
    F.typings settings symbols = .ok m ∧ D.text settings symbols = .ok text ∧
    ⟨some (settings.outputName F.name), some (render m.lines)⟩ ∈ (respond q).files ∧
    ⟨some (settings.outputName D.name), some text⟩ ∈ (respond q).files ∧
    ⟨ModulePath.importAlias D.name, specifier⟩ ∈ m.imports ∧
    ModulePath.resolve? (settings.outputName F.name) specifier = some module ∧
    settings.outputName D.name = module ++ ".d.ts"

/-- If the request is answered, then each file asked for leads to those of its dependencies that are
asked for, too, unless they come with the runtime. -/
def Request.ImportsLead (q : Request) : Prop :=
  ∀ settings files, Settings.parse (q.parameter.getD "") = .ok settings →
    each File.ofDescriptor q.files = .ok files → (respond q).error = none →
    ∀ F ∈ targets q.filesToGenerate files, ∀ D ∈ targets q.filesToGenerate files,
      D.name ∈ F.dependencies → D.name ∉ ModulePath.standardFiles →
      ModulePath.IsProtoPath F.name → ModulePath.IsProtoPath D.name →
        ImportLeads q settings (.ofFiles files) F D

theorem exists_of_mem_targets {q : Request} {settings : Settings} {files : List File}
    (hs : Settings.parse (q.parameter.getD "") = .ok settings)
    (hf : each File.ofDescriptor q.files = .ok files) (answered : (respond q).error = none)
    {F : File} (hF : F ∈ targets q.filesToGenerate files) :
    ∃ m, F.typings settings (.ofFiles files) = .ok m ∧
      ⟨some (settings.outputName F.name), some (render m.lines)⟩ ∈ (respond q).files := by
  rcases Check.eq_error_or_eq_ok q.generate with ⟨failure, e⟩ | ⟨returned, served⟩
  · rw [respond, e] at answered
    cases answered
  obtain ⟨settings', files', hs', hf', generated⟩ := generate_eq_ok.1 served
  rw [hs] at hs'
  rw [hf] at hf'
  cases hs'
  cases hf'
  rw [targets_eq hf] at hF
  obtain ⟨g, hg, ok⟩ := forall_of_each generated hF
  obtain ⟨text, ht, rfl⟩ := Check.map_eq_ok.1 ok
  obtain ⟨m, hm, rfl⟩ := Check.map_eq_ok.1 ht
  refine ⟨m, hm, ?_⟩
  rw [respond, served]
  exact List.mem_map.2 ⟨_, hg, rfl⟩

theorem importsLead_of_default {q : Request}
    (default_ : ∀ settings, Settings.parse (q.parameter.getD "") = .ok settings →
      settings.outputSuffix = "_pb.d.ts") : q.ImportsLead := by
  intro settings files hs hf answered F hF D hD uses other protoF protoD
  obtain ⟨m, hm, writtenF⟩ := exists_of_mem_targets hs hf answered hF
  obtain ⟨n, hn, writtenD⟩ := exists_of_mem_targets hs hf answered hD
  have suffix := default_ settings hs
  refine ⟨m, render n.lines, _, _, hm, Check.map_eq_ok.2 ⟨n, hn, rfl⟩, writtenF, writtenD, ?_,
    ModulePath.resolve?_specifier suffix protoF protoD other, ModulePath.outputName_eq suffix _⟩
  obtain ⟨body, -, rfl⟩ := Check.map_eq_ok.1 hm
  exact List.mem_cons_of_mem _ (List.mem_map.2 ⟨D.name, uses, rfl⟩)

end Plugin

/-! ## Other endings -/

namespace Sample

/-- A file that declares nothing. -/
def emptyDescriptor (name : String) (dependencies : List String) : Descriptor.File :=
  { name := some name, package := none, dependencies, messages := [], enums := [],
    extensions := [], syntaxName := some "proto3" }

def emptyFile (name : String) (dependencies : List String) : File :=
  { name, package := none, dialect := .proto3, dependencies, messages := [], enums := [],
    extensions := [] }

/-- A request for two files, the first of which imports the second. -/
def pairRequest (parameter : Option String) (importer dependency : String) : Plugin.Request :=
  { filesToGenerate := [importer, dependency], parameter
    files := [emptyDescriptor importer [dependency], emptyDescriptor dependency []] }

end Sample

namespace Plugin

open Sample

theorem pairRequest_answered (parameter : Option String) {settings : Settings}
    (h : Settings.parse (parameter.getD "") = .ok settings) :
    (respond (pairRequest parameter "a.proto" "b.proto")).error = none := by
  have served : ∃ out, (pairRequest parameter "a.proto" "b.proto").generate = .ok out :=
    ⟨_, generate_eq_ok.2 ⟨settings, _, h, rfl, rfl⟩⟩
  obtain ⟨out, served⟩ := served
  rw [respond, served]

theorem suffix_of_importsLead (parameter : Option String) {settings : Settings}
    (h : Settings.parse (parameter.getD "") = .ok settings)
    (leads : (pairRequest parameter "a.proto" "b.proto").ImportsLead) :
    settings.outputSuffix = "_pb.d.ts" := by
  have first : emptyFile "a.proto" ["b.proto"] ∈ targets ["a.proto", "b.proto"]
      [emptyFile "a.proto" ["b.proto"], emptyFile "b.proto" []] := .head _
  have second : emptyFile "b.proto" [] ∈ targets ["a.proto", "b.proto"]
      [emptyFile "a.proto" ["b.proto"], emptyFile "b.proto" []] := .tail _ (.head _)
  have converts : each File.ofDescriptor (pairRequest parameter "a.proto" "b.proto").files =
      .ok [emptyFile "a.proto" ["b.proto"], emptyFile "b.proto" []] := rfl
  obtain ⟨m, text, specifier, module, hm, -, -, -, imported, leads, same⟩ :=
    leads settings _ h converts (pairRequest_answered parameter h) _ first _ second (by decide)
      (by decide) ⟨⟨"a", rfl⟩, by decide⟩ ⟨⟨"b", rfl⟩, by decide⟩
  have typings : (emptyFile "a.proto" ["b.proto"]).typings settings
      (.ofFiles [emptyFile "a.proto" ["b.proto"], emptyFile "b.proto" []]) = .ok
        { comments := (emptyFile "a.proto" ["b.proto"]).comments, body := []
          imports := [⟨"jspb", settings.runtimeModule⟩, ⟨"b_pb", "./b_pb"⟩] } := rfl
  rw [typings] at hm
  cases hm
  have here : specifier = "./b_pb" := by
    have alias_ : ModulePath.importAlias (emptyFile "b.proto" []).name = "b_pb" := by decide
    rw [alias_] at imported
    simpa using imported
  rw [here] at leads
  exact ModulePath.suffix_of_resolve? leads same

/-- Under the settings of a parameter imports lead to what is returned for the dependencies,
whatever the request, just if the names of returned files end as they do by default. -/
theorem importsLead_iff (parameter : Option String) {settings : Settings}
    (h : Settings.parse (parameter.getD "") = .ok settings) :
    (∀ q : Request, q.parameter = parameter → q.ImportsLead) ↔
      settings.outputSuffix = "_pb.d.ts" := by
  constructor
  · intro leads
    exact suffix_of_importsLead parameter h (leads (pairRequest parameter "a.proto" "b.proto") rfl)
  · rintro default_ q rfl
    refine importsLead_of_default fun settings' h' => ?_
    rw [h] at h'
    cases h'
    exact default_

theorem sample_importsLead_iff :
    Settings.parse "runtime_module=@acme/protobuf" =
        .ok { runtimeModule := "@acme/protobuf", outputSuffix := "_pb.d.ts" } ∧
      ImportLeads (pairRequest (some "runtime_module=@acme/protobuf") "shop/order.proto"
          "common/money.proto")
        { runtimeModule := "@acme/protobuf", outputSuffix := "_pb.d.ts" }
        (.ofFiles [emptyFile "shop/order.proto" ["common/money.proto"],
          emptyFile "common/money.proto" []])
        (emptyFile "shop/order.proto" ["common/money.proto"])
        (emptyFile "common/money.proto" []) ∧
      ModulePath.resolve? "shop/order_pb.d.ts" "../common/money_pb" = some "common/money_pb" := by
  have parsed : Settings.parse "runtime_module=@acme/protobuf" =
      .ok { runtimeModule := "@acme/protobuf", outputSuffix := "_pb.d.ts" } := by decide +kernel
  have leads := (importsLead_iff (some "runtime_module=@acme/protobuf") parsed).2 rfl
    (pairRequest (some "runtime_module=@acme/protobuf") "shop/order.proto" "common/money.proto") rfl
  refine ⟨parsed, leads _ _ parsed rfl (by decide +kernel) _ (.head _) _ (.tail _ (.head _))
    (by decide) (by decide) ⟨⟨"shop/order", rfl⟩, by decide⟩ ⟨⟨"common/money", rfl⟩, by decide⟩,
    by decide⟩

/-- With the names of returned files ending in `.d.ts` alone, an import leads to a module that no
returned file describes. -/
theorem imports_misled :
    Settings.parse "output_suffix=.d.ts" =
        .ok { runtimeModule := "google-protobuf", outputSuffix := ".d.ts" } ∧
      (respond (pairRequest (some "output_suffix=.d.ts") "a.proto" "b.proto")).error = none ∧
      ModulePath.resolve? "a.d.ts" "./b_pb" = some "b_pb" ∧
      ¬ (pairRequest (some "output_suffix=.d.ts") "a.proto" "b.proto").ImportsLead := by
  have parsed : Settings.parse "output_suffix=.d.ts" =
      .ok { runtimeModule := "google-protobuf", outputSuffix := ".d.ts" } := by decide +kernel
  refine ⟨parsed, pairRequest_answered (some "output_suffix=.d.ts") parsed, by decide,
    ?_⟩
  intro leads
  have suffix := suffix_of_importsLead (some "output_suffix=.d.ts") parsed leads
  exact absurd suffix (by decide)

end Plugin
end ProtoTypings
