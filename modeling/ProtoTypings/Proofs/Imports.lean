import ProtoTypings.Proofs.Lookup
import ProtoTypings.Proofs.NamedTypes
import ProtoTypings.Proofs.Placement
import ProtoTypings.Proofs.Response

/-!
# Proofs.Imports

Aliases and imports. A type of another file is named under the alias of the module that declares it,
and a file imports the modules of its dependencies and no others. So an alias is bound if the file
that declares the type is a dependency; a public import of a dependency is not enough.

* `File.namedTypes` — the types that the fields and extensions of a file name.
* `File.sees` — a type that only the file and its dependencies declare.
* `respond_imports_aliases` — the aliases in a returned file have imports.
-/

namespace ProtoTypings

open TypeScript

/-! ## Aliases -/

/-- The alias under which a type is named is that of another file, which declares the type. -/
theorem Scope.exists_of_qualifier {files : List Proto.File} {F : Proto.File}
    {type : Proto.FieldType} {t : TypeExpr}
    (h : Scope.typeExpr ⟨.ofFiles files, F⟩ type = .ok t) {n : TypeName} (hn : n ∈ t.names)
    {qualifier : String} (hq : n.qualifier = some qualifier) :
    ∃ name, type.name? = some name ∧ ∃ G ∈ files, (∃ u ∈ G.typeDecls, u.qualified G = name) ∧
      G.name ≠ F.name ∧ qualifier = ModulePath.importAlias G.name := by
  obtain ⟨name, symbol, hname, found, -, rfl⟩ := names_typeExpr h hn
  obtain ⟨G, hG, u, hu, full, rfl⟩ := SymbolTable.exists_of_get?_ofFiles found
  have fileName : (u.symbol G).fileName = G.name := rfl
  rw [declaredType, fileName] at hn
  refine ⟨name, hname, G, hG, ⟨u, hu, full⟩, ?_⟩
  split at hn
  · rw [TypeExpr.names, List.mem_singleton] at hn
    simp only [hn, reduceCtorEq] at hq
  · rw [TypeExpr.names, List.mem_singleton] at hn
    simp only [hn, Option.some.injEq] at hq
    exact ⟨‹_›, hq.symm⟩

theorem qualifier_messageMembers (name : String) :
    ∀ m ∈ messageMembers name, ∀ n ∈ m.names, n.qualifier = none := by
  simp [messageMembers, Member.call, Member.names, Member.types, TypeExpr.names, TypeName.object,
    TypeExpr.uint8Array, TypeExpr.boolean, TypeExpr.void]
  intro n
  constructor <;> rintro rfl <;> rfl

namespace Proto

/-- The fields of the messages of a file, at every depth. -/
def File.fields (F : File) : List Field := F.typeDecls.flatMap (·.definition.fields)

/-- The types that a file among some files names: those that the fields of its messages name, at
every depth, and those of its extensions. -/
def File.namedTypes (files : List File) (F : File) : List FieldType :=
  F.fields.flatMap (Scope.namedTypes ⟨.ofFiles files, F⟩) ++ F.extensions.map (·.type)

/-- A type that, among some files, no file declares but `F` and its dependencies. -/
def File.Sees (files : List File) (F : File) (type : FieldType) : Prop :=
  ∀ name, type.name? = some name → ∀ G ∈ files, (∃ t ∈ G.typeDecls, t.qualified G = name) →
    G.name = F.name ∨ G.name ∈ F.dependencies

instance (files : List File) (F : File) (type : FieldType) : Decidable (F.Sees files type) :=
  inferInstanceAs (Decidable (∀ name, type.name? = some name → _))

theorem Message.qualifier_members {s : Scope} {m : Message} {exposed : List ExposedField}
    (he : each s.expose m.fields = .ok exposed) {type : TypeExpr}
    (ht : type ∈ (m.members exposed).flatMap (·.types)) {n : TypeName} (hn : n ∈ type.names)
    {qualifier : String} (hq : n.qualifier = some qualifier) :
    ∃ ref ∈ m.fields.flatMap s.namedTypes, ∃ t, s.typeExpr ref = .ok t ∧
      ∃ c ∈ t.names, c.qualifier = some qualifier := by
  obtain ⟨member, hm, ht⟩ := List.mem_flatMap.1 ht
  have inMember : n ∈ member.names := List.mem_flatMap.2 ⟨type, ht, hn⟩
  simp only [Message.members, List.mem_append] at hm
  rcases hm with (hm | hm) | hm
  · obtain ⟨e, hmem, hm⟩ := List.mem_flatMap.1 hm
    obtain ⟨f, hf, ok⟩ := exists_of_mem_each he hmem
    obtain ⟨ref, hr, t, ht, hc⟩ := ExposedField.names_accessors ok hm inMember
    exact ⟨ref, List.mem_flatMap.2 ⟨f, hf, hr⟩, t, ht, n, hc, hq⟩
  · obtain ⟨oneof, -, rfl⟩ := List.mem_map.1 hm
    rw [Message.caseGetter, names_getter, TypeExpr.names, List.mem_singleton] at inMember
    rw [inMember] at hq
    cases hq
  · rw [qualifier_messageMembers m.name member hm n inMember] at hq
    cases hq

theorem Message.qualifier_properties {s : Scope} {m : Message} {exposed : List ExposedField}
    (he : each s.expose m.fields = .ok exposed) {e : ExposedField} (hmem : e ∈ exposed)
    {n : TypeName} (hn : n ∈ e.property.type.names) {qualifier : String}
    (hq : n.qualifier = some qualifier) :
    ∃ ref ∈ m.fields.flatMap s.namedTypes, ∃ t, s.typeExpr ref = .ok t ∧
      ∃ c ∈ t.names, c.qualifier = some qualifier := by
  obtain ⟨f, hf, ok⟩ := exists_of_mem_each he hmem
  obtain ⟨ref, hr, t, ht, c, hc, rfl⟩ := ExposedField.names_property ok hn
  exact ⟨ref, List.mem_flatMap.2 ⟨f, hf, hr⟩, t, ht, c, hc, by simpa using hq⟩

/-- An alias that is written anywhere in a file is written for a type that the file names. -/
theorem File.exists_of_alias {files : List File} {F : File} {ds : List Declaration}
    (h : F.declarations (.ofFiles files) = .ok ds) {p : Placed} (hp : p ∈ placedIn [] ds)
    {type : TypeExpr} (ht : type ∈ p.declaration.types) {n : TypeName} (hn : n ∈ type.names)
    {qualifier : String} (hq : n.qualifier = some qualifier) :
    ∃ ref ∈ F.namedTypes files, ∃ t, Scope.typeExpr ⟨.ofFiles files, F⟩ ref = .ok t ∧
      ∃ c ∈ t.names, c.qualifier = some qualifier := by
  rcases (File.mem_placedIn h).1 hp with ⟨t, hmem, -, puts⟩ | ⟨f, hf, e, he, rfl⟩
  · obtain ⟨outer, d⟩ := t
    cases d with
    | enumeration e =>
      rw [TypeDecl.puts_enum] at puts
      rw [puts] at ht
      cases ht
    | message m =>
      obtain ⟨exposed, inner, he, hi, hp⟩ := puts
      have lift : ∀ ref ∈ m.fields.flatMap (Scope.namedTypes ⟨.ofFiles files, F⟩),
          ref ∈ F.namedTypes files := by
        intro ref hr
        obtain ⟨f, hf, hr⟩ := List.mem_flatMap.1 hr
        have field : f ∈ F.fields := List.mem_flatMap.2 ⟨_, hmem, hf⟩
        exact List.mem_append_left _ (List.mem_flatMap.2 ⟨f, field, hr⟩)
      simp only [Message.placements, List.mem_append, List.mem_cons, List.mem_map, List.not_mem_nil,
        or_false] at hp
      rcases hp with (rfl | rfl | rfl) | ⟨d, -, rfl⟩
      · obtain ⟨ref, hr, found⟩ := Message.qualifier_members he ht hn hq
        exact ⟨ref, lift ref hr, found⟩
      · cases ht
      · simp only [Declaration.types, List.map_map, List.mem_map] at ht
        obtain ⟨e, hmem, rfl⟩ := ht
        obtain ⟨ref, hr, found⟩ := Message.qualifier_properties he hmem hn hq
        exact ⟨ref, lift ref hr, found⟩
      · cases ht
  · rw [Declaration.types, List.mem_singleton] at ht
    rw [ht, TypeExpr.names] at hn
    exact ⟨f.type, List.mem_append_right _ (List.mem_map.2 ⟨f, hf, rfl⟩), e, he, n, hn, hq⟩

/-- The line that imports a dependency is one of the lines of a file's typings. -/
theorem File.import_mem_lines {settings : Settings} {symbols : SymbolTable} {F : File} {m : Module}
    (h : F.typings settings symbols = .ok m) {dependency : String}
    (hd : dependency ∈ F.dependencies) :
    .code 0 ("import * as " ++ ModulePath.importAlias dependency ++ " from \"" ++
      ModulePath.specifier settings.runtimeModule F.name dependency ++ "\";") ∈ m.lines := by
  obtain ⟨body, -, rfl⟩ := Check.map_eq_ok.1 h
  have imported : ⟨ModulePath.importAlias dependency,
      ModulePath.specifier settings.runtimeModule F.name dependency⟩ ∈ F.imports settings :=
    List.mem_cons_of_mem _ (List.mem_map.2 ⟨dependency, hd, rfl⟩)
  simp only [Module.lines, List.mem_append]
  exact .inl (.inl (.inr (List.mem_map.2 ⟨_, imported, rfl⟩)))

end Proto

/-! ## Returned files -/

namespace Plugin

open Proto

/-- What a returned file is made of: its definition and its typings. -/
theorem exists_of_mem_files {q : Request} {files : List File}
    (ok : each File.ofDescriptor q.files = .ok files) {out : ResponseFile}
    (h : out ∈ (respond q).files) :
    ∃ settings F m, Settings.parse (q.parameter.getD "") = .ok settings ∧ F ∈ files ∧
      F.name ∈ q.filesToGenerate ∧ F.typings settings (.ofFiles files) = .ok m ∧
      out = ⟨some (settings.outputName F.name), some (render m.lines)⟩ := by
  rcases Check.eq_error_or_eq_ok q.generate with ⟨failure, e⟩ | ⟨returned, served⟩
  · rw [respond, e] at h
    cases h
  obtain ⟨settings, files', hs, hf, generated⟩ := generate_eq_ok.1 served
  rw [ok] at hf
  cases hf
  simp only [respond, served, List.mem_map] at h
  obtain ⟨g, hg, rfl⟩ := h
  obtain ⟨F, hF, hg⟩ := exists_of_mem_each generated hg
  obtain ⟨name, hname, first⟩ := List.mem_filterMap.1 hF
  obtain ⟨text, ht, rfl⟩ := Check.map_eq_ok.1 hg
  obtain ⟨m, hm, rfl⟩ := Check.map_eq_ok.1 ht
  rw [← name_of_firstNamed? first] at hname
  rw [← find?_of_each ok] at first
  exact ⟨settings, F, m, hs, List.mem_of_find?_eq_some first, hname, hm, rfl⟩

/-! ## Public imports -/

open Wire

/-- The dependencies that a file imports publicly, which is said in its record only: the numbers at
tag 10 count in the dependencies at tag 3. -/
def publicImports (file : Record) : List String :=
  (file.numbers 10).filterMap fun n => (file.texts 3)[n.toNat]?

/-- The files whose types may be used in a file of a request, as the language has it: the file
itself, its dependencies, and what a file among these imports publicly. -/
inductive MayUse (request : Record) (name : String) : String → Prop where
  | self : MayUse request name name
  | dependency {file : Record} {dependency : String} : file ∈ request.records 15 →
      file.text? 1 = some name → dependency ∈ file.texts 3 → MayUse request name dependency
  | imported {file : Record} {between dependency : String} : MayUse request name between →
      file ∈ request.records 15 → file.text? 1 = some between → dependency ∈ publicImports file →
      MayUse request name dependency

/-- Every type that a field or an extension refers to is declared in a file whose types may be
used. -/
def Legal (request : Record) (files : List File) : Prop :=
  ∀ F ∈ files, ∀ f ∈ F.fields ++ F.extensions, ∀ name, f.type.name? = some name →
    ∃ G ∈ files, (∃ t ∈ G.typeDecls, t.qualified G = name) ∧ MayUse request F.name G.name

/-- A legal request that is answered, and a file among the answers with an alias that no import
binds. -/
structure Unbound (request : Record) (files : List File) : Prop where
  converts : each File.ofDescriptor (Request.ofRecord request).files = .ok files
  legal : Legal request files
  served : (respond (Request.ofRecord request)).error = none
  returned : ∃ F ∈ files, ∃ m, F.typings {} (.ofFiles files) = .ok m ∧
    ⟨some (Settings.outputName {} F.name), some (render m.lines)⟩ ∈
      (respond (Request.ofRecord request)).files ∧
    ∃ qualifier, (∃ p ∈ placedIn [] m.body, ∃ type ∈ p.declaration.types, ∃ n ∈ type.names,
      n.qualifier = some qualifier) ∧ ∀ i ∈ m.imports, i.name ≠ qualifier

end Plugin

namespace Sample

open Proto Wire

def coin : Message :=
  { name := "Coin", isMapEntry := false, fields := [], oneofs := [], nested := [], enums := [] }

def coinFile : File :=
  { name := "coin.proto", package := none, dialect := .proto3, dependencies := [],
    messages := [coin], enums := [], extensions := [] }

def bank : Message :=
  { name := "Bank", isMapEntry := false,
    fields := [.plain "coins" 1 (.message "Bank.CoinsEntry")], oneofs := [],
    nested := [.forMap "CoinsEntry" (.scalar .string) (.message "Coin")], enums := [] }

/-- A file with a map whose values are declared in `coinFile`. -/
def bankFile : File :=
  { name := "bank.proto", package := none, dialect := .proto3, dependencies := ["coin.proto"],
    messages := [bank], enums := [], extensions := [] }

def purse (typeName : String) : Message :=
  { name := "Purse", isMapEntry := false, fields := [.plain "item" 1 (.message typeName)],
    oneofs := [], nested := [], enums := [] }

/-- A file that refers to one type. -/
def purseFile (typeName : String) (dependencies : List String) : File :=
  { name := "purse.proto", package := none, dialect := .proto3, dependencies,
    messages := [purse typeName], enums := [], extensions := [] }

def purseFiles (typeName : String) (dependencies : List String) : List File :=
  [coinFile, bankFile, purseFile typeName dependencies]

def fieldRecord (name : String) (number : UInt64) (type : Record) : Wire.Field :=
  .record 2 ([.text 1 name, .number 3 number] ++ type)

def fileRecord (name : String) (dependencies : List String) (message : Record) : Record :=
  .text 1 name :: dependencies.map (.text 3) ++ [.record 4 message, .text 12 "proto3"]

/-- A request for `purseFile`, where `bankFile` may import its dependency publicly. -/
def purseRequest (typeName : String) (dependencies : List String) (publicly : Bool) : Record :=
  [.text 1 "purse.proto",
    .record 15 (fileRecord "coin.proto" [] [.text 1 "Coin"]),
    .record 15 (fileRecord "bank.proto" ["coin.proto"]
      [.text 1 "Bank", fieldRecord "coins" 1 [.number 5 11, .text 6 ".Bank.CoinsEntry"],
        .record 3 [.text 1 "CoinsEntry", fieldRecord "key" 1 [.number 5 9],
          fieldRecord "value" 2 [.number 5 11, .text 6 ".Coin"], .record 7 [.number 7 1]]] ++
      if publicly then [.number 10 0] else []),
    .record 15 (fileRecord "purse.proto" dependencies
      [.text 1 "Purse", fieldRecord "item" 1 [.number 5 11, .text 6 ("." ++ typeName)]])]

/-- The typings of `purseFile`, where its field is exposed as given. -/
def purseTypings (typeName : String) (exposure : Exposure) : Module :=
  let file := purseFile typeName ["bank.proto"]
  let exposed : List ExposedField := [⟨.plain "item" 1 (.message typeName), exposure, true⟩]
  { comments := file.comments, imports := file.imports {},
    body := [.classDecl "Purse" ((purse typeName).members exposed),
      .namespaceDecl "Purse" ((purse typeName).namespaceBody exposed [])] }

/-- All references in the request are legal if that of `purseFile` is. -/
theorem legal_purseRequest {typeName : String} {publicly : Bool} {G : File}
    (hG : G ∈ purseFiles typeName ["bank.proto"])
    (declared : ∃ t ∈ G.typeDecls, t.qualified G = typeName)
    (use : Plugin.MayUse (purseRequest typeName ["bank.proto"] publicly) "purse.proto" G.name) :
    Plugin.Legal (purseRequest typeName ["bank.proto"] publicly)
      (purseFiles typeName ["bank.proto"]) := by
  have bankCoin : Plugin.MayUse (purseRequest typeName ["bank.proto"] publicly) "bank.proto"
      "coin.proto" := by
    cases publicly <;> exact .dependency (List.mem_of_getElem? (i := 1) rfl) rfl (.head _)
  have inCoin : coinFile.fields ++ coinFile.extensions = [] := rfl
  have inBank : bankFile.fields ++ bankFile.extensions =
      [.plain "key" 1 (.scalar .string), .plain "value" 2 (.message "Coin"),
        .plain "coins" 1 (.message "Bank.CoinsEntry")] := rfl
  have inPurse : (purseFile typeName ["bank.proto"]).fields ++
      (purseFile typeName ["bank.proto"]).extensions = [.plain "item" 1 (.message typeName)] := rfl
  intro F hF f hf name hn
  rcases List.mem_cons.1 hF with rfl | hF
  · rw [inCoin] at hf
    cases hf
  rcases List.mem_cons.1 hF with rfl | hF
  · rw [inBank] at hf
    simp only [List.mem_cons, List.not_mem_nil, or_false] at hf
    rcases hf with rfl | rfl | rfl <;> cases hn
    · exact ⟨coinFile, .head _, by decide, bankCoin⟩
    · exact ⟨bankFile, .tail _ (.head _), by decide, .self⟩
  · cases List.mem_singleton.1 hF
    rw [inPurse, List.mem_singleton] at hf
    cases hf
    cases hn
    exact ⟨G, hG, declared, use⟩

end Sample

/-! ## Imports -/

namespace Plugin

open Proto

/-- Take a request whose files pass their checks. If the types that the files asked for name are
declared in no files but these files themselves and their dependencies, then an alias of a module
that is written anywhere in a returned file is that of a dependency, and the line that imports this
dependency under this alias is one of the lines of the file. -/
theorem respond_imports_aliases {q : Request} {files : List File}
    (ok : each File.ofDescriptor q.files = .ok files)
    (visible : ∀ F ∈ files, F.name ∈ q.filesToGenerate →
      ∀ type ∈ F.namedTypes files, F.Sees files type) :
    ∀ out ∈ (respond q).files, ∃ settings F m,
      Settings.parse (q.parameter.getD "") = .ok settings ∧ F ∈ files ∧
      F.typings settings (.ofFiles files) = .ok m ∧
      out = ⟨some (settings.outputName F.name), some (render m.lines)⟩ ∧
      ∀ p ∈ placedIn [] m.body, ∀ type ∈ p.declaration.types, ∀ n ∈ type.names, ∀ qualifier,
        n.qualifier = some qualifier → ∃ dependency ∈ F.dependencies,
          qualifier = ModulePath.importAlias dependency ∧
          .code 0 ("import * as " ++ qualifier ++ " from \"" ++
            ModulePath.specifier settings.runtimeModule F.name dependency ++ "\";") ∈ m.lines := by
  intro out hout
  obtain ⟨settings, F, m, hs, hF, asked, hm, rfl⟩ := exists_of_mem_files ok hout
  refine ⟨settings, F, m, hs, hF, hm, rfl, ?_⟩
  intro p hp type ht n hn qualifier hq
  obtain ⟨body, hbody, rfl⟩ := Check.map_eq_ok.1 hm
  obtain ⟨ref, hr, t, href, c, hc, hcq⟩ := File.exists_of_alias hbody hp ht hn hq
  obtain ⟨name, hname, G, hG, declared, other, rfl⟩ := Scope.exists_of_qualifier href hc hcq
  have dependency : G.name ∈ F.dependencies :=
    (visible F hF asked ref hr name hname G hG declared).resolve_left other
  exact ⟨G.name, dependency, rfl, File.import_mem_lines hm dependency⟩

end Plugin

open Sample Plugin in
theorem sample_respond_imports_aliases :
    ∃ out ∈ (respond (Request.ofRecord
        (purseRequest "Coin" ["bank.proto", "coin.proto"] false))).files,
      out.name = some "purse_pb.d.ts" ∧ ∃ F m, out.content = some (render (Module.lines m)) ∧
        ∀ p ∈ placedIn [] m.body, ∀ type ∈ p.declaration.types, ∀ n ∈ type.names, ∀ qualifier,
          n.qualifier = some qualifier →
            ∃ dependency ∈ Proto.File.dependencies F,
              qualifier = ModulePath.importAlias dependency := by
  have answered : ∃ out ∈ (respond (Request.ofRecord
      (purseRequest "Coin" ["bank.proto", "coin.proto"] false))).files,
      out.name = some "purse_pb.d.ts" := by decide +kernel
  obtain ⟨out, returned, name⟩ := answered
  have converts : each Proto.File.ofDescriptor (Request.ofRecord
      (purseRequest "Coin" ["bank.proto", "coin.proto"] false)).files =
        .ok (purseFiles "Coin" ["bank.proto", "coin.proto"]) := rfl
  have imported := respond_imports_aliases converts (by decide +kernel)
  obtain ⟨settings, F, m, -, -, -, rfl, bound⟩ := imported out returned
  refine ⟨_, returned, name, F, m, rfl, fun p hp type ht n hn qualifier hq => ?_⟩
  obtain ⟨dependency, hd, same, -⟩ := bound p hp type ht n hn qualifier hq
  exact ⟨dependency, hd, same⟩

open Sample Plugin in
/-- Neither a public import nor a map of another file leads to an import of the file that declares
the type. -/
theorem aliases_unbound :
    Unbound (purseRequest "Coin" ["bank.proto"] true) (purseFiles "Coin" ["bank.proto"]) ∧
      Unbound (purseRequest "Bank.CoinsEntry" ["bank.proto"] false)
        (purseFiles "Bank.CoinsEntry" ["bank.proto"]) := by
  constructor
  · have bank : MayUse (purseRequest "Coin" ["bank.proto"] true) "purse.proto" "bank.proto" :=
      .dependency (List.mem_of_getElem? (i := 2) rfl) rfl (.head _)
    exact
      { converts := rfl
        legal := legal_purseRequest (.head _) (by decide)
          (.imported bank (List.mem_of_getElem? (i := 1) rfl) rfl (.head _))
        served := by decide +kernel
        returned := ⟨purseFile "Coin" ["bank.proto"], .tail _ (.tail _ (.head _)),
          purseTypings "Coin" (.message (.declared (some "coin_pb") "Coin")), rfl,
          by decide +kernel, "coin_pb", by decide, by decide⟩ }
  · exact
      { converts := rfl
        legal := legal_purseRequest (.tail _ (.head _)) (by decide)
          (.dependency (List.mem_of_getElem? (i := 2) rfl) rfl (.head _))
        served := by decide +kernel
        returned := ⟨purseFile "Bank.CoinsEntry" ["bank.proto"], .tail _ (.tail _ (.head _)),
          purseTypings "Bank.CoinsEntry" (.map ⟨.scalar .string, .string, .message "Coin",
            .declared (some "coin_pb") "Coin"⟩), rfl,
          by decide +kernel, "coin_pb", by decide, by decide⟩ }

end ProtoTypings
