import ProtoTypings.Proofs.Response
import ProtoTypings.Proofs.Splitting

/-!
# Proofs.RelativePath

Following a relative path. A module specifier that begins with `.` or `..` is followed segment by
segment from the directory of the file that it is written in, and must not leave the output root.

* `segments`, `directory`, `joined` — the segments of a path, those of its directory, and back.
* `follow`, `resolve?` — one step, and where a specifier leads.
* `IsOrdinary`, `IsProtoPath` — segments that name something, and paths of `.proto` files.
* `resolve?_toRoot` — climbing to the root and descending again leads where the descent says.
-/

namespace ProtoTypings

namespace ModulePath

/-! ## Segments -/

/-- The segments of a path, from the root down. -/
def segments (path : String) : List String :=
  (Text.splitOn '/' path.toList).map String.ofList

/-- The segments of the directory that a path is in. -/
def directory (path : String) : List String := (segments path).dropLast

/-- The path of some segments. -/
def joined (segments : List String) : String := "/".intercalate segments

theorem joined_segments (path : String) : joined (segments path) = path := by
  have whole := Text.intercalate_splitOn '/' path.toList
  rw [← String.toList_inj, joined, segments, String.toList_intercalate, List.map_map]
  simpa [Function.comp_def] using whole

theorem segments_slash (a b : String) : segments (a ++ "/" ++ b) = segments a ++ segments b := by
  have parts : (a ++ "/" ++ b).toList = a.toList ++ '/' :: b.toList := by simp
  rw [segments, parts, Text.splitOn_append, List.map_append]
  rfl

theorem length_directory (path : String) : (directory path).length = path.toList.count '/' := by
  simp [directory, segments, Text.length_splitOn]

/-- Endings without a slash are all in one directory, and each ends the same segment. -/
theorem exists_segments_append (base : String) :
    ∃ before last, ∀ ending : String, '/' ∉ ending.toList →
      segments (base ++ ending) = before ++ [last ++ ending] := by
  obtain ⟨before, last, h⟩ := Text.exists_splitOn_append '/' base.toList
  refine ⟨before.map String.ofList, String.ofList last, fun ending he => ?_⟩
  rw [segments, String.toList_append, h ending.toList he]
  simp

theorem directory_append (base ending other : String) (h : '/' ∉ ending.toList)
    (h' : '/' ∉ other.toList) : directory (base ++ ending) = directory (base ++ other) := by
  obtain ⟨before, last, parts⟩ := exists_segments_append base
  rw [directory, directory, parts ending h, parts other h', List.dropLast_concat,
    List.dropLast_concat]

/-- A segment that names something inside a directory. -/
def IsOrdinary (segment : String) : Prop := segment ≠ "" ∧ segment ≠ "." ∧ segment ≠ ".."

instance (segment : String) : Decidable (IsOrdinary segment) := inferInstanceAs (Decidable (_ ∧ _))

/-- The path of a `.proto` file, without segments that stay in a directory or leave it. -/
def IsProtoPath (path : String) : Prop :=
  (∃ base, path = base ++ ".proto") ∧ ∀ s ∈ segments path, IsOrdinary s

theorem isOrdinary_of_length {segment : String} (h : 2 < segment.length) : IsOrdinary segment := by
  refine ⟨?_, ?_, ?_⟩ <;> rintro rfl <;> exact absurd h (by decide)

theorem eq_stem_append (path : String) : path = stem path ++ ".proto" ∨ path = stem path := by
  unfold stem
  split
  · rename_i rest cut
    left
    rw [Text.dropSuffix?_eq_some_iff] at cut
    rw [← String.toList_inj, cut]
    simp
  · exact .inr rfl

/-- The module of a file is named in the directory of the file, whatever the file's extension. -/
theorem isOrdinary_modulePath {path : String} (h : ∀ s ∈ segments path, IsOrdinary s) :
    ∀ s ∈ segments (modulePath path), IsOrdinary s := by
  obtain ⟨before, last, parts⟩ := exists_segments_append (stem path)
  have above : ∀ s ∈ before, s ∈ segments path := by
    intro s hs
    rcases eq_stem_append path with e | e
    · rw [e, parts ".proto" (by decide)]
      exact List.mem_append_left _ hs
    · rw [e, ← String.append_empty (s := stem path), parts "" (by decide)]
      exact List.mem_append_left _ hs
  rw [modulePath, parts "_pb" (by decide)]
  intro s hs
  rcases List.mem_append.1 hs with hs | hs
  · exact h s (above s hs)
  · rw [List.mem_singleton.1 hs]
    refine isOrdinary_of_length ?_
    have long : (last ++ "_pb").length = last.length + "_pb".length := String.length_append _ _
    have three : "_pb".length = 3 := by decide
    omega

/-! ## Following a path -/

/-- Where a segment leads from a directory; from the root nothing leads up. -/
def follow (directory : List String) (segment : String) : Option (List String) :=
  if segment = "" ∨ segment = "." then some directory
  else if segment = ".." then if directory = [] then none else some directory.dropLast
  else some (directory ++ [segment])

/-- Where a relative specifier leads that is written in a file. Other specifiers are names of
packages. -/
def resolve? (file specifier : String) : Option String :=
  if (segments specifier).head? = some "." ∨ (segments specifier).head? = some ".." then
    ((segments specifier).foldlM follow (directory file)).map joined
  else none

theorem foldlM_follow_parents : ∀ directory : List String,
    (List.replicate directory.length "..").foldlM follow directory = some [] := by
  intro directory
  induction h : directory.length generalizing directory with
  | zero =>
    rw [List.length_eq_zero_iff.1 h]
    rfl
  | succ n ih =>
    have inside : directory ≠ [] := by
      rintro rfl
      cases h
    have up : follow directory ".." = some directory.dropLast := by
      simp [follow, inside]
    rw [List.replicate_succ, List.foldlM_cons, up]
    exact ih directory.dropLast (by rw [List.length_dropLast, h]; rfl)

theorem foldlM_follow_ordinary {segments : List String} (h : ∀ s ∈ segments, IsOrdinary s) :
    ∀ directory, segments.foldlM follow directory = some (directory ++ segments) := by
  induction segments with
  | nil => simp
  | cons s segments ih =>
    intro directory
    obtain ⟨ne, notHere, notUp⟩ := h s (by simp)
    have into : follow directory s = some (directory ++ [s]) := by
      simp [follow, ne, notHere, notUp]
    rw [List.foldlM_cons, into]
    have rest := ih (fun t ht => h t (List.mem_cons_of_mem _ ht)) (directory ++ [s])
    rw [List.append_assoc] at rest
    exact rest

/-- The way to the root and on: one segment for each directory, or one that stays. -/
theorem segments_toRoot (file path : String) :
    segments (toRoot file ++ path) =
      (if file.toList.count '/' = 0 then ["."] else List.replicate (file.toList.count '/') "..") ++
        segments path := by
  have ups : ∀ n, segments (String.join (List.replicate n "../") ++ path) =
      List.replicate n ".." ++ segments path := by
    intro n
    induction n with
    | zero => simp
    | succ n ih =>
      have first : String.join (List.replicate (n + 1) "../") ++ path =
          ".." ++ "/" ++ (String.join (List.replicate n "../") ++ path) := by
        rw [← String.toList_inj]
        simp [List.replicate_succ]
      rw [first, segments_slash, ih, List.replicate_succ, List.cons_append]
      rfl
  unfold toRoot
  split
  · rename_i none_
    have here : "./" ++ path = "." ++ "/" ++ path := rfl
    rw [if_pos none_, here, segments_slash]
    rfl
  · rename_i some_
    rw [if_neg some_, ups]

/-- From a directory as deep as a file, the way to the root and then down a path ends there. -/
theorem foldlM_follow_toRoot {importer file path : String}
    (deep : (directory importer).length = file.toList.count '/')
    (ordinary : ∀ s ∈ segments path, IsOrdinary s) :
    (segments (toRoot file ++ path)).foldlM follow (directory importer) =
      some (segments path) := by
  have down : (segments path).foldlM follow [] = some (segments path) :=
    foldlM_follow_ordinary ordinary []
  rw [segments_toRoot, ← deep, List.foldlM_append]
  by_cases root : directory importer = []
  · have stay : ["."].foldlM follow [] = some [] := rfl
    rw [root, if_pos List.length_nil, stay]
    exact down
  · rw [if_neg (by simpa using root), foldlM_follow_parents]
    exact down

theorem head?_toRoot (file path : String) :
    (segments (toRoot file ++ path)).head? = some "." ∨
      (segments (toRoot file ++ path)).head? = some ".." := by
  rw [segments_toRoot]
  by_cases root : file.toList.count '/' = 0
  · rw [if_pos root]
    exact .inl rfl
  · obtain ⟨n, hn⟩ := Nat.exists_eq_succ_of_ne_zero root
    rw [if_neg root, hn, List.replicate_succ]
    exact .inr rfl

/-- From a directory as deep as a file, the way to the root and then down a path leads to it. -/
theorem resolve?_toRoot {importer file path : String}
    (deep : (directory importer).length = file.toList.count '/')
    (ordinary : ∀ s ∈ segments path, IsOrdinary s) :
    resolve? importer (toRoot file ++ path) = some path := by
  rw [resolve?, if_pos (head?_toRoot file path), foldlM_follow_toRoot deep ordinary,
    Option.map_some, joined_segments]

end ModulePath
end ProtoTypings
