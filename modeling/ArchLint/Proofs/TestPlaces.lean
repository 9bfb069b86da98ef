import ArchLint.Check.Layout
import ArchLint.Project.Sources
import ArchLint.Proofs.Distinct
import ArchLint.Proofs.NormalPaths
import ArchLint.Proofs.Resolution

/-!
The places where the tests of a source file are looked for. The path of a source file is a base, a
dot and an extension (`exists_withExtension`), and its tests are looked for under the base or a base
in the directory of tests, with a mark before the extension (`testCandidates_withExtension`). The
mark makes the path one of tests, also when it is brought to its normal form, and the extension one
of source files; so a file found there counts among the tests of a project (`countFiles_of_mem`).
-/

namespace ArchLint

open ArchLint.Path (NamesEntry IsDirect segments directories fileName ofSegments)

/-! ### Occurrences -/

theorem Text.occursIn_iff {part : List Char} : ∀ {cs : List Char},
    Text.occursIn part cs = true ↔ part <:+: cs
  | [] => by simp [Text.occursIn]
  | c :: cs => by
    rw [Text.occursIn, Bool.or_eq_true, Text.occursIn_iff, List.infix_cons_iff,
      Option.isSome_iff_exists]
    refine or_congr_left ?_
    simp only [Text.dropHead?_eq_some_iff]
    exact exists_congr fun rest => eq_comm

/-! ### Extensions -/

section

variable {path : String}

theorem getLast?_ordinary (entry : NamesEntry (fileName path)) :
    (Path.ordinary path).getLast? = some (fileName path) := by
  have kept : decide (fileName path ≠ "" ∧ fileName path ≠ ".") = true :=
    decide_eq_true ⟨entry.1, entry.2.1⟩
  rw [Path.ordinary, Path.segments_eq_concat, List.filter_append, List.filter_singleton, kept]
  exact List.getLast?_concat

theorem extension?_of_namesEntry (entry : NamesEntry (fileName path)) :
    Path.extension? path = Path.extensionOf? (fileName path) := by
  unfold Path.extension?
  rw [getLast?_ordinary entry]
  split
  · rename_i none
    cases none
  · rename_i up
    exact absurd (Option.some.inj up) entry.2.2
  · rename_i name same
    rw [Option.some.inj same]

end

theorem toList_withExtension (base ext : String) :
    (base ++ "." ++ ext).toList = base.toList ++ '.' :: ext.toList := by simp

theorem splitLast?_withExtension {ext : String} (dotless : '.' ∉ ext.toList) (base : String) :
    Text.splitLast? '.' (base ++ "." ++ ext).toList = some (base.toList, ext.toList) :=
  Text.splitLast?_eq_some_iff.mpr ⟨toList_withExtension base ext, dotless⟩

theorem extensionOf?_eq_some_iff {name ext : String} : Path.extensionOf? name = some ext ↔
    ∃ base, base ≠ "" ∧ name = base ++ "." ++ ext ∧ '.' ∉ ext.toList := by
  constructor
  · intro h
    unfold Path.extensionOf? at h
    split at h
    · rename_i c cs after found
      obtain ⟨whole, dotless⟩ := Text.splitLast?_eq_some_iff.mp found
      obtain rfl := Option.some.inj h
      refine ⟨String.ofList (c :: cs), by simp, ?_, by simpa using dotless⟩
      apply String.toList_inj.mp
      rw [whole, toList_withExtension, String.toList_ofList, String.toList_ofList]
    · cases h
  · rintro ⟨base, named, rfl, dotless⟩
    rw [Path.extensionOf?, splitLast?_withExtension dotless]
    cases hb : base.toList with
    | nil => exact absurd (String.toList_eq_nil_iff.mp hb) named
    | cons c cs => simp

namespace TypeScript

theorem dotless_of_mem_extensions {ext : String} (he : ext ∈ extensions) : '.' ∉ ext.toList := by
  have all : ∀ ext ∈ extensions, '.' ∉ ext.toList := by decide
  exact all ext he

theorem fileName_withExtension {ext : String} (he : ext ∈ extensions) (base : String) :
    fileName (base ++ "." ++ ext) = fileName base ++ "." ++ ext := by
  rw [String.append_assoc, Path.fileName_append (slash_notMem_extension he), String.append_assoc]

theorem namesEntry_withExtension {ext : String} (he : ext ∈ extensions) (base : String) :
    NamesEntry (base ++ "." ++ ext) := by
  have long : ∀ ext ∈ extensions, 2 ≤ ext.length := by decide
  have longer : 3 ≤ (base ++ "." ++ ext).length := by
    have := long ext he
    have dot : ".".length = 1 := rfl
    rw [String.length_append, String.length_append]
    omega
  refine ⟨?_, ?_, ?_⟩
  all_goals
    intro same
    rw [same] at longer
    exact absurd longer (by decide)

theorem handles_withExtension {base ext : String} (he : ext ∈ extensions)
    (named : fileName base ≠ "") : handles (base ++ "." ++ ext) = true := by
  have entry : NamesEntry (fileName (base ++ "." ++ ext)) := by
    rw [fileName_withExtension he]
    exact namesEntry_withExtension he _
  have found : Path.extension? (base ++ "." ++ ext) = some ext := by
    rw [extension?_of_namesEntry entry, fileName_withExtension he]
    exact extensionOf?_eq_some_iff.mpr ⟨_, named, rfl, dotless_of_mem_extensions he⟩
  rw [handles, found, Option.any_some]
  exact decide_eq_true he

theorem exists_withExtension {path : String} (direct : IsDirect path)
    (source : handles path = true) :
    ∃ base ext, path = base ++ "." ++ ext ∧ ext ∈ extensions ∧ fileName base ≠ "" := by
  have entry : NamesEntry (fileName path) :=
    direct _ (by rw [Path.segments_eq_concat]; simp)
  rw [handles, extension?_of_namesEntry entry, Option.any_eq_true] at source
  obtain ⟨ext, found, he⟩ := source
  have he := of_decide_eq_true he
  obtain ⟨name, named, whole, -⟩ := extensionOf?_eq_some_iff.mp found
  -- the base is the path with its last segment cut short, which makes no new segments
  have parts : ∀ s ∈ directories path ++ [name], '/' ∉ s.toList := by
    have slashless : ∀ s ∈ directories path ++ [fileName path], '/' ∉ s.toList := by
      rw [← Path.segments_eq_concat]
      exact fun s => Path.slash_notMem_of_mem_segments
    intro s hs
    rcases List.mem_append.mp hs with hs | hs
    · exact slashless s (List.mem_append_left _ hs)
    · have last : '/' ∉ (fileName path).toList := slashless _ (by simp)
      rw [List.mem_singleton.mp hs]
      rw [whole, toList_withExtension] at last
      exact fun slash => last (List.mem_append_left _ slash)
  refine ⟨ofSegments (directories path ++ [name]), ext, ?_, he, ?_⟩
  · rw [String.append_assoc, ← Path.ofSegments_concat_append, ← String.append_assoc, ← whole,
      ← Path.segments_eq_concat, Path.ofSegments_segments]
  · rw [fileName, Path.segments_ofSegments (by simp) parts]
    simpa using named

end TypeScript

/-! ### Marks -/

/-- The marks that are put before an extension. -/
def placeMarks : List String := [".test", ".spec"]

theorem isTestPath_of_mark {mark path : String} (hm : mark ∈ placeMarks)
    (h : (mark ++ ".").toList <:+: path.toList) : isTestPath path = true := by
  have marks : ∀ mark ∈ placeMarks, mark ++ "." ∈ testMarks := by decide
  rw [isTestPath, Bool.or_eq_true, List.any_eq_true]
  exact .inl ⟨_, marks mark hm, Text.occursIn_iff.mpr h⟩

/-- The normal form of a path keeps the marks that are put before an extension. -/
theorem infix_normalize {mark path : String} (hm : mark ∈ placeMarks)
    (h : (mark ++ ".").toList <:+: path.toList) :
    (mark ++ ".").toList <:+: (Path.normalize path).toList := by
  have unchanged : ∀ mark ∈ placeMarks,
      Path.forward (mark ++ ".").toList = (mark ++ ".").toList := by decide
  have forward : (mark ++ ".").toList <:+: Path.forward path.toList := by
    have mapped := h.map fun c => if c = '\\' then '/' else c
    rwa [← Path.forward, unchanged mark hm] at mapped
  -- a step that stays is a dot and a slash, and no mark begins so
  rw [Path.toList_normalize]
  simp only [placeMarks, List.mem_cons, List.not_mem_nil, or_false] at hm
  rcases hm with rfl | rfl
  · exact Path.infix_skipHere (by decide : 't' ≠ '/') forward
  · exact Path.infix_skipHere (by decide : 's' ≠ '/') forward

theorem infix_withMark (root mark ext : String) :
    (mark ++ ".").toList <:+: (root ++ mark ++ "." ++ ext).toList :=
  ⟨root.toList, ext.toList, by simp⟩

/-! ### Places -/

/-- The roots before the marks: the file without its extension, and the same in the directory of
tests. -/
def placeRoots (base : String) : List String :=
  [base, String.ofList (parallelStem base.toList)]

section

variable {base ext : String} (he : ext ∈ TypeScript.extensions) (named : fileName base ≠ "")
include he named

theorem stemAndExtension_withExtension :
    stemAndExtension (base ++ "." ++ ext).toList = (base.toList, ext.toList) := by
  have nonempty : base.toList ≠ [] := by
    intro none
    rw [String.toList_eq_nil_iff.mp none] at named
    exact named rfl
  have slashless : '/' ∉ ext.toList := fun slash =>
    TypeScript.slash_notMem_extension he (by simp [slash])
  rw [stemAndExtension, splitLast?_withExtension (TypeScript.dotless_of_mem_extensions he)]
  exact if_pos ⟨nonempty, slashless⟩

/-- The tests of a file have its extension, behind a mark. -/
theorem testCandidates_withExtension :
    testCandidates (base ++ "." ++ ext) =
      (placeRoots base).flatMap fun root =>
        placeMarks.map fun mark => root ++ mark ++ "." ++ ext := by
  have nonempty : ext.toList ≠ [] := by
    intro none
    rw [String.toList_eq_nil_iff.mp none] at he
    exact absurd he (by decide)
  have tail : String.ofList ('.' :: ext.toList) = "." ++ ext :=
    String.toList_inj.mp (by simp)
  simp only [testCandidates, stemAndExtension_withExtension he named]
  simp [placeRoots, placeMarks, nonempty, tail, String.append_assoc]

end

/-- The base in the directory of tests, which stands in place of a leading `src`. -/
def IsParallel (base parallel : String) : Prop :=
  (∀ rest, base = "src/" ++ rest → parallel = "tests/" ++ rest) ∧
    ((∀ rest, base ≠ "src/" ++ rest) → parallel = "tests/" ++ base)

theorem isParallel_parallelStem (base : String) :
    IsParallel base (String.ofList (parallelStem base.toList)) := by
  constructor
  · rintro rest rfl
    have dropped : Text.dropHead? "src/".toList ("src/" ++ rest).toList = some rest.toList :=
      Text.dropHead?_eq_some_iff.mpr String.toList_append
    unfold parallelStem
    rw [dropped, Option.getD_some, String.ofList_append, String.ofList_toList, String.ofList_toList]
  · intro other
    cases found : Text.dropHead? "src/".toList base.toList with
    | none =>
      unfold parallelStem
      rw [found, Option.getD_none, String.ofList_append, String.ofList_toList, String.ofList_toList]
    | some rest =>
      have whole := Text.dropHead?_eq_some_iff.mp found
      exact absurd (String.toList_inj.mp (by simp [whole])) (other (String.ofList rest))

/-- Tests of a source file are looked for in four places. -/
theorem exists_four_places {path : String} (direct : IsDirect path)
    (source : TypeScript.handles path = true) :
    ∃ base ext parallel, path = base ++ "." ++ ext ∧ '.' ∉ ext.toList ∧ IsParallel base parallel ∧
      testCandidates path = [base ++ ".test." ++ ext, base ++ ".spec." ++ ext,
        parallel ++ ".test." ++ ext, parallel ++ ".spec." ++ ext] := by
  obtain ⟨base, ext, rfl, he, named⟩ := TypeScript.exists_withExtension direct source
  refine ⟨base, ext, _, rfl, TypeScript.dotless_of_mem_extensions he, isParallel_parallelStem base, ?_⟩
  have test : ".test." = ".test" ++ "." := rfl
  have spec : ".spec." = ".spec" ++ "." := rfl
  rw [testCandidates_withExtension he named, test, spec]
  simp only [placeRoots, placeMarks, List.flatMap_cons, List.flatMap_nil, List.map_cons, List.map_nil,
    List.cons_append, List.nil_append, String.append_assoc]

/-! ### Counts -/

theorem paths_firstPerFile_filter (symbols : List Symbol) (path : String) :
    (firstPerFile (symbols.filter fun s => s.path ≠ path)).map Symbol.path =
      ((firstPerFile symbols).map Symbol.path).filter (· ≠ path) := by
  have chosen : firstPerFile (symbols.filter fun s => s.path ≠ path) =
      (firstPerFile symbols).filter fun s => s.path ≠ path :=
    distinctBy_filter fun s _ t _ same => by rw [same]
  rw [chosen, List.filter_map]
  rfl

/-- A project has one file more than without the symbols of one of its files, a test or one of
production. -/
theorem countFiles_of_mem {symbols : List Symbol} {path : String}
    (h : path ∈ symbols.map Symbol.path) :
    let others := Check.countFiles (symbols.filter fun s => s.path ≠ path)
    Check.countFiles symbols =
      if isTestPath path then { others with tests := others.tests + 1 }
      else { others with production := others.production + 1 } := by
  have order : ((firstPerFile symbols).map Symbol.path).Perm
      (path :: ((firstPerFile symbols).map Symbol.path).filter (· ≠ path)) := by
    have apart : ((firstPerFile symbols).map Symbol.path).Nodup := nodup_keys_distinctBy symbols
    have erased := apart.erase_eq_filter path
    have listed : path ∈ (firstPerFile symbols).map Symbol.path := mem_keys_distinctBy.mpr h
    have kept : ∀ p, (p != path) = decide (p ≠ path) := fun p => Bool.eq_iff_iff.mpr (by simp)
    simp only [kept] at erased
    exact erased ▸ List.perm_cons_erase listed
  simp only [Check.countFiles, paths_firstPerFile_filter]
  rw [(order.filter isTestPath).length_eq, (order.filter fun p => !isTestPath p).length_eq]
  cases kind : isTestPath path with
  | true => simp [kind]
  | false => simp [kind]

/-- The tests of a source file are looked for in four places, beside it and in the directory of
tests, each time with one of two marks before the extension. All are paths of tests and of source
files. A file at one of them is listed among the source files, unless it is left out, and as soon as it has
a symbol there is one test more, and not one more file of production. -/
theorem tests_are_looked_for_among_tests {path : String} (direct : IsDirect path)
    (source : TypeScript.handles path = true) :
    (∃ base ext parallel, path = base ++ "." ++ ext ∧ '.' ∉ ext.toList ∧ IsParallel base parallel ∧
      testCandidates path = [base ++ ".test." ++ ext, base ++ ".spec." ++ ext,
        parallel ++ ".test." ++ ext, parallel ++ ".spec." ++ ext]) ∧
    ∀ place ∈ testCandidates path,
      isTestPath place = true ∧ TypeScript.handles place = true ∧
      (∀ (f : SourceFilter) (scopes : List IgnoreScope) (content : Content),
        f.sourcesIn scopes (segments place) (.file content) = [Path.normalize place]) ∧
      ∀ symbols : List Symbol, Path.normalize place ∈ symbols.map Symbol.path →
        let others := Check.countFiles (symbols.filter fun s => s.path ≠ Path.normalize place)
        Check.countFiles symbols = { others with tests := others.tests + 1 } := by
  refine ⟨exists_four_places direct source, fun place hplace => ?_⟩
  obtain ⟨base, ext, rfl, he, named⟩ := TypeScript.exists_withExtension direct source
  rw [testCandidates_withExtension he named] at hplace
  obtain ⟨root, -, hplace⟩ := List.mem_flatMap.mp hplace
  obtain ⟨mark, hm, rfl⟩ := List.mem_map.mp hplace
  have marked := infix_withMark root mark ext
  have handled : TypeScript.handles (root ++ mark ++ "." ++ ext) = true := by
    have marks : ∀ mark ∈ placeMarks, '/' ∉ mark.toList ∧ mark ≠ "" := by decide
    refine TypeScript.handles_withExtension he ?_
    rw [Path.fileName_append (marks mark hm).1]
    simp [(marks mark hm).2]
  refine ⟨isTestPath_of_mark hm marked, handled, fun f scopes content => ?_, fun symbols hs => ?_⟩
  · rw [SourceFilter.sourcesIn, Path.ofSegments_segments]
    exact if_pos handled
  · have count := countFiles_of_mem hs
    rwa [isTestPath_of_mark hm (infix_normalize hm marked)] at count

/-- A file in a directory with a dot, whose name starts with a dot and holds another one, and a test
of it with two symbols. -/
theorem test_of_dotted_file_is_counted :
    let path := "src/v1.0/.user.service.ts"
    let place := "tests/v1.0/.user.service.spec.ts"
    let symbols : List Symbol := [⟨place, "one", "A", [], .classDecl⟩,
      ⟨path, "user", "A", [], .wholeFile⟩, ⟨place, "two", "A", [], .constDecl⟩]
    IsDirect path ∧ TypeScript.handles path = true ∧
      testCandidates path = ["src/v1.0/.user.service.test.ts", "src/v1.0/.user.service.spec.ts",
        "tests/v1.0/.user.service.test.ts", place] ∧
      isTestPath place = true ∧ TypeScript.handles place = true ∧
      Check.countFiles symbols = ⟨1, 1⟩ := by
  intro path place symbols
  have direct : IsDirect path := by decide
  have source : TypeScript.handles path = true := by decide
  have places : testCandidates path = ["src/v1.0/.user.service.test.ts",
      "src/v1.0/.user.service.spec.ts", "tests/v1.0/.user.service.test.ts", place] := by decide
  obtain ⟨test, handled, -, counted⟩ :=
    (tests_are_looked_for_among_tests direct source).2 place (by simp [places])
  refine ⟨direct, source, places, test, handled, ?_⟩
  rw [counted symbols (by decide)]
  decide

end ArchLint
