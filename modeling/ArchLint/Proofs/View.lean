import ArchLint.Proofs.Distinct
import ArchLint.Proofs.Meaning

/-!
What the checks see of a scene. A check gets at the symbols through few questions: the first symbols
of the files of a scope, those of the files with a path, how many files hold tests, and the graph of
dependencies. Scenes that answer these questions alike (`Scene.SameView`) are checked alike by all
checks but two, which look at every symbol.
-/

namespace ArchLint

theorem Scene.filesOf_subset (s : Scene) (scope : RoleSelector) : s.filesOf scope ⊆ s.symbols :=
  fun _ hx => List.mem_of_mem_filter (mem_of_mem_distinctBy hx)

theorem Scene.filesMatching_subset (s : Scene) (pattern : Pattern) :
    Check.filesMatching s pattern ⊆ s.symbols :=
  fun _ hx => List.mem_of_mem_filter (mem_of_mem_distinctBy hx)

/-- Two scenes answer the same to whatever is asked about files. -/
structure Scene.SameView (s t : Scene) : Prop where
  text? : ∀ path, s.text? path = t.text? path
  isThere : ∀ path, s.isThere path = t.isThere path
  filesOf : ∀ scope, s.filesOf scope = t.filesOf scope
  filesMatching : ∀ pattern, Check.filesMatching s pattern = Check.filesMatching t pattern
  countFiles : Check.countFiles s.symbols = Check.countFiles t.symbols
  graph : FileGraph.ofSymbols s.symbols = FileGraph.ofSymbols t.symbols

theorem hasTest_congr {s t : Scene} (h : ∀ path, s.isThere path = t.isThere path) :
    Check.hasTest s = Check.hasTest t := by
  funext path
  rw [Check.hasTest, Check.hasTest, funext h]

namespace Scene.SameView

variable {s t : Scene}

theorem scan (h : s.SameView t) (files : List Symbol)
    (check : Symbol → String → List Violation) : s.scan files check = t.scan files check :=
  List.flatMap_congr fun x _ => by rw [h.text?]

theorem lengths (h : s.SameView t) (scope : RoleSelector) :
    Check.lengths s scope = Check.lengths t scope := by
  rw [Check.lengths, Check.lengths, h.filesOf]
  exact List.filterMap_congr fun x _ => by rw [h.text?]

/-- A check that does not look at every symbol reports the same of two scenes with one view. -/
theorem checkRule (h : s.SameView t) {b : Bucket} (hn : b ≠ .naming) (hu : b ≠ .unreferenced)
    (r : Typed b.Body) : b.checkRule r s = b.checkRule r t := by
  cases b with
  | naming => exact absurd rfl hn
  | unreferenced => exact absurd rfl hu
  | forbidden => simp only [Bucket.checkRule, h.graph]
  | required => simp only [Bucket.checkRule, h.graph]
  | allowed => rfl
  | circular => simp only [Bucket.checkRule, h.graph]
  | synonyms => simp only [Bucket.checkRule, Check.synonyms, h.filesOf]
  | fileSize => simp only [Bucket.checkRule, Check.fileSize, h.filesOf, h.scan]
  | testCoverage => simp only [Bucket.checkRule, Check.testCoverage, h.filesOf,
    hasTest_congr h.isThere]
  | documentation => simp only [Bucket.checkRule, Check.documentation, h.filesOf, h.scan]
  | complexity => simp only [Bucket.checkRule, Check.complexity, h.filesOf, h.scan]
  | granularity => simp only [Bucket.checkRule, Check.granularity, h.lengths]
  | keywords => simp only [Bucket.checkRule, Check.keywords, h.filesOf, h.scan]
  | content => simp only [Bucket.checkRule, Check.content, h.filesOf, h.scan]
  | barrel => simp only [Bucket.checkRule, Check.barrel, h.filesMatching, h.scan]
  | layout => simp only [Bucket.checkRule, Check.layout, h.isThere]
  | testRatio => simp only [Bucket.checkRule, Check.testRatio, h.countFiles]

theorem check (h : s.SameView t) {b : Bucket} (hn : b ≠ .naming) (hu : b ≠ .unreferenced)
    (rules : List (Typed b.Body)) : b.check rules s = b.check rules t := by
  rcases eq_or_ne b .forbidden with rfl | hb
  · simp only [Bucket.check, h.graph]
  · rw [Bucket.check_eq_flatMap hb, Bucket.check_eq_flatMap hb]
    exact List.flatMap_congr fun r _ => h.checkRule hn hu r

end Scene.SameView

end ArchLint
