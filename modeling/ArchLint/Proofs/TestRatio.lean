import ArchLint.Check.Layout
import ArchLint.Proofs.Distinct
import ArchLint.Proofs.Loading
import ArchLint.Proofs.Quotient
import Mathlib.Data.Finset.Card

/-!
Tests for production files. What is counted are the paths that the symbols mention, each of them
once (`card_chosen`), so every path is counted on one side or the other and nothing else is. More
tests raise the quotient and more production files lower it (`FileCounts.IsBelow.mono`). A project
without production files has no quotient and is not reported; tests that are added do not give it
one, and a project that has one keeps it when files are added.
-/

namespace ArchLint

namespace Check

/-- The paths that the symbols mention. -/
def mentionedPaths (symbols : List Symbol) : Finset String := (symbols.map Symbol.path).toFinset

/-- Those of tests, or those of anything else. -/
def pathsOf (symbols : List Symbol) (tests : Bool) : Finset String :=
  (mentionedPaths symbols).filter fun path => isTestPath path = tests

/-- The count of tests, or of anything else. -/
def FileCounts.of (c : FileCounts) : Bool → Nat
  | true => c.tests
  | false => c.production

/-- The one list of symbols has what the other has, and besides only symbols of paths that the other
mentions or that are of one kind: tests, or no tests. -/
structure Adds (kind : Bool) (symbols more : List Symbol) : Prop where
  kept : symbols ⊆ more
  added : ∀ s ∈ more, s.path ∉ symbols.map Symbol.path → isTestPath s.path = kind

variable {symbols more : List Symbol}

/-! ### Counts -/

theorem mem_mentionedPaths {path : String} :
    path ∈ mentionedPaths symbols ↔ path ∈ symbols.map Symbol.path :=
  List.mem_toFinset

theorem mentionedPaths_eq_firsts (symbols : List Symbol) :
    mentionedPaths symbols = ((firstPerFile symbols).map Symbol.path).toFinset := by
  ext path
  rw [mem_mentionedPaths, List.mem_toFinset, firstPerFile, mem_keys_distinctBy]

/-- Choosing among the first symbols counts every chosen path once. -/
theorem card_chosen (symbols : List Symbol) (p : String → Bool) :
    ((mentionedPaths symbols).filter fun path => p path = true).card =
      (((firstPerFile symbols).map Symbol.path).filter p).length := by
  have once : ((firstPerFile symbols).map Symbol.path).Nodup := nodup_keys_distinctBy symbols
  rw [mentionedPaths_eq_firsts, ← List.toFinset_filter,
    List.toFinset_card_of_nodup (once.filter _)]

theorem card_pathsOf (symbols : List Symbol) (tests : Bool) :
    (pathsOf symbols tests).card = (countFiles symbols).of tests := by
  cases tests with
  | true => exact card_chosen symbols isTestPath
  | false =>
    have chosen := card_chosen symbols fun path => !isTestPath path
    simp only [Bool.not_eq_true'] at chosen
    exact chosen

theorem tests_add_production (symbols : List Symbol) :
    (countFiles symbols).tests + (countFiles symbols).production =
      (mentionedPaths symbols).card := by
  have tests := card_pathsOf symbols true
  have production := card_pathsOf symbols false
  simp only [pathsOf, ← Bool.not_eq_true] at tests production
  rw [← Finset.card_filter_add_card_filter_not fun path => isTestPath path = true, tests,
    production]
  rfl

/-- There are no more paths than symbols. -/
theorem counts_lt {n : Nat} (fits : symbols.length < n) :
    (countFiles symbols).tests < n ∧ (countFiles symbols).production < n := by
  have total := tests_add_production symbols
  have most : (mentionedPaths symbols).card ≤ symbols.length :=
    (List.toFinset_card_le _).trans_eq (List.length_map _)
  omega

/-! ### Adding symbols -/

theorem mentionedPaths_mono (h : symbols ⊆ more) : mentionedPaths symbols ⊆ mentionedPaths more := by
  intro path hp
  rw [mem_mentionedPaths] at hp ⊢
  exact List.map_subset _ h hp

theorem Adds.of_le {kind : Bool} (h : Adds kind symbols more) (tests : Bool) :
    (countFiles symbols).of tests ≤ (countFiles more).of tests := by
  rw [← card_pathsOf, ← card_pathsOf]
  exact Finset.card_le_card (Finset.filter_subset_filter _ (mentionedPaths_mono h.kept))

/-- A path that is mentioned only in the longer list is of the kind that was added. -/
theorem Adds.mem_or {kind : Bool} (h : Adds kind symbols more) {path : String}
    (hp : path ∈ mentionedPaths more) :
    path ∈ mentionedPaths symbols ∨ isTestPath path = kind := by
  by_cases old : path ∈ mentionedPaths symbols
  · exact Or.inl old
  · rw [mem_mentionedPaths] at hp old
    obtain ⟨s, hs, rfl⟩ := List.mem_map.mp hp
    exact Or.inr (h.added s hs old)

/-- Of the other kind there are as many as before. -/
theorem Adds.of_eq {kind : Bool} (h : Adds kind symbols more) :
    (countFiles more).of (!kind) = (countFiles symbols).of (!kind) := by
  refine Nat.le_antisymm ?_ (h.of_le _)
  rw [← card_pathsOf, ← card_pathsOf]
  refine Finset.card_le_card fun path hp => ?_
  obtain ⟨hp, other⟩ := Finset.mem_filter.mp hp
  rcases h.mem_or hp with old | same
  · exact Finset.mem_filter.mpr ⟨old, other⟩
  · simp [same] at other

/-! ### Reports -/

/-- The counts fall short of a ratio. -/
def FileCounts.IsBelow (c : FileCounts) (ratio : ℚ) : Prop :=
  0 < c.production ∧ Binary64.quotient c.tests c.production < ratio

instance (c : FileCounts) (ratio : ℚ) : Decidable (c.IsBelow ratio) :=
  inferInstanceAs (Decidable (_ ∧ _))

/-- Fewer tests, more production files or a higher ratio: what was below stays below. -/
theorem FileCounts.IsBelow.mono {c d : FileCounts} {ratio ratio' : ℚ} (h : c.IsBelow ratio)
    (tests : d.tests ≤ c.tests) (production : c.production ≤ d.production)
    (raised : ratio ≤ ratio') : d.IsBelow ratio' := by
  obtain ⟨pos, below⟩ := h
  -- the larger divisor is not zero either, where the quotient would fall to zero
  refine ⟨by omega, ?_⟩
  calc Binary64.quotient d.tests d.production
      ≤ Binary64.quotient c.tests c.production := Binary64.quotient_mono tests production pos
    _ < ratio := below
    _ ≤ ratio' := raised

theorem le_ratio_iff {c : FileCounts} {ratio : Binary64} (accepted : Draft.isShare ratio = true)
    (tests : c.tests < 2 ^ 64) (production : c.production < 2 ^ 64) (pos : 0 < c.production) :
    ratio.le c.ratio = true ↔ ratio.toRat ≤ Binary64.quotient c.tests c.production := by
  obtain ⟨finite, -, -⟩ := Draft.isShare_iff.mp accepted
  obtain ⟨inside, value⟩ := Binary64.toRat_div_ofNat tests production pos
  rw [FileCounts.ratio, Binary64.le_iff finite inside, value]

variable {rule : Typed TestRatioRule} {scene : Scene}

theorem testRatio_eq (accepted : Draft.isShare rule.body.ratio = true)
    (fits : scene.symbols.length < 2 ^ 64) :
    testRatio rule scene =
      if (countFiles scene.symbols).IsBelow rule.body.ratio.toRat then
        [rule.head.violation projectFile (ratioFinding rule.body (countFiles scene.symbols))]
      else [] := by
  obtain ⟨tests, production⟩ := counts_lt fits
  unfold testRatio
  rw [← ite_not]
  refine if_congr ?_ rfl rfl
  rw [FileCounts.IsBelow, not_or, Nat.pos_iff_ne_zero]
  refine and_congr_right fun nonzero => ?_
  rw [le_ratio_iff accepted tests production (Nat.pos_of_ne_zero nonzero), not_le]

theorem testRatio_ne_nil_iff (accepted : Draft.isShare rule.body.ratio = true)
    (fits : scene.symbols.length < 2 ^ 64) :
    testRatio rule scene ≠ [] ↔ (countFiles scene.symbols).IsBelow rule.body.ratio.toRat := by
  rw [testRatio_eq accepted fits]
  split_ifs with below <;> simp [below]

theorem Adds.isBelow_of_tests {ratio : ℚ} (h : Adds true symbols more)
    (below : (countFiles more).IsBelow ratio) : (countFiles symbols).IsBelow ratio :=
  below.mono (h.of_le true) h.of_eq.le le_rfl

theorem Adds.isBelow_of_production {ratio : ℚ} (h : Adds false symbols more)
    (below : (countFiles symbols).IsBelow ratio) : (countFiles more).IsBelow ratio :=
  below.mono h.of_eq.le (h.of_le false) le_rfl

end Check

open Check in
/-- Tests and other files are counted once each and together make up all files. They are reported
if and only if there are production files and the quotient is below the ratio; test files never
bring a report, production files never take one away, and no more does a higher ratio. The symbols
are as many as a machine word can count; up to `2 ^ 53` files the quotient is the exact one, rounded
once. -/
theorem test_ratio_goes_by_distinct_files {rule : Typed TestRatioRule} {scene : Scene}
    (accepted : Draft.isShare rule.body.ratio = true) (fits : scene.symbols.length < 2 ^ 64) :
    (∀ symbols : List Symbol,
      let paths := (symbols.map Symbol.path).toFinset
      let tests := paths.filter fun path => isTestPath path = true
      tests.card ≤ paths.card ∧
      countFiles symbols = ⟨tests.card, paths.card - tests.card⟩ ∧
      (countFiles symbols).tests + (countFiles symbols).production = paths.card) ∧
    (let c := countFiles scene.symbols
     testRatio rule scene =
        (if 0 < c.production ∧ Binary64.quotient c.tests c.production < rule.body.ratio.toRat then
          [rule.head.violation projectFile (ratioFinding rule.body c)]
        else []) ∧
      (c.tests ≤ 2 ^ 53 → c.production ≤ 2 ^ 53 →
        Binary64.quotient c.tests c.production = Binary64.round (c.tests / c.production))) ∧
    (∀ symbols, symbols.length < 2 ^ 64 → Adds true scene.symbols symbols →
      testRatio rule scene = [] → testRatio rule { scene with symbols } = []) ∧
    (∀ symbols, symbols.length < 2 ^ 64 → Adds false scene.symbols symbols →
      testRatio rule scene ≠ [] → testRatio rule { scene with symbols } ≠ []) ∧
    ∀ ratio, Draft.isShare ratio = true → rule.body.ratio.toRat ≤ ratio.toRat →
      testRatio rule scene ≠ [] → testRatio ⟨rule.head, ⟨ratio⟩⟩ scene ≠ [] := by
  refine ⟨fun symbols => ⟨?_, ?_, ?_⟩, ⟨?_, ?_⟩, ?_, ?_, ?_⟩
  · exact Finset.card_filter_le _ _
  · have total := tests_add_production symbols
    have tests := card_pathsOf symbols true
    rw [pathsOf, mentionedPaths, FileCounts.of] at tests
    rw [mentionedPaths] at total
    rw [tests, ← total, Nat.add_sub_cancel_left]
  · exact tests_add_production symbols
  · exact testRatio_eq accepted fits
  · exact Binary64.quotient_eq_round
  · intro symbols fits' adds none
    by_contra reported
    have below := (testRatio_ne_nil_iff accepted fits').mp reported
    exact (testRatio_ne_nil_iff accepted fits).mpr (adds.isBelow_of_tests below) none
  · intro symbols fits' adds reported
    have below := (testRatio_ne_nil_iff accepted fits).mp reported
    exact (testRatio_ne_nil_iff accepted fits').mpr (adds.isBelow_of_production below)
  · intro ratio accepted' raised reported
    have below := (testRatio_ne_nil_iff accepted fits).mp reported
    have higher : testRatio ⟨rule.head, ⟨ratio⟩⟩ scene ≠ [] ↔
        (countFiles scene.symbols).IsBelow ratio.toRat := testRatio_ne_nil_iff accepted' fits
    exact higher.mpr (below.mono le_rfl le_rfl raised)

open Check in
/-- Two production files with three symbols and a test between them; then more of each kind. -/
theorem one_test_for_two_files_is_reported :
    let rule : Typed TestRatioRule := ⟨⟨"tested", .warning, none⟩, ⟨.one⟩⟩
    let symbols : List Symbol := [⟨"src/a.ts", "A", "A", [], .classDecl⟩,
      ⟨"src/a.test.ts", "t", "T", [], .constDecl⟩, ⟨"src/b.ts", "B", "A", [], .classDecl⟩,
      ⟨"src/a.ts", "a", "A", [], .constDecl⟩]
    let test : Symbol := ⟨"tests/b.ts", "t", "T", [], .constDecl⟩
    let other : Symbol := ⟨"src/c.ts", "C", "A", [], .classDecl⟩
    let scene (symbols : List Symbol) : Scene :=
      ⟨symbols, ⟨fun _ => .error .notFound, fun _ => false⟩, []⟩
    Draft.isShare rule.body.ratio = true ∧
    Adds false symbols (other :: symbols) ∧ Adds true (test :: symbols) (test :: test :: symbols) ∧
    countFiles symbols = ⟨1, 2⟩ ∧
    testRatio rule (scene symbols) ≠ [] ∧ testRatio rule (scene (other :: symbols)) ≠ [] ∧
    testRatio rule (scene (test :: symbols)) = [] ∧
    testRatio rule (scene (test :: test :: symbols)) = [] := by
  intro rule symbols test other scene
  have accepted : Draft.isShare rule.body.ratio = true := Draft.isShare_iff.mpr
    ⟨Binary64.isFinite_one, by rw [Binary64.toRat_one]; exact zero_le_one, Binary64.toRat_one.le⟩
  have others : Adds false symbols (other :: symbols) := by
    constructor
    · exact List.subset_cons_self _ _
    · simp [symbols, other]
      decide
  have tests : Adds true (test :: symbols) (test :: test :: symbols) := by
    constructor
    · exact List.subset_cons_self _ _
    · simp [symbols, test]
  have reported : testRatio rule (scene symbols) ≠ [] := by decide +kernel
  have passed : testRatio rule (scene (test :: symbols)) = [] := by decide +kernel
  refine ⟨accepted, others, tests, by decide, reported, ?_, passed, ?_⟩
  · have fits : (scene symbols).symbols.length < 2 ^ 64 := by decide
    obtain ⟨-, -, -, production, -⟩ := test_ratio_goes_by_distinct_files accepted fits
    exact production _ (by decide) others reported
  · have fits : (scene (test :: symbols)).symbols.length < 2 ^ 64 := by decide
    obtain ⟨-, -, more, -, -⟩ := test_ratio_goes_by_distinct_files accepted fits
    exact more _ (by decide) tests passed

end ArchLint
