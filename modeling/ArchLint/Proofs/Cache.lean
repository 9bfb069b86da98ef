import ArchLint.Analysis
import ArchLint.Proofs.View

/-!
Texts that were read beforehand. Laid over the files, a cache says no more than it says beside them
(`text?_uncached`), and the texts that an analysis reads beforehand are those it would read later
(`text?_scene`). So neither which texts are in the cache nor whether there is one is seen in a
report.
-/

namespace ArchLint

/-- The files with the texts of a cache in place of their own. What is there stays the same. -/
def FileView.overlaid (v : FileView) (cache : TextCache) : FileView :=
  { v with
    read := fun path =>
      match cache.lookup path with
      | some text => .ok text
      | none => v.read path }

/-- The scene with its cache laid over its files. -/
def Scene.uncached (s : Scene) : Scene := { s with files := s.files.overlaid s.cache, cache := [] }

theorem text?_uncached (s : Scene) (path : String) : s.uncached.text? path = s.text? path := by
  simp only [Scene.uncached, Scene.text?, FileView.text?, FileView.overlaid, List.lookup_nil]
  cases s.cache.lookup path <;> rfl

/-! ### Runs that read the same -/

/-- A run asks for each bucket what its check reports, whatever rules are in the buckets. -/
theorem run_eq_flatMap_bucket (rules : RuleSet) (scene : Scene) :
    rules.run scene = Bucket.reported.flatMap fun b => b.check (rules.bucket b) scene := by
  rw [run_eq_all]
  simp only [Family.all, Bucket.reported, List.flatMap_cons, List.flatMap_nil, List.append_nil,
    List.append_assoc, Family.check, Bucket.check, Bucket.checkRule, RuleSet.bucket]

section

variable {s t : Scene}

theorem sameView_of_text? (ht : ∀ path, s.text? path = t.text? path) (hs : s.symbols = t.symbols)
    (hi : ∀ path, s.isThere path = t.isThere path) : s.SameView t where
  text? := ht
  isThere := hi
  filesOf _ := by rw [Scene.filesOf, Scene.filesOf, hs]
  filesMatching _ := by rw [Check.filesMatching, Check.filesMatching, hs]
  countFiles := by rw [hs]
  graph := by rw [hs]

/-- Scenes with the same symbols in which the same texts and places are found are checked alike. -/
theorem run_congr_text? (ht : ∀ path, s.text? path = t.text? path) (hs : s.symbols = t.symbols)
    (hi : ∀ path, s.isThere path = t.isThere path) (rules : RuleSet) :
    rules.run s = rules.run t := by
  have sameView : s.SameView t := sameView_of_text? ht hs hi
  rw [run_eq_flatMap_bucket, run_eq_flatMap_bucket]
  refine List.flatMap_congr fun b _ => ?_
  -- two checks look at the symbols one by one, which a view does not show
  rcases eq_or_ne b .naming with rfl | hn
  · simp only [Bucket.check, Bucket.checkRule, Check.naming, hs]
  rcases eq_or_ne b .unreferenced with rfl | hu
  · simp only [Bucket.check, Bucket.checkRule, Check.unreferenced, hs]
  · exact sameView.check hn hu _

end

/-! ### Reading beforehand -/

theorem mem_of_lookup_eq_some {cache : TextCache} {path text : String}
    (h : cache.lookup path = some text) : (path, text) ∈ cache := by
  obtain ⟨before, after, rfl, -⟩ := List.lookup_eq_some_iff.mp h
  exact List.mem_append_right before List.mem_cons_self

/-- What is found among the texts read beforehand is what the file holds. -/
theorem text?_of_lookup_preloaded {files : FileView} {symbols : List Symbol} {path text : String}
    (h : (Analysis.preloaded files symbols).lookup path = some text) :
    files.text? path = some text := by
  obtain ⟨s, -, hs⟩ := List.mem_filterMap.mp (mem_of_lookup_eq_some h)
  obtain ⟨read, hread, he⟩ := Option.map_eq_some_iff.mp hs
  cases he
  exact hread

/-- An analysis finds the text of a file wherever it takes it from. -/
theorem text?_scene (a : Analysis) (rules : RuleSet) (symbols : List Symbol) (path : String) :
    (a.scene rules symbols).text? path = a.files.text? path := by
  unfold Scene.text?
  cases h : (a.scene rules symbols).cache.lookup path with
  | none => rfl
  | some text =>
    unfold Analysis.scene at h
    split at h
    · exact (text?_of_lookup_preloaded h).symm
    · exact absurd h (by simp)

/-- The analysis with files read beforehand, or not. -/
def Analysis.preloading (a : Analysis) (preload : Bool) : Analysis :=
  { a with config := { a.config with preload } }

theorem findings_preloading (a : Analysis) (preload : Bool) (symbols : List Symbol) :
    (a.preloading preload).findings symbols = a.findings symbols := by
  have sameText : ∀ path,
      ((a.preloading preload).scene (RuleSet.ofRules a.activeRules) symbols).text? path =
        (a.scene (RuleSet.ofRules a.activeRules) symbols).text? path :=
    fun path => (text?_scene ..).trans (text?_scene a _ _ path).symm
  exact run_congr_text? sameText rfl (fun _ => rfl) _

/-- A cache changes nothing that laying its texts over the files would not change, and reading files
beforehand changes nothing at all. -/
theorem caching_is_transparent :
    (∀ (rules : RuleSet) (scene : Scene), rules.run scene =
      rules.run { scene with files := scene.files.overlaid scene.cache, cache := [] }) ∧
    ∀ (a : Analysis) (symbols : List Symbol),
      (a.preloading true).run symbols = (a.preloading false).run symbols := by
  constructor
  · intro rules scene
    have sameText : ∀ path, scene.text? path = scene.uncached.text? path :=
      fun path => (text?_uncached scene path).symm
    exact run_congr_text? sameText rfl (fun _ => rfl) rules
  · intro a symbols
    have sameFindings : (a.preloading true).findings (assignRoles a.grammar.roles symbols) =
        (a.preloading false).findings (assignRoles a.grammar.roles symbols) := by
      rw [findings_preloading, findings_preloading]
    exact congrArg (fun vs => Report.mk (Violation.dedup vs) _ _) sameFindings

end ArchLint
