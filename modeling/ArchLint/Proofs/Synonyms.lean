import ArchLint.Proofs.Loading
import ArchLint.Proofs.Pairs
import ArchLint.Proofs.PerFile
import ArchLint.Proofs.RoundedScore

/-!
Files with similar names. The check goes through the pairs of a list of paths that has no
repetitions and is in the order in which the symbols first mention them (`filePaths`), so that every
unordered pair is met once, from its earlier side (`between_synonymsIn`). Whether a pair is reported
goes by its names alone, and the score does not ask which of them comes first; hence another order
of the symbols turns some reports around and loses none.
-/

namespace ArchLint

/-- The two files that a violation with a dependency is about. -/
def Violation.between? (v : Violation) : Option (Sym2 String) :=
  v.dependency.map fun q => s(v.file, q)

/-- Some symbol of the file has a selected role. -/
def Scene.Selects (scene : Scene) (scope : RoleSelector) (path : String) : Prop :=
  ∃ s ∈ scene.symbols, s.path = path ∧ scope.selects s.role = true

/-- The symbols mention the one path before the other. -/
def SeenBefore (symbols : List Symbol) (p q : String) : Prop :=
  (symbols.map Symbol.path).idxOf p < (symbols.map Symbol.path).idxOf q

namespace Check

/-! ### The paths of the scope -/

/-- The paths of the scope, each where it first stands. -/
def filePaths (scene : Scene) (scope : RoleSelector) : List String :=
  (scene.filesOf scope).map Symbol.path

theorem mem_filePaths {scene : Scene} {scope : RoleSelector} {path : String} :
    path ∈ filePaths scene scope ↔ scene.Selects scope path := by
  rw [filePaths, Scene.filesOf, firstPerFile, mem_keys_distinctBy]
  simp only [List.mem_map, List.mem_filter, Scene.Selects]
  exact exists_congr fun s => and_right_comm.trans and_assoc

theorem nodup_filePaths (scene : Scene) (scope : RoleSelector) : (filePaths scene scope).Nodup :=
  nodup_keys_distinctBy _

theorem pairwise_filePaths {scene : Scene} (hr : PerFile Symbol.role scene.symbols)
    (scope : RoleSelector) : (filePaths scene scope).Pairwise (SeenBefore scene.symbols) := by
  have chosen : scene.filesOf scope =
      (firstPerFile scene.symbols).filter fun x => scope.selects x.role :=
    distinctBy_filter (perFile_selects hr scope)
  rw [filePaths, chosen]
  exact (pairwise_idxOf_keys_distinctBy scene.symbols).sublist (List.filter_sublist.map _)

/-! ### What is reported -/

/-- The name by which the file at a path is compared with others. -/
def mappedName (rule : SynonymRule) (path : String) : List Char :=
  Thesaurus.apply rule.thesaurus (FileName.core (Path.fileName path).toList)

/-- Do the names at two paths reach the threshold, where scores are rounded by `r`? -/
def SimilarPaths (r : Similarity.Rounding) (rule : SynonymRule) (p q : String) : Prop :=
  rule.threshold.toRat ≤ Similarity.score r (mappedName rule p) (mappedName rule q)

instance (r : Similarity.Rounding) (rule : SynonymRule) (p q : String) :
    Decidable (SimilarPaths r rule p q) :=
  inferInstanceAs (Decidable (_ ≤ _))

theorem SimilarPaths.symm {r : Similarity.Rounding} {rule : SynonymRule} {p q : String}
    (h : SimilarPaths r rule p q) : SimilarPaths r rule q p := by
  unfold SimilarPaths at h ⊢
  rwa [Similarity.score_comm]

/-- Files of the scope with similar names, where scores are rounded by `r`. -/
def synonymsIn (r : Similarity.Rounding) (rule : Typed SynonymRule) (scene : Scene) :
    List Violation :=
  ((orderedPairs (scene.filesOf rule.body.scope)).filter fun p =>
    SimilarPaths r rule.body p.1.path p.2.path).map fun p =>
      let score := Similarity.score r (comparedName rule.body p.1) (comparedName rule.body p.2)
      { rule.head.violation p.1.path (synonymFinding p.1 p.2 score) with
        dependency := some p.2.path }

/-- The reports are about the pairs of paths of the scope that are similar, each pair once. -/
theorem between_synonymsIn (r : Similarity.Rounding) (rule : Typed SynonymRule) (scene : Scene) :
    (synonymsIn r rule scene).map Violation.between? =
      ((orderedPairs (filePaths scene rule.body.scope)).filter fun p =>
        SimilarPaths r rule.body p.1 p.2).map fun p => some s(p.1, p.2) := by
  rw [synonymsIn, filePaths, orderedPairs_map, List.filter_map, List.map_map, List.map_map]
  rfl

theorem nodup_between_synonymsIn (r : Similarity.Rounding) (rule : Typed SynonymRule)
    (scene : Scene) : ((synonymsIn r rule scene).map Violation.between?).Nodup := by
  have unordered := nodup_unordered (nodup_filePaths scene rule.body.scope)
  have wrapped := unordered.map (Option.some_injective _)
  rw [List.map_map] at wrapped
  rw [between_synonymsIn]
  exact wrapped.sublist (List.filter_sublist.map _)

theorem mem_between_synonymsIn {r : Similarity.Rounding} {rule : Typed SynonymRule} {scene : Scene}
    {p q : String} :
    some s(p, q) ∈ (synonymsIn r rule scene).map Violation.between? ↔
      p ≠ q ∧ scene.Selects rule.body.scope p ∧ scene.Selects rule.body.scope q ∧
        SimilarPaths r rule.body p q := by
  rw [between_synonymsIn, ← mem_filePaths, ← mem_filePaths]
  constructor
  · intro h
    obtain ⟨⟨u, v⟩, hf, same⟩ := List.mem_map.mp h
    obtain ⟨hp, similar⟩ := List.mem_filter.mp hf
    obtain ⟨hu, hv⟩ := mem_of_mem_orderedPairs hp
    have apart : u ≠ v := pairwise_iff_orderedPairs.mp (nodup_filePaths _ _) _ hp
    have similar : SimilarPaths r rule.body u v := of_decide_eq_true similar
    rcases Sym2.eq_iff.mp (Option.some.inj same) with ⟨rfl, rfl⟩ | ⟨rfl, rfl⟩
    · exact ⟨apart, hu, hv, similar⟩
    · exact ⟨apart.symm, hv, hu, similar.symm⟩
  · rintro ⟨apart, hp, hq, similar⟩
    rcases mem_orderedPairs_or apart hp hq with h | h
    · exact List.mem_map.mpr ⟨(p, q), List.mem_filter.mpr ⟨h, decide_eq_true similar⟩, rfl⟩
    · exact List.mem_map.mpr ⟨(q, p), List.mem_filter.mpr ⟨h, decide_eq_true similar.symm⟩,
        congrArg some Sym2.eq_swap⟩

/-- A report stands at the file that was seen first and names the other. -/
theorem seenBefore_of_mem_synonymsIn {r : Similarity.Rounding} {rule : Typed SynonymRule}
    {scene : Scene} (hr : PerFile Symbol.role scene.symbols) {v : Violation}
    (hv : v ∈ synonymsIn r rule scene) :
    ∃ q, v.dependency = some q ∧ SeenBefore scene.symbols v.file q := by
  obtain ⟨⟨x, y⟩, hf, rfl⟩ := List.mem_map.mp hv
  have pair : (x.path, y.path) ∈ orderedPairs (filePaths scene rule.body.scope) := by
    rw [filePaths, orderedPairs_map]
    exact List.mem_map_of_mem (List.mem_of_mem_filter hf)
  exact ⟨y.path, rfl, pairwise_iff_orderedPairs.mp (pairwise_filePaths hr _) _ pair⟩

theorem between_synonymsIn_perm (r : Similarity.Rounding) (rule : Typed SynonymRule) {scene : Scene}
    {symbols : List Symbol} (h : scene.symbols.Perm symbols) :
    ((synonymsIn r rule scene).map Violation.between?).Perm
      ((synonymsIn r rule { scene with symbols }).map Violation.between?) := by
  have selects (path : String) : scene.Selects rule.body.scope path ↔
      Scene.Selects { scene with symbols } rule.body.scope path :=
    exists_congr fun s => and_congr_left' h.mem_iff
  refine (List.perm_ext_iff_of_nodup (nodup_between_synonymsIn r rule scene)
    (nodup_between_synonymsIn r rule _)).mpr fun pair => ?_
  match pair with
  | none => simp [between_synonymsIn]
  | some pair =>
    induction pair with
    | _ p q => rw [mem_between_synonymsIn, mem_between_synonymsIn, selects, selects]

/-! ### Rounded scores -/

theorem nearest_score (a b : List Char) :
    ∃ q, Similarity.score Similarity.binary64 a b = Binary64.nearest q := by
  unfold Similarity.score
  split_ifs
  · exact ⟨1, Binary64.toRat_one.symm⟩
  · exact ⟨0, Binary64.nearest_zero.symm⟩
  · exact ⟨_, rfl⟩
  · exact ⟨1, Binary64.toRat_one.symm⟩

theorem reaches_iff {threshold : Binary64} (h : threshold.isFinite = true) (a b : List Char) :
    reaches threshold (nameScore a b) = true ↔ threshold.toRat ≤ nameScore a b := by
  obtain ⟨q, hq⟩ := nearest_score a b
  obtain ⟨finite, fixed⟩ := Binary64.ofRat_nearest q
  have below := Binary64.lt_iff finite h
  rw [← Binary64.nearest, fixed] at below
  rw [reaches, nameScore, hq, Bool.not_eq_true', ← Bool.not_eq_true, below, not_lt]

/-- At a threshold of the format, the check compares scores that are rounded to the format. -/
theorem synonyms_eq {rule : Typed SynonymRule} (h : rule.body.threshold.isFinite = true)
    (scene : Scene) : synonyms rule scene = synonymsIn Similarity.binary64 rule scene := by
  rw [synonyms, synonymsIn, orderedPairs_map, List.filterMap_map, ← List.filterMap_eq_map,
    List.filterMap_filter]
  refine List.filterMap_congr fun p _ => ?_
  have test := reaches_iff h (comparedName rule.body p.1) (comparedName rule.body p.2)
  exact if_congr (test.trans decide_eq_true_iff.symm) rfl rfl

theorem similarPaths_of_mappedName_eq {r : Similarity.Rounding} {rule : SynonymRule}
    {p q : String} (h : rule.threshold.toRat ≤ 1) (same : mappedName rule p = mappedName rule q) :
    SimilarPaths r rule p q := by
  rw [SimilarPaths, same, Similarity.score_self]
  exact h

/-- Where one is the score of equal names alone, these alone reach a threshold of one. -/
theorem similarPaths_iff_of_threshold_eq_one {r : Similarity.Rounding} {rule : SynonymRule}
    (h : rule.threshold.toRat = 1) {p q : String}
    (one : Similarity.score r (mappedName rule p) (mappedName rule q) = 1 ↔
      mappedName rule p = mappedName rule q) :
    SimilarPaths r rule p q ↔ mappedName rule p = mappedName rule q := by
  rw [SimilarPaths, h, ← one]
  exact ⟨fun least => le_antisymm (Similarity.score_le_one _ _ _) least, Eq.ge⟩

end Check

open Check Violation in
/-- However scores are rounded, each unordered pair of files of the scope with similar names is
reported once, at the file seen first, in whatever order the symbols come; equal names are similar
at every threshold that loads, and no others are at the threshold one: without rounding, and as the
check runs, if they have no more than `2 ^ 48` characters. -/
theorem synonyms_report_each_similar_pair_once {draft : Draft.Grammar} {grammar : Grammar}
    {head : RuleHead} {body : SynonymRule} {scene : Scene} (loaded : draft.load = .ok grammar)
    (listed : ⟨head, .synonyms body⟩ ∈ grammar.rules)
    (role : PerFile Symbol.role scene.symbols) :
    synonyms ⟨head, body⟩ scene = synonymsIn Similarity.binary64 ⟨head, body⟩ scene ∧
    (∀ r : Similarity.Rounding,
      let reports := synonymsIn r ⟨head, body⟩ scene
      (reports.map between?).Nodup ∧
      (∀ v ∈ reports, ∃ q, v.dependency = some q ∧ SeenBefore scene.symbols v.file q) ∧
      (∀ p q, some s(p, q) ∈ reports.map between? ↔
        p ≠ q ∧ scene.Selects body.scope p ∧ scene.Selects body.scope q ∧
          body.threshold.toRat ≤ Similarity.score r (mappedName body p) (mappedName body q)) ∧
      (∀ symbols, scene.symbols.Perm symbols → (reports.map between?).Perm
        ((synonymsIn r ⟨head, body⟩ { scene with symbols }).map between?)) ∧
      ∀ p q, p ≠ q → scene.Selects body.scope p → scene.Selects body.scope q →
        mappedName body p = mappedName body q → some s(p, q) ∈ reports.map between?) ∧
    (body.threshold.toRat = 1 → ∀ p q,
      let namesakes := p ≠ q ∧ scene.Selects body.scope p ∧ scene.Selects body.scope q ∧
        mappedName body p = mappedName body q
      (some s(p, q) ∈ (synonymsIn Similarity.exact ⟨head, body⟩ scene).map between? ↔ namesakes) ∧
      ((mappedName body p).length ≤ 2 ^ 48 → (mappedName body q).length ≤ 2 ^ 48 →
        (some s(p, q) ∈ (synonyms ⟨head, body⟩ scene).map between? ↔ namesakes))) := by
  have share : Draft.isShare body.threshold = true := Draft.sound_of_mem loaded listed
  obtain ⟨finite, -, most⟩ := Draft.isShare_iff.mp share
  refine ⟨synonyms_eq finite scene, fun r => ⟨?_, ?_, ?_, ?_, ?_⟩, fun one p q => ⟨?_, ?_⟩⟩
  · exact nodup_between_synonymsIn r ⟨head, body⟩ scene
  · exact fun v hv => seenBefore_of_mem_synonymsIn role hv
  · exact fun p q => mem_between_synonymsIn
  · exact fun symbols h => between_synonymsIn_perm r ⟨head, body⟩ h
  · intro p q apart hp hq same
    exact mem_between_synonymsIn.mpr ⟨apart, hp, hq, similarPaths_of_mappedName_eq most same⟩
  · rw [mem_between_synonymsIn, similarPaths_iff_of_threshold_eq_one one Similarity.score_eq_one]
  · intro hp hq
    rw [synonyms_eq finite, mem_between_synonymsIn,
      similarPaths_iff_of_threshold_eq_one one (Similarity.score_binary64_eq_one hp hq)]

open Check Violation in
/-- Two files of one name, the first with two symbols. -/
theorem files_of_one_name_are_reported_as_a_pair :
    let like : Draft.Rule := {
      name := "like"
      kind := "find_synonyms"
      scope := some { role := some (.one "ALL") }
      options := some { threshold := some .one, thesaurus := [["user", "customer"]] } }
    let draft : Draft.Grammar := { rules := [like] }
    let rule : Typed SynonymRule := ⟨⟨"like", .error, none⟩, ⟨.all, .one, [["user", "customer"]]⟩⟩
    let symbols : List Symbol := [⟨"a/user.ts", "User", "A", [], .classDecl⟩,
      ⟨"a/user.ts", "users", "A", [], .constDecl⟩, ⟨"b/user.ts", "User", "B", [], .typeDecl⟩]
    let scene : Scene := ⟨symbols, ⟨fun _ => .error .notFound, fun _ => false⟩, []⟩
    draft.load = .ok ⟨"1.0", "typescript", [], [⟨rule.head, .synonyms rule.body⟩]⟩ ∧
    PerFile Symbol.role scene.symbols ∧ rule.body.threshold.toRat = 1 ∧
    some s("b/user.ts", "a/user.ts") ∈ (synonyms rule scene).map between? ∧
    some s("a/user.ts", "a/user.ts") ∉ (synonyms rule scene).map between? ∧
    some s("a/user.ts", "b/user.ts") ∈ (synonymsIn Similarity.exact rule scene).map between? := by
  intro like draft rule symbols scene
  have share : Draft.isShare .one = true := Draft.isShare_iff.mpr
    ⟨Binary64.isFinite_one, by rw [Binary64.toRat_one]; exact zero_le_one, Binary64.toRat_one.le⟩
  have range (place field expected : String) :
      Draft.Rule.checkRange place .one field (Draft.isShare .one) expected = .ok () := by
    rw [share]
    rfl
  have body : Draft.Rule.loadSynonyms (Draft.Rule.placeOf 0 like) like = .ok rule.body := by
    rw [Draft.Rule.loadSynonyms]
    simp only [like, Option.getD_some, range]
    rfl
  have kind : Draft.Rule.loadKind (Draft.Rule.placeOf 0 like) like =
      .ok (some (.synonyms rule.body)) := by
    change (some ∘ RuleKind.synonyms) <$> Draft.Rule.loadSynonyms _ like = _
    rw [body]
    rfl
  have loaded : draft.load =
      .ok ⟨"1.0", "typescript", [], [⟨rule.head, .synonyms rule.body⟩]⟩ := by
    simp only [draft, Draft.Grammar.load, Draft.loadRules, Draft.loadRoles, Draft.Rule.load, kind]
    rfl
  have role : PerFile Symbol.role scene.symbols := by
    simp [Determined, scene, symbols]
  obtain ⟨asRun, each, atOne⟩ :=
    synonyms_report_each_similar_pair_once loaded List.mem_cons_self role
  obtain ⟨-, -, reported, -, equal⟩ := each Similarity.binary64
  have first : scene.Selects rule.body.scope "a/user.ts" := ⟨symbols[0], by decide, rfl, rfl⟩
  have second : scene.Selects rule.body.scope "b/user.ts" := ⟨symbols[2], by decide, rfl, rfl⟩
  have names : mappedName rule.body "a/user.ts" = mappedName rule.body "b/user.ts" := by
    have file : Path.fileName "a/user.ts" = Path.fileName "b/user.ts" := by decide
    rw [mappedName, mappedName, file]
  have apart : "a/user.ts" ≠ "b/user.ts" := by decide
  refine ⟨loaded, role, Binary64.toRat_one, ?_, ?_, ?_⟩
  · rw [asRun]
    exact equal _ _ apart.symm second first names.symm
  · rw [asRun]
    exact fun h => ((reported _ _).mp h).1 rfl
  · exact (atOne Binary64.toRat_one _ _).1.mpr ⟨apart, first, second, names⟩

end ArchLint
