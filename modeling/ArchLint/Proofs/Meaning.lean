import ArchLint.Check.Run
import Mathlib.Data.List.Basic

/-!
What a run means. `Bucket` names the buckets of a rule set, `Rule.typedIn?` says which rules of a
grammar go into which of them and as what, and `meaning` concatenates in one fixed order what each
check reports for the rules of its bucket, taken in the order of the grammar. `run_meaning` says
that sorting the rules and running the families that have some comes to the same.
-/

namespace ArchLint

/-- The buckets of a rule set. -/
inductive Bucket where
  | naming
  | forbidden
  | required
  | allowed
  | circular
  | synonyms
  | unreferenced
  | fileSize
  | testCoverage
  | documentation
  | complexity
  | granularity
  | keywords
  | content
  | barrel
  | layout
  | testRatio
  deriving DecidableEq, Repr

namespace Bucket

/-- What a rule of the bucket demands. -/
@[reducible]
def Body : Bucket → Type
  | naming => NamingRule
  | forbidden => EdgeRule
  | required => EdgeRule
  | allowed => EdgeRule
  | circular => RoleSelector
  | synonyms => SynonymRule
  | unreferenced => UnreferencedRule
  | fileSize => FileSizeRule
  | testCoverage => TestCoverageRule
  | documentation => DocumentationRule
  | complexity => ComplexityRule
  | granularity => GranularityRule
  | keywords => KeywordRule
  | content => ContentRule
  | barrel => BarrelRule
  | layout => StructureRule
  | testRatio => TestRatioRule

/-- The word for the kind of the rules in the bucket. -/
def word : Bucket → String
  | naming => "naming_pattern"
  | forbidden => "forbidden"
  | required => "required"
  | allowed => "allowed"
  | circular => "forbidden"
  | synonyms => "find_synonyms"
  | unreferenced => "detect_unreferenced"
  | fileSize => "file_size"
  | testCoverage => "test_coverage"
  | documentation => "documentation_required"
  | complexity => "class_complexity"
  | granularity => "granularity_metric"
  | keywords => "forbidden_keywords"
  | content => "forbidden_patterns"
  | barrel => "barrel_purity"
  | layout => "required_structure"
  | testRatio => "minimum_test_ratio"

/-- The buckets that are reported on, in the order of the reports. Allowed dependencies are not. -/
def reported : List Bucket :=
  [naming, forbidden, required, circular, synonyms, unreferenced, fileSize, testCoverage,
    documentation, complexity, granularity, keywords, content, barrel, layout, testRatio]

/-- What the check of the bucket reports for one rule. -/
def checkRule : (b : Bucket) → Typed b.Body → Scene → List Violation
  | naming, r, scene => Check.naming r scene
  | forbidden, r, scene => Check.forbidden [r] (FileGraph.ofSymbols scene.symbols)
  | required, r, scene => Check.required r (FileGraph.ofSymbols scene.symbols)
  | allowed, _, _ => []
  | circular, r, scene => Check.circular r (FileGraph.ofSymbols scene.symbols)
  | synonyms, r, scene => Check.synonyms r scene
  | unreferenced, r, scene => Check.unreferenced r scene
  | fileSize, r, scene => Check.fileSize r scene
  | testCoverage, r, scene => Check.testCoverage r scene
  | documentation, r, scene => Check.documentation r scene
  | complexity, r, scene => Check.complexity r scene
  | granularity, r, scene => Check.granularity r scene
  | keywords, r, scene => Check.keywords r scene
  | content, r, scene => Check.content r scene
  | barrel, r, scene => Check.barrel r scene
  | layout, r, scene => Check.layout r scene
  | testRatio, r, scene => Check.testRatio r scene

/-- What the check of the bucket reports for rules. Only the forbidden dependencies are checked
against all rules at once; everywhere else each rule is checked by itself. -/
def check : (b : Bucket) → List (Typed b.Body) → Scene → List Violation
  | forbidden, rules, scene => Check.forbidden rules (FileGraph.ofSymbols scene.symbols)
  | b, rules, scene => rules.flatMap fun r => b.checkRule r scene

theorem check_eq_flatMap {b : Bucket} (h : b ≠ forbidden) (rules : List (Typed b.Body))
    (scene : Scene) : b.check rules scene = rules.flatMap fun r => b.checkRule r scene := by
  cases b with
  | forbidden => exact absurd rfl h
  | _ => rfl

theorem check_nil (b : Bucket) (scene : Scene) : b.check [] scene = [] := by
  rcases eq_or_ne b forbidden with rfl | h
  · simp [check, Check.forbidden]
  · rw [check_eq_flatMap h, List.flatMap_nil]

end Bucket

/-- The rules in a bucket. -/
def RuleSet.bucket (s : RuleSet) : (b : Bucket) → List (Typed b.Body)
  | .naming => s.naming
  | .forbidden => s.forbidden
  | .required => s.required
  | .allowed => s.allowed
  | .circular => s.circular
  | .synonyms => s.synonyms
  | .unreferenced => s.unreferenced
  | .fileSize => s.fileSize
  | .testCoverage => s.testCoverage
  | .documentation => s.documentation
  | .complexity => s.complexity
  | .granularity => s.granularity
  | .keywords => s.keywords
  | .content => s.content
  | .barrel => s.barrel
  | .layout => s.layout
  | .testRatio => s.testRatio

/-- What a rule of a kind demands in a bucket, if it goes there. -/
def RuleKind.bodyIn? : RuleKind → (b : Bucket) → Option b.Body
  | .naming body, .naming => some body
  | .forbidden ⟨source, .roles target⟩, .forbidden => some (⟨source, target⟩ : EdgeRule)
  | .forbidden ⟨source, .cycle⟩, .circular => some source
  | .required body, .required => some body
  | .allowed body, .allowed => some body
  | .synonyms body, .synonyms => some body
  | .unreferenced body, .unreferenced => some body
  | .fileSize body, .fileSize => some body
  | .testCoverage body, .testCoverage => some body
  | .documentation body, .documentation => some body
  | .complexity body, .complexity => some body
  | .granularity body, .granularity => some body
  | .keywords body, .keywords => some body
  | .content body, .content => some body
  | .barrel body, .barrel => some body
  | .layout body, .layout => some body
  | .testRatio body, .testRatio => some body
  | _, _ => none

/-- The kind of the rules that go into a bucket with a demand. -/
def Bucket.kindOf : (b : Bucket) → b.Body → RuleKind
  | .naming, body => .naming body
  | .forbidden, body => .forbidden ⟨body.source, .roles body.target⟩
  | .required, body => .required body
  | .allowed, body => .allowed body
  | .circular, source => .forbidden ⟨source, .cycle⟩
  | .synonyms, body => .synonyms body
  | .unreferenced, body => .unreferenced body
  | .fileSize, body => .fileSize body
  | .testCoverage, body => .testCoverage body
  | .documentation, body => .documentation body
  | .complexity, body => .complexity body
  | .granularity, body => .granularity body
  | .keywords, body => .keywords body
  | .content, body => .content body
  | .barrel, body => .barrel body
  | .layout, body => .layout body
  | .testRatio, body => .testRatio body

/-- A rule as one of a bucket, if it goes there. -/
def Rule.typedIn? (r : Rule) (b : Bucket) : Option (Typed b.Body) :=
  (r.kind.bodyIn? b).map (Typed.mk r.head)

/-- The rules that go into a bucket, in order. -/
def rulesIn (b : Bucket) (rules : List Rule) : List (Typed b.Body) :=
  rules.filterMap fun r => r.typedIn? b

/-- What every check reports for the rules of its bucket, one check after the other. -/
def meaning (rules : List Rule) (scene : Scene) : List Violation :=
  Bucket.reported.flatMap fun b => b.check (rulesIn b rules) scene

/-! ### Sorting rules -/

theorem bucket_push (s : RuleSet) (r : Rule) (b : Bucket) :
    (s.push r).bucket b = s.bucket b ++ (r.typedIn? b).toList := by
  obtain ⟨head, kind⟩ := r
  unfold RuleSet.push
  split <;> rename_i hk <;> subst hk <;> cases b <;>
    simp [RuleSet.bucket, Rule.typedIn?, RuleKind.bodyIn?]

theorem bucket_foldl_push (b : Bucket) : ∀ (rules : List Rule) (s : RuleSet),
    (rules.foldl RuleSet.push s).bucket b = s.bucket b ++ rulesIn b rules
  | [], s => by simp [rulesIn]
  | r :: rules, s => by
    rw [List.foldl_cons, bucket_foldl_push b rules, bucket_push, List.append_assoc]
    cases h : r.typedIn? b with
    | none => simp [rulesIn, h]
    | some t => simp [rulesIn, h]

/-- Each bucket holds the rules that go there, in the order of the grammar. -/
theorem bucket_ofRules (rules : List Rule) (b : Bucket) :
    (RuleSet.ofRules rules).bucket b = rulesIn b rules := by
  rw [RuleSet.ofRules, bucket_foldl_push]
  cases b <;> rfl

theorem rulesIn_append (b : Bucket) (rules rules' : List Rule) :
    rulesIn b (rules ++ rules') = rulesIn b rules ++ rulesIn b rules' :=
  List.filterMap_append

theorem rulesIn_singleton (b : Bucket) (r : Rule) : rulesIn b [r] = (r.typedIn? b).toList := by
  cases h : r.typedIn? b <;> simp [rulesIn, h]

/-- A rule in a bucket keeps its head. -/
theorem exists_head_of_mem_rulesIn {b : Bucket} {rules : List Rule} {t : Typed b.Body}
    (ht : t ∈ rulesIn b rules) : ∃ r ∈ rules, r.head = t.head := by
  obtain ⟨r, hr, ht⟩ := List.mem_filterMap.mp ht
  obtain ⟨body, -, rfl⟩ := Option.map_eq_some_iff.mp ht
  exact ⟨r, hr, rfl⟩

theorem kind_eq_kindOf {k : RuleKind} {b : Bucket} {body : b.Body}
    (h : k.bodyIn? b = some body) : k = b.kindOf body := by
  unfold RuleKind.bodyIn? at h
  split at h <;> cases h <;> rfl

theorem bodyIn?_kindOf (b : Bucket) (body : b.Body) : (b.kindOf body).bodyIn? b = some body := by
  cases b <;> rfl

/-- A rule of another kind does not go into the bucket. -/
theorem typedIn?_eq_none {r : Rule} {b : Bucket} (h : ∀ body, r.kind ≠ b.kindOf body) :
    r.typedIn? b = none := by
  rw [Rule.typedIn?, Option.map_eq_none_iff, Option.eq_none_iff_forall_ne_some]
  exact fun body hb => h body (kind_eq_kindOf hb)

theorem rulesIn_eq_nil {b : Bucket} {rules : List Rule}
    (h : ∀ r ∈ rules, ∀ body, r.kind ≠ b.kindOf body) : rulesIn b rules = [] :=
  List.filterMap_eq_nil_iff.mpr fun r hr => typedIn?_eq_none (h r hr)

/-! ### Families without rules -/

theorem check_eq_nil_of_not_isActive {rules : RuleSet} {f : Family}
    (h : f.isActive rules = false) (scene : Scene) : f.check rules scene = [] := by
  cases f with
  | naming => simp_all [Family.isActive, RuleSet.hasNaming, Family.check]
  | dependency =>
    simp_all [Family.isActive, RuleSet.hasDependency, Family.check, Check.forbidden]
  | hygiene => simp_all [Family.isActive, RuleSet.hasHygiene, Family.check]
  | fileMetrics => simp_all [Family.isActive, RuleSet.hasFileMetrics, Family.check]
  | codePattern => simp_all [Family.isActive, RuleSet.hasCodePattern, Family.check]
  | layout => simp_all [Family.isActive, RuleSet.hasStructure, Family.check]

/-- Leaving out the families without rules loses nothing. -/
theorem run_eq_all (rules : RuleSet) (scene : Scene) :
    rules.run scene = Family.all.flatMap (Family.check rules scene) := by
  unfold RuleSet.run RuleSet.families
  induction Family.all with
  | nil => rfl
  | cons f fs ih =>
    rw [List.flatMap_cons, ← ih]
    cases h : f.isActive rules with
    | true => rw [List.filter_cons_of_pos h, List.flatMap_cons]
    | false =>
      rw [List.filter_cons_of_neg (by simp [h]), check_eq_nil_of_not_isActive h, List.nil_append]

theorem run_ofRules (rules : List Rule) (scene : Scene) :
    (RuleSet.ofRules rules).run scene = meaning rules scene := by
  rw [run_eq_all, meaning]
  simp only [← bucket_ofRules, Family.all, Bucket.reported, List.flatMap_cons, List.flatMap_nil,
    List.append_nil, List.append_assoc, Family.check, Bucket.check, Bucket.checkRule,
    RuleSet.bucket]

/-! ### Rules of other kinds -/

theorem word_kindOf {b : Bucket} (body : b.Body) : (b.kindOf body).word = b.word := by
  cases b <;> rfl

theorem typedIn?_eq_none_of_word_ne {r : Rule} {b : Bucket} (h : r.kind.word ≠ b.word) :
    r.typedIn? b = none :=
  typedIn?_eq_none fun body hk => h (by rw [hk, word_kindOf])

theorem rulesIn_filter_word (b : Bucket) (rules : List Rule) :
    rulesIn b (rules.filter fun r => r.kind.word = b.word) = rulesIn b rules := by
  induction rules with
  | nil => rfl
  | cons r rules ih =>
    by_cases h : r.kind.word = b.word
    · rw [List.filter_cons_of_pos (by simpa using h)]
      simp only [rulesIn, List.filterMap_cons] at ih ⊢
      rw [ih]
    · rw [List.filter_cons_of_neg (by simpa using h), ih]
      simp only [rulesIn, List.filterMap_cons, typedIn?_eq_none_of_word_ne h]

theorem word_ne_allowed {b : Bucket} (h : b ∈ Bucket.reported) : b.word ≠ "allowed" := by
  cases b <;> simp_all [Bucket.reported, Bucket.word]

/-- Runs differ only through what is in the buckets. -/
theorem run_congr {rules rules' : List Rule}
    (h : ∀ b ∈ Bucket.reported, rulesIn b rules = rulesIn b rules') (scene : Scene) :
    (RuleSet.ofRules rules).run scene = (RuleSet.ofRules rules').run scene := by
  rw [run_ofRules, run_ofRules]
  exact List.flatMap_congr fun b hb => by rw [h b hb]

/-- A run reports what the checks report one by one, whatever families have no rules; allowed
dependencies change nothing, and only the order among rules of one bucket or one kind matters. -/
theorem run_meaning :
    (∀ (rules : List Rule) (scene : Scene), (RuleSet.ofRules rules).run scene =
      Bucket.reported.flatMap fun b => b.check (rulesIn b rules) scene) ∧
    (∀ (set : RuleSet) (scene : Scene), set.run scene =
      Family.all.flatMap fun f => f.check set scene) ∧
    (∀ (before after : List Rule) (head : RuleHead) (body : EdgeRule) (scene : Scene),
      (RuleSet.ofRules (before ++ ⟨head, .allowed body⟩ :: after)).run scene =
        (RuleSet.ofRules (before ++ after)).run scene) ∧
    (∀ rules rules' : List Rule,
      (∀ b ∈ Bucket.reported, rulesIn b rules = rulesIn b rules') →
      ∀ scene, (RuleSet.ofRules rules).run scene = (RuleSet.ofRules rules').run scene) ∧
    ∀ rules rules' : List Rule,
      (∀ word ≠ "allowed", rules.filter (fun r => r.kind.word = word) =
        rules'.filter fun r => r.kind.word = word) →
      ∀ scene, (RuleSet.ofRules rules).run scene = (RuleSet.ofRules rules').run scene := by
  have sameKinds : ∀ rules rules' : List Rule,
      (∀ word ≠ "allowed", rules.filter (fun r => r.kind.word = word) =
        rules'.filter fun r => r.kind.word = word) →
      ∀ scene, (RuleSet.ofRules rules).run scene = (RuleSet.ofRules rules').run scene := by
    intro rules rules' h scene
    refine run_congr (fun b hb => ?_) scene
    rw [← rulesIn_filter_word, h _ (word_ne_allowed hb), rulesIn_filter_word]
  refine ⟨run_ofRules, run_eq_all, fun before after head body scene => ?_,
    fun _ _ => run_congr, sameKinds⟩
  refine sameKinds _ _ (fun word hw => ?_) scene
  have skipped : ¬ (RuleKind.allowed body).word = word := fun h => hw h.symm
  simp [skipped]

/-- A size rule and two edge rules in another order, one time with an allowed dependency between. -/
theorem run_of_reordered_rules :
    let small : Rule := ⟨⟨"small", .warning, none⟩, .fileSize ⟨.all, 1⟩⟩
    let layers : Rule := ⟨⟨"layers", .error, none⟩, .forbidden ⟨.one "A", .roles (.one "B")⟩⟩
    let acyclic : Rule := ⟨⟨"acyclic", .error, none⟩, .forbidden ⟨.all, .cycle⟩⟩
    let fine : Rule := ⟨⟨"fine", .error, none⟩, .allowed ⟨.one "A", .one "B"⟩⟩
    let scene : Scene :=
      { symbols := [⟨"a.ts", "a", "A", ["b.ts"], .wholeFile⟩, ⟨"b.ts", "b", "B", [], .wholeFile⟩]
        files := ⟨fun _ => .ok "first\nsecond", fun _ => true⟩ }
    (∀ b ∈ Bucket.reported,
      rulesIn b [acyclic, layers, small] = rulesIn b [layers, acyclic, small]) ∧
    (∀ word ≠ "allowed", [small, fine, layers].filter (fun r => r.kind.word = word) =
      [layers, small].filter fun r => r.kind.word = word) ∧
    (RuleSet.ofRules [acyclic, layers, small]).run scene =
      (RuleSet.ofRules [layers, acyclic, small]).run scene ∧
    (RuleSet.ofRules [small, fine, layers]).run scene =
      (RuleSet.ofRules [layers, small]).run scene ∧
    ((RuleSet.ofRules [small, fine, layers]).run scene).map Violation.ruleName =
      ["layers", "small", "small"] := by
  intro small layers acyclic fine scene
  have sameBuckets : ∀ b ∈ Bucket.reported,
      rulesIn b [acyclic, layers, small] = rulesIn b [layers, acyclic, small] := by
    intro b _
    cases b <;> rfl
  have sameKinds : ∀ word ≠ "allowed", [small, fine, layers].filter (fun r => r.kind.word = word) =
      [layers, small].filter fun r => r.kind.word = word := by
    intro word hw
    by_cases h : "forbidden" = word
    · subst h; rfl
    · have skipped : ¬ "allowed" = word := fun h => hw h.symm
      simp [small, fine, layers, List.filter_cons, RuleKind.word, h, skipped]
  obtain ⟨-, -, -, ofBuckets, ofKinds⟩ := run_meaning
  exact ⟨sameBuckets, sameKinds, ofBuckets _ _ sameBuckets scene, ofKinds _ _ sameKinds scene,
    by decide⟩

end ArchLint
