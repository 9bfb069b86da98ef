import ArchLint.Proofs.LocalLoading
import ArchLint.Proofs.Regrading

/-!
What a grammar that loads can be relied on for, in terms of what its parts mean. Its roles have names
and patterns, its shares and sizes are numbers in their ranges, and the word for all roles never
stands as a role of its own in a selector (`RuleKind.selectors`): what selectors there are, the
document's were resolved to (`selectors_subset_of_loadKind`). So no check of such a grammar gives up
on a rule (`RuleSet.GivesUpOnNone`), whatever weights a configuration gives to the rules or which of
them it switches off.
-/

namespace ArchLint

/-! ### Parts of a grammar -/

namespace Binary64

/-- A number between zero and one, both included. -/
def IsShare (x : Binary64) : Prop := x.isFinite = true ∧ 0 ≤ x.toRat ∧ x.toRat ≤ 1

/-- A number above zero, or infinity. -/
def IsPositive (x : Binary64) : Prop := x = infinite false ∨ x.isFinite = true ∧ 0 < x.toRat

end Binary64

namespace RuleKind

/-- The roles that a rule speaks of. -/
def selectors : RuleKind → List RoleSelector
  | naming body => [body.scope]
  | forbidden ⟨source, .roles target⟩ => [source, target]
  | forbidden ⟨source, .cycle⟩ => [source]
  | required body | allowed body => [body.source, body.target]
  | synonyms body => [body.scope]
  | unreferenced body => [body.scope]
  | fileSize body => [body.scope]
  | testCoverage body => [body.scope]
  | keywords body => [body.scope]
  | documentation body => [body.scope]
  | complexity body => [body.scope]
  | granularity body => [body.scope]
  | content body => [body.scope]
  | layout _ | testRatio _ | barrel _ => []

/-- The pattern without which a rule checks nothing. -/
def keyPattern? : RuleKind → Option String
  | naming body => some body.pattern
  | barrel body => some body.filePattern
  | _ => none

/-- The share that a rule compares with. -/
def share? : RuleKind → Option Binary64
  | synonyms body => some body.threshold
  | testRatio body => some body.ratio
  | _ => none

/-- The sizes that a rule multiplies. -/
def sizes : RuleKind → List Binary64
  | granularity body => [body.target, body.tolerance]
  | _ => []

/-- Patterns are patterns, numbers lie in their ranges, and the word for all roles is never taken for
one of them. -/
structure IsWellFormed (k : RuleKind) : Prop where
  selectors : ∀ s ∈ k.selectors, s ≠ .one RoleSelector.allWord
  keyPattern : ∀ source ∈ k.keyPattern?, (Pattern.ofText? source).isSome
  share : ∀ x ∈ k.share?, x.IsShare
  sizes : ∀ x ∈ k.sizes, x.IsPositive

end RuleKind

/-- The role has a name, and its pattern is that of its notation. -/
structure RoleDefinition.IsWellFormed (r : RoleDefinition) : Prop where
  name : r.name ≠ ""
  pattern : Pattern.ofText? r.pattern.source = some r.pattern

structure Grammar.IsWellFormed (g : Grammar) : Prop where
  roles : ∀ r ∈ g.roles, r.IsWellFormed
  rules : ∀ r ∈ g.rules, r.kind.IsWellFormed

/-- Every rule that rests on a pattern has one and is checked with it: a naming rule reports the
symbols of its scope that do not match, a barrel rule the files of its pattern whose text matches one
of the others. -/
structure RuleSet.GivesUpOnNone (s : RuleSet) : Prop where
  naming : ∀ r ∈ s.naming, ∃ pattern, Pattern.ofText? r.body.pattern = some pattern ∧
    ∀ (scene : Scene), ∀ x ∈ scene.symbols, r.body.scope.selects x.role = true →
      pattern.isMatch x.path = false → ∃ v ∈ Check.naming r scene, v.file = x.path
  barrel : ∀ r ∈ s.barrel, ∃ files, Pattern.ofText? r.body.filePattern = some files ∧
    ∀ (scene : Scene), ∀ x ∈ Check.filesMatching scene files, ∀ text ∈ scene.text? x.path,
      ∀ p ∈ validPatterns r.body.patterns, p.isMatch text = true →
        ∃ v ∈ Check.barrel r scene, v.file = x.path

theorem Pattern.ofText?_source (p : Pattern) : ofText? p.source = some p := by
  obtain ⟨source, program, compiled⟩ := p
  unfold ofText?
  split <;> rename_i h
  · obtain rfl := Option.some.inj (h.symm.trans compiled)
    rfl
  · cases h.symm.trans compiled

namespace Draft

theorem isPositive_iff {x : Binary64} : isPositive x = true ↔ x.IsPositive := by
  match x with
  | .nan => simp [isPositive, Binary64.lt, Binary64.zero, Binary64.IsPositive, Binary64.isFinite]
  | .infinite s => simp [isPositive, Binary64.lt, Binary64.zero, Binary64.IsPositive, Binary64.isFinite]
  | .finite s m e =>
    have finite : (Binary64.finite s m e).isFinite = true := rfl
    rw [isPositive, Binary64.lt_iff rfl finite, Binary64.toRat_zero]
    simp [Binary64.IsPositive, finite]

/-! ### Roles of rules -/

theorem Selector.resolve_ne_one_all (d : Selector) : d.resolve ≠ .one RoleSelector.allWord := by
  cases d with
  | many roles => exact nofun
  | one role =>
    rw [resolve, RoleSelector.ofRole]
    split
    · exact nofun
    · rename_i other
      exact fun same => other (RoleSelector.one.inj same)

namespace Rule

variable {place : String} {d : Rule}

/-- The roles that a draft speaks of. -/
def selectors (d : Rule) : List RoleSelector :=
  ((d.scope.bind Scope.role).toList ++ d.source.toList ++ (d.target.bind Target.role).toList).map
    Selector.resolve

theorem ne_one_all_of_mem_selectors {s : RoleSelector} (h : s ∈ d.selectors) :
    s ≠ .one RoleSelector.allWord := by
  obtain ⟨selector, -, rfl⟩ := List.mem_map.mp h
  exact selector.resolve_ne_one_all

theorem require_eq_ok {α : Type} {value : Option α} {field : String} {a : α} :
    require place d value field = .ok a ↔ value = some a := by
  cases value <;> simp [require]

theorem mem_selectors_of_scopeRole {s : RoleSelector} (h : scopeRole place d = .ok s) :
    s ∈ d.selectors := by
  obtain ⟨selector, given, rfl⟩ := Option.map_eq_some_iff.mp (require_eq_ok.mp h)
  simp [selectors, given]

theorem mem_selectors_of_sourceRole {s : RoleSelector} (h : sourceRole place d = .ok s) :
    s ∈ d.selectors := by
  obtain ⟨selector, given, rfl⟩ := Option.map_eq_some_iff.mp (require_eq_ok.mp h)
  simp [selectors, given]

theorem mem_selectors_of_targetRole {s : RoleSelector} (h : targetRole place d = .ok s) :
    s ∈ d.selectors := by
  obtain ⟨selector, given, rfl⟩ := Option.map_eq_some_iff.mp (require_eq_ok.mp h)
  simp [selectors, given]

theorem selectors_subset_of_loadForbidden {body : ForbiddenRule}
    (h : loadForbidden place d = .ok body) : (RuleKind.forbidden body).selectors ⊆ d.selectors := by
  obtain ⟨fields, -, h⟩ := bind_eq_ok.mp h
  split at h
  · simp only [bind_eq_ok, pure_eq_ok] at h
    obtain ⟨target, rfl, source, hsource, rfl⟩ := h
    exact List.cons_subset.mpr ⟨mem_selectors_of_sourceRole hsource, List.nil_subset _⟩
  · simp only [bind_eq_ok, map_eq_ok, pure_eq_ok] at h
    obtain ⟨target, ⟨role, hrole, rfl⟩, source, hsource, rfl⟩ := h
    exact List.cons_subset.mpr ⟨mem_selectors_of_sourceRole hsource, List.cons_subset.mpr
      ⟨mem_selectors_of_targetRole hrole, List.nil_subset _⟩⟩

theorem selectors_subset_of_loadEdge {body : EdgeRule} (h : loadEdge place d = .ok body) :
    [body.source, body.target] ⊆ d.selectors := by
  simp only [loadEdge, bind_eq_ok, pure_eq_ok] at h
  obtain ⟨source, hsource, target, htarget, rfl⟩ := h
  exact List.cons_subset.mpr ⟨mem_selectors_of_sourceRole hsource, List.cons_subset.mpr
    ⟨mem_selectors_of_targetRole htarget, List.nil_subset _⟩⟩

/-- A rule speaks of no other roles than its draft. -/
theorem selectors_subset_of_loadKind {kind : RuleKind}
    (h : loadKind place d = .ok (some kind)) : kind.selectors ⊆ d.selectors := by
  unfold loadKind at h
  -- one case for each word, and one for all others
  split at h
  case h_17 => exact nomatch h
  all_goals
    obtain ⟨body, loaded, same⟩ := map_eq_ok.mp h
    obtain rfl := Option.some.inj same
  case h_2 => exact selectors_subset_of_loadForbidden loaded
  case h_3 => exact selectors_subset_of_loadEdge loaded
  case h_4 => exact selectors_subset_of_loadEdge loaded
  case h_8 =>
    exact List.cons_subset.mpr ⟨mem_selectors_of_sourceRole loaded, List.nil_subset _⟩
  case h_10 => exact List.nil_subset _
  case h_13 => exact List.nil_subset _
  case h_16 => exact List.nil_subset _
  -- the others have one selector each, read at different places among their fields
  all_goals
    simp only [loadNaming, loadSynonyms, loadUnreferenced, loadFileSize, loadKeywords,
      loadDocumentation, loadComplexity, loadGranularity, loadContent, bind_eq_ok,
      pure_eq_ok] at loaded
    refine List.cons_subset.mpr ⟨?_, List.nil_subset _⟩
    grind [mem_selectors_of_scopeRole, mem_selectors_of_sourceRole]

end Rule

/-! ### Grammars that load -/

theorem isWellFormed_of_sound {k : RuleKind} (sound : k.Sound)
    (roles : ∀ s ∈ k.selectors, s ≠ .one RoleSelector.allWord) : k.IsWellFormed where
  selectors := roles
  keyPattern := by
    cases k with
    | naming | barrel =>
      rintro source ⟨⟩
      exact (Pattern.isValid_iff_ofText? _).mp sound
    | _ => exact nofun
  share := by
    cases k with
    | synonyms | testRatio =>
      rintro x ⟨⟩
      exact isShare_iff.mp sound
    | _ => exact nofun
  sizes := by
    cases k with
    | granularity =>
      obtain ⟨target, tolerance⟩ := sound
      exact List.forall_mem_cons.mpr ⟨isPositive_iff.mp target,
        List.forall_mem_singleton.mpr (isPositive_iff.mp tolerance)⟩
    | _ => exact nofun

theorem Rule.isWellFormed_of_load {index : Nat} {d : Rule} {r : ArchLint.Rule}
    (h : d.load index = .ok (some r)) : r.kind.IsWellFormed := by
  obtain ⟨-, -, -, kind⟩ := parts_of_load h
  exact isWellFormed_of_sound (sound_of_loadKind kind) fun s hs =>
    ne_one_all_of_mem_selectors (selectors_subset_of_loadKind kind hs)

theorem Role.isWellFormed_of_load {index : Nat} {d : Role} {r : RoleDefinition}
    (h : d.load index = .ok r) : r.IsWellFormed := by
  refine ⟨?_, r.pattern.ofText?_source⟩
  unfold load RoleDefinition.define at h
  split at h
  · rename_i role defined
    obtain rfl := Except.ok.inj h
    split at defined
    · exact nomatch defined
    · rename_i named
      split at defined
      · obtain rfl := Except.ok.inj defined
        exact named
      · exact nomatch defined
  · exact nomatch h

theorem isWellFormed_of_load {d : Draft.Grammar} {g : ArchLint.Grammar} (h : d.load = .ok g) :
    g.IsWellFormed where
  roles := by
    intro r hr
    obtain ⟨i, hi, rfl⟩ := List.getElem_of_mem hr
    obtain ⟨same, becomes⟩ := List.forall₂_iff_get.mp (Grammar.load_eq_ok_iff.mp h).roles
    exact Role.isWellFormed_of_load ((becomes i (same.symm ▸ hi) hi).loads 0)
  rules := by
    intro r hr
    obtain ⟨i, q, -, loaded⟩ := exists_load_of_mem h hr
    exact Rule.isWellFormed_of_load loaded

end Draft

/-! ### Checks that are carried out -/

theorem exists_kind_of_mem_bucket {rules : List Rule} {b : Bucket} {t : Typed b.Body}
    (ht : t ∈ (RuleSet.ofRules rules).bucket b) : ∃ r ∈ rules, r.kind = b.kindOf t.body := by
  rw [bucket_ofRules] at ht
  obtain ⟨r, hr, ht⟩ := List.mem_filterMap.mp ht
  obtain ⟨body, hb, rfl⟩ := Option.map_eq_some_iff.mp ht
  exact ⟨r, hr, kind_eq_kindOf hb⟩

theorem exists_mem_naming {r : Typed NamingRule} {pattern : Pattern}
    (hp : Pattern.ofText? r.body.pattern = some pattern) {scene : Scene} {x : Symbol}
    (hx : x ∈ scene.symbols) (selected : r.body.scope.selects x.role = true)
    (off : pattern.isMatch x.path = false) : ∃ v ∈ Check.naming r scene, v.file = x.path := by
  refine ⟨r.head.violationAt x (Check.namingFinding r.body x), ?_, rfl⟩
  simp only [Check.naming, hp]
  exact List.mem_map_of_mem (List.mem_filter.mpr ⟨hx, by simp [Check.breaksNaming, selected, off]⟩)

theorem exists_mem_barrel {r : Typed BarrelRule} {files : Pattern}
    (hf : Pattern.ofText? r.body.filePattern = some files) {scene : Scene} {x : Symbol}
    (hx : x ∈ Check.filesMatching scene files) {text : String} (ht : scene.text? x.path = some text)
    {p : Pattern} (hp : p ∈ validPatterns r.body.patterns) (hit : p.isMatch text = true) :
    ∃ v ∈ Check.barrel r scene, v.file = x.path := by
  obtain ⟨q, hq⟩ : ∃ q, Check.firstMatch? (validPatterns r.body.patterns) text = some q :=
    Option.isSome_iff_exists.mp (List.find?_isSome.mpr ⟨p, hp, hit⟩)
  simp only [Check.barrel, hf, Scene.scan, List.mem_flatMap]
  exact ⟨_, ⟨x, hx, by simp only [ht, hq]; exact List.mem_singleton_self _⟩, rfl⟩

theorem RuleSet.givesUpOnNone_ofRules {rules : List Rule}
    (h : ∀ r ∈ rules, r.kind.IsWellFormed) : (RuleSet.ofRules rules).GivesUpOnNone where
  naming := by
    intro t ht
    obtain ⟨r, hr, same⟩ := exists_kind_of_mem_bucket (b := .naming) ht
    obtain ⟨pattern, hp⟩ := Option.isSome_iff_exists.mp
      ((h r hr).keyPattern t.body.pattern (by rw [same]; rfl))
    exact ⟨pattern, hp, fun scene x hx => exists_mem_naming hp hx⟩
  barrel := by
    intro t ht
    obtain ⟨r, hr, same⟩ := exists_kind_of_mem_bucket (b := .barrel) ht
    obtain ⟨files, hf⟩ := Option.isSome_iff_exists.mp
      ((h r hr).keyPattern t.body.filePattern (by rw [same]; rfl))
    exact ⟨files, hf, fun scene x hx text ht p hp => exists_mem_barrel hf hx ht hp⟩

theorem kind_wellFormed_of_mem_activeRules {config : Config} {rules : List Rule}
    (h : ∀ r ∈ rules, r.kind.IsWellFormed) : ∀ r ∈ config.activeRules rules, r.kind.IsWellFormed := by
  intro r hr
  rw [Config.activeRules_eq] at hr
  obtain ⟨q, hq, rfl⟩ := List.mem_map.mp hr
  exact h q (List.mem_of_mem_filter hq)

/-- A grammar that loads is well formed, and so no check of its rules, under whatever configuration,
is left out for want of a pattern. -/
theorem accepted_grammar_is_well_formed {draft : Draft.Grammar} {g : Grammar}
    (h : draft.load = .ok g) :
    g.IsWellFormed ∧ (RuleSet.ofRules g.rules).GivesUpOnNone ∧
      ∀ config : Config, (RuleSet.ofRules (config.activeRules g.rules)).GivesUpOnNone := by
  have wellFormed := Draft.isWellFormed_of_load h
  exact ⟨wellFormed, RuleSet.givesUpOnNone_ofRules wellFormed.rules,
    fun config => RuleSet.givesUpOnNone_ofRules (kind_wellFormed_of_mem_activeRules wellFormed.rules)⟩

/-- The word for all roles stands alone and in a list, a tolerance is infinite, and one threshold is
left to the default. -/
theorem grammar_with_infinite_tolerance_is_well_formed :
    let draft : Draft.Grammar :=
      { roles := [⟨"CORE", "^src/"⟩]
        rules := [
          { name := "names", kind := "naming_pattern", scope := some { role := some (.one "ALL") }
            pattern := some "ts$" },
          { name := "alike", kind := "find_synonyms"
            scope := some { role := some (.many ["ALL"]) } },
          { name := "sizes", kind := "granularity_metric"
            scope := some { role := some (.one "CORE") }
            targetLines := some .one, tolerance := some (.infinite false) },
          { name := "barrels", kind := "barrel_purity"
            scope := some { filePattern := some "index" }, forbiddenContent := some ["class "] }] }
    ∃ g, draft.load = .ok g ∧ g.IsWellFormed ∧ (RuleSet.ofRules g.rules).GivesUpOnNone ∧
      g.rules.map (fun r => (r.head.name, r.kind.selectors, r.kind.sizes)) =
        [("names", [.all], []), ("alike", [.any ["ALL"]], []),
          ("sizes", [.one "CORE"], [.one, .infinite false]), ("barrels", [], [])] := by
  intro draft
  have loads : draft.load.toOption.map (fun g =>
      g.rules.map fun r => (r.head.name, r.kind.selectors, r.kind.sizes)) =
      some [("names", [.all], []), ("alike", [.any ["ALL"]], []),
        ("sizes", [.one "CORE"], [.one, .infinite false]), ("barrels", [], [])] := by
    decide +kernel
  obtain ⟨g, hg, parts⟩ := Option.map_eq_some_iff.mp loads
  have loaded : draft.load = .ok g := Draft.toOption_eq_some.mp hg
  obtain ⟨wellFormed, checked, -⟩ := accepted_grammar_is_well_formed loaded
  exact ⟨g, loaded, wellFormed, checked, parts⟩

end ArchLint
