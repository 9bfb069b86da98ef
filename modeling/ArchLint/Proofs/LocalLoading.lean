import ArchLint.Proofs.Loading
import Mathlib.Data.List.Forall2
import Mathlib.Data.List.ReduceOption

/-!
Loading one thing at a time. Where a role or a rule stands shows in its faults only
(`steady_roleLoad`, `steady_ruleLoad`), so each of them loads wherever it stands or nowhere, and a
list loads if everything on it does (`inOrder_eq_ok_iff`). Otherwise the first fault on it is the
answer (`inOrder_eq_error_iff`). Rules of an unknown kind always load, as nothing: they only move the
places of those behind them.
-/

namespace ArchLint

/-- The words for kinds that are known. -/
def RuleKind.words : List String :=
  ["naming_pattern", "forbidden", "required", "allowed", "find_synonyms", "detect_unreferenced",
    "file_size", "test_coverage", "forbidden_keywords", "required_structure",
    "documentation_required", "class_complexity", "minimum_test_ratio", "granularity_metric",
    "forbidden_patterns", "barrel_purity"]

theorem exists_forall₂_iff {α β : Type} {R : α → β → Prop} {as : List α} :
    (∃ bs, List.Forall₂ R as bs) ↔ ∀ a ∈ as, ∃ b, R a b := by
  induction as with
  | nil => simp
  | cons a as ih =>
    rw [List.forall_mem_cons, ← ih]
    constructor
    · rintro ⟨bs, h⟩
      obtain ⟨b, rest, hb, hrest, -⟩ := List.forall₂_cons_left_iff.mp h
      exact ⟨⟨b, hb⟩, rest, hrest⟩
    · rintro ⟨⟨b, hb⟩, rest, hrest⟩
      exact ⟨b :: rest, .cons hb hrest⟩

namespace Draft

/-! ### Lists -/

section

variable {δ β : Type} (load : Nat → δ → Except LoadError β)

/-- It loads, and as the same thing wherever it stands. -/
def LoadsAs (d : δ) (b : β) : Prop := ∀ index, load index d = .ok b

/-- It loads by itself. -/
def Loads (d : δ) : Prop := ∃ b, LoadsAs load d b

/-- Places make no difference to what is loaded, only to how a fault is told. -/
def Steady : Prop := ∀ i j d, (load i d).toOption = (load j d).toOption

/-- Everything before some place loads, and what stands there has the fault. Places are counted from
the given one. -/
def FirstFault (start : Nat) (ds : List δ) (e : LoadError) : Prop :=
  ∃ before d after, ds = before ++ d :: after ∧ (∀ q ∈ before, Loads load q) ∧
    load (start + before.length) d = .error e

/-- Loads a list from its start, up to the first fault. -/
def inOrder : Nat → List δ → Except LoadError (List β)
  | _, [] => .ok []
  | i, d :: ds => do
    let b ← load i d
    return b :: (← inOrder (i + 1) ds)

variable {load}

theorem toOption_eq_some {x : Except LoadError β} {b : β} : x.toOption = some b ↔ x = .ok b := by
  cases x <;> simp [Except.toOption]

theorem Steady.loadsAs (h : Steady load) {i : Nat} {d : δ} {b : β} (hd : load i d = .ok b) :
    LoadsAs load d b := by
  intro j
  rw [← toOption_eq_some, h j i, hd]
  rfl

theorem not_loads_of_error {i : Nat} {d : δ} {e : LoadError}
    (hd : load i d = .error e) : ¬ Loads load d := by
  rintro ⟨b, hb⟩
  rw [hb i] at hd
  cases hd

theorem inOrder_eq_ok_iff (h : Steady load) {i : Nat} {ds : List δ} {bs : List β} :
    inOrder load i ds = .ok bs ↔ List.Forall₂ (LoadsAs load) ds bs := by
  induction ds generalizing i bs with
  | nil => simp [inOrder, eq_comm]
  | cons d ds ih =>
    simp only [inOrder, bind_eq_ok, pure_eq_ok, ih, List.forall₂_cons_left_iff]
    constructor
    · rintro ⟨b, hd, rest, hrest, rfl⟩
      exact ⟨b, rest, h.loadsAs hd, hrest, rfl⟩
    · rintro ⟨b, rest, hd, hrest, rfl⟩
      exact ⟨b, hd i, rest, hrest, rfl⟩

theorem loads_iff_inOrder (h : Steady load) {i : Nat} {ds : List δ} :
    (∀ d ∈ ds, Loads load d) ↔ ∃ bs, inOrder load i ds = .ok bs := by
  simp only [inOrder_eq_ok_iff h, exists_forall₂_iff, Loads]

theorem inOrder_eq_error_iff (h : Steady load) {i : Nat} {ds : List δ} {e : LoadError} :
    inOrder load i ds = .error e ↔ FirstFault load i ds e := by
  induction ds generalizing i with
  | nil => simp [inOrder, FirstFault]
  | cons d ds ih =>
    cases hd : load i d with
    | error c =>
      have stops : inOrder load i (d :: ds) = .error c := by simp [inOrder, hd]; rfl
      rw [stops]
      constructor
      · intro same
        obtain rfl := Except.error.inj same
        exact ⟨[], d, ds, rfl, by simp, hd⟩
      · rintro ⟨before, q, after, split, loads, fault⟩
        cases before with
        | nil =>
          obtain ⟨rfl, rfl⟩ := List.cons.inj split
          exact congrArg _ (Except.error.inj (hd.symm.trans fault))
        | cons p before =>
          obtain ⟨rfl, rfl⟩ := List.cons.inj split
          exact absurd (loads d List.mem_cons_self) (not_loads_of_error hd)
    | ok b =>
      have goes : inOrder load i (d :: ds) = .error e ↔ inOrder load (i + 1) ds = .error e := by
        simp only [inOrder, hd]
        cases inOrder load (i + 1) ds <;> simp [bind, Except.bind, pure, Except.pure]
      rw [goes, ih]
      constructor
      · rintro ⟨before, q, after, rfl, loads, fault⟩
        refine ⟨d :: before, q, after, rfl, ?_, ?_⟩
        · intro p hp
          rcases List.mem_cons.mp hp with rfl | hp
          · exact ⟨b, h.loadsAs hd⟩
          · exact loads p hp
        · rwa [List.length_cons, Nat.add_comm before.length, ← Nat.add_assoc]
      · rintro ⟨before, q, after, split, loads, fault⟩
        cases before with
        | nil =>
          obtain ⟨rfl, rfl⟩ := List.cons.inj split
          rw [List.length_nil, Nat.add_zero, hd] at fault
          cases fault
        | cons p before =>
          obtain ⟨rfl, rfl⟩ := List.cons.inj split
          refine ⟨before, q, after, rfl, fun p hp => loads p (List.mem_cons_of_mem d hp), ?_⟩
          rwa [List.length_cons, Nat.add_comm before.length, ← Nat.add_assoc] at fault

end

/-! ### What the place leaves alone -/

section

variable {α β : Type}

theorem toOption_bind (x : Except LoadError α) (f : α → Except LoadError β) :
    (x >>= f).toOption = x.toOption.bind fun a => (f a).toOption := by
  cases x <;> rfl

theorem toOption_map (f : α → β) (x : Except LoadError α) :
    (f <$> x).toOption = x.toOption.map f := by
  cases x <;> rfl

theorem toOption_pure (a : α) : (pure a : Except LoadError α).toOption = some a := rfl

end

namespace Rule

variable {place : String} {d : Rule}

theorem toOption_require {α : Type} (value : Option α) (field : String) :
    (require place d value field).toOption = value := by
  cases value <;> rfl

theorem toOption_checkPattern (source field : String) :
    (checkPattern place source field).toOption =
      if Pattern.isValid source then some () else none := by
  unfold checkPattern
  split <;> rfl

theorem toOption_checkRange (value : Binary64) (field expected : String) (fits : Bool) :
    (checkRange place value field fits expected).toOption = if fits then some () else none := by
  unfold checkRange
  split <;> rfl

theorem toOption_loadSeverity :
    (loadSeverity place d).toOption = Severity.ofName? d.severity := by
  unfold loadSeverity
  split <;> simp_all [Except.toOption]

/-- What a rule demands does not depend on where it stands. -/
theorem toOption_loadKind (other : String) :
    (loadKind place d).toOption = (loadKind other d).toOption := by
  unfold loadKind
  split <;> simp only [toOption_map, loadNaming, loadForbidden, loadEdge, loadSynonyms,
    loadUnreferenced, loadFileSize, loadKeywords, loadDocumentation, loadComplexity, loadTestRatio,
    loadGranularity, loadContent, loadBarrel, scopeRole, sourceRole, targetRole, toOption_bind,
    toOption_pure, apply_ite Except.toOption, toOption_require, toOption_checkPattern,
    toOption_checkRange]

end Rule

theorem steady_roleLoad : Steady Role.load := by
  intro i j d
  unfold Role.load
  split <;> rfl

theorem steady_ruleLoad : Steady Rule.load := by
  intro i j d
  unfold Rule.load
  simp only [toOption_bind, Rule.toOption_loadKind (Rule.placeOf j d)]
  congr 1
  funext kind?
  cases kind? with
  | none => rfl
  | some kind => simp only [toOption_bind, Rule.toOption_loadSeverity, toOption_pure]

/-! ### Kinds -/

/-- Its kind is one of those that rules can have. -/
def Rule.IsKnown (d : Rule) : Prop := d.kind ∈ RuleKind.words

instance : DecidablePred Rule.IsKnown := fun d =>
  inferInstanceAs (Decidable (d.kind ∈ RuleKind.words))

namespace Rule

variable {place : String} {d : Rule}

theorem loadKind_eq_none_iff : loadKind place d = .ok none ↔ ¬ d.IsKnown := by
  unfold loadKind
  -- one case for each word, and one for all others
  split
  case h_17 others => simp_all [IsKnown, RuleKind.words]
  all_goals
    rename_i word
    have known : d.IsKnown := by simp [IsKnown, word, RuleKind.words]
    refine iff_of_false (fun h => ?_) (not_not_intro known)
    obtain ⟨body, -, same⟩ := map_eq_ok.mp h
    cases same

theorem word_of_loadKind {kind : RuleKind} (h : loadKind place d = .ok (some kind)) :
    kind.word = d.kind := by
  unfold loadKind at h
  split at h
  case h_17 => exact nomatch h
  all_goals
    rename_i word
    obtain ⟨body, -, same⟩ := map_eq_ok.mp h
    obtain rfl := Option.some.inj same
    exact word.symm

theorem ofName?_of_loadSeverity {severity : Severity} (h : loadSeverity place d = .ok severity) :
    Severity.ofName? d.severity = some severity := by
  rw [← @toOption_loadSeverity place d, h]
  rfl

theorem load_eq_none_iff {index : Nat} : d.load index = .ok none ↔ ¬ d.IsKnown := by
  rw [← @loadKind_eq_none_iff (placeOf index d) d]
  constructor
  · intro h
    obtain ⟨kind?, kindLoaded, h⟩ := bind_eq_ok.mp h
    cases kind? with
    | none => exact kindLoaded
    | some kind =>
      obtain ⟨severity, -, h⟩ := bind_eq_ok.mp h
      cases h
  · intro h
    exact bind_eq_ok.mpr ⟨none, h, rfl⟩

/-- What a rule that loads becomes. -/
structure Becomes (d : Rule) (r : ArchLint.Rule) : Prop where
  loads : LoadsAs load d (some r)
  name : r.head.name = d.name
  comment : r.head.comment = d.comment
  severity : Severity.ofName? d.severity = some r.head.severity
  kind : r.kind.word = d.kind

theorem becomes_iff {r : ArchLint.Rule} : d.Becomes r ↔ LoadsAs load d (some r) := by
  refine ⟨Becomes.loads, fun loads => ?_⟩
  obtain ⟨name, comment, severity, kind⟩ := parts_of_load (loads 0)
  exact ⟨loads, name, comment, ofName?_of_loadSeverity severity, word_of_loadKind kind⟩

end Rule

/-- What a role that loads becomes. -/
structure Role.Becomes (d : Role) (r : RoleDefinition) : Prop where
  loads : LoadsAs load d r
  name : r.name = d.name
  source : r.pattern.source = d.path

theorem Role.becomes_iff {d : Role} {r : RoleDefinition} : d.Becomes r ↔ LoadsAs load d r := by
  refine ⟨Becomes.loads, fun loads => ?_⟩
  have defined := loads 0
  unfold Role.load RoleDefinition.define at defined
  split at defined
  · rename_i role hr
    obtain rfl := Except.ok.inj defined
    split at hr
    · cases hr
    · split at hr
      · rename_i pattern hp
        obtain rfl := Except.ok.inj hr
        exact ⟨loads, rfl, Pattern.source_of_ofText? hp⟩
      · cases hr
  · cases defined

/-! ### Documents -/

theorem loadRoles_eq_inOrder {i : Nat} {ds : List Role} :
    loadRoles i ds = inOrder Role.load i ds := by
  induction ds generalizing i with
  | nil => rfl
  | cons d ds ih => simp only [loadRoles, inOrder, ih]

/-- Rules of an unknown kind are loaded as nothing, and nothing is left out. -/
theorem loadRules_eq_inOrder {i : Nat} {ds : List Rule} :
    loadRules i ds = List.reduceOption <$> inOrder Rule.load i ds := by
  induction ds generalizing i with
  | nil => rfl
  | cons d ds ih =>
    simp only [loadRules, inOrder, ih]
    cases d.load i with
    | error e => rfl
    | ok rule? =>
      cases rule? <;> cases inOrder Rule.load (i + 1) ds <;> rfl

/-- The rules left of a list are those that its rules of a known kind become. -/
theorem forall₂_becomes_iff {ds : List Rule} {rules : List ArchLint.Rule} :
    (∃ loaded, List.Forall₂ (LoadsAs Rule.load) ds loaded ∧ loaded.reduceOption = rules) ↔
      List.Forall₂ Rule.Becomes (ds.filter Rule.IsKnown) rules := by
  induction ds generalizing rules with
  | nil => simp [eq_comm]
  | cons d ds ih =>
    by_cases known : d.IsKnown
    · rw [List.filter_cons_of_pos (by simpa using known), List.forall₂_cons_left_iff]
      constructor
      · rintro ⟨loaded, hloaded, rfl⟩
        obtain ⟨rule?, rest, hd, hrest, rfl⟩ := List.forall₂_cons_left_iff.mp hloaded
        cases rule? with
        | none => exact absurd known (Rule.load_eq_none_iff.mp (hd 0))
        | some rule =>
          exact ⟨rule, rest.reduceOption, Rule.becomes_iff.mpr hd, ih.mp ⟨rest, hrest, rfl⟩, rfl⟩
      · rintro ⟨rule, rest, hd, hrest, rfl⟩
        obtain ⟨loaded, hloaded, rfl⟩ := ih.mpr hrest
        exact ⟨some rule :: loaded, .cons hd.loads hloaded, rfl⟩
    · rw [List.filter_cons_of_neg (by simpa using known), ← ih]
      have nothing : LoadsAs Rule.load d none := fun i => Rule.load_eq_none_iff.mpr known
      constructor
      · rintro ⟨loaded, hloaded, rfl⟩
        obtain ⟨rule?, rest, hd, hrest, rfl⟩ := List.forall₂_cons_left_iff.mp hloaded
        obtain rfl := Except.ok.inj ((hd 0).symm.trans (nothing 0))
        exact ⟨rest, hrest, rfl⟩
      · rintro ⟨loaded, hloaded, rfl⟩
        exact ⟨none :: loaded, .cons nothing hloaded, rfl⟩

theorem loadRules_eq_ok_iff {i : Nat} {ds : List Rule} {rules : List ArchLint.Rule} :
    loadRules i ds = .ok rules ↔ List.Forall₂ Rule.Becomes (ds.filter Rule.IsKnown) rules := by
  rw [loadRules_eq_inOrder, map_eq_ok, ← forall₂_becomes_iff]
  simp only [inOrder_eq_ok_iff steady_ruleLoad]

theorem loadRoles_eq_ok_iff {i : Nat} {ds : List Role} {roles : List RoleDefinition} :
    loadRoles i ds = .ok roles ↔ List.Forall₂ Role.Becomes ds roles := by
  have same : Role.Becomes = LoadsAs Role.load := funext₂ fun _ _ => propext Role.becomes_iff
  rw [loadRoles_eq_inOrder, inOrder_eq_ok_iff steady_roleLoad, same]

theorem Role.loads_iff {d : Role} : Loads load d ↔ ∃ r, d.Becomes r := by
  simp only [Loads, becomes_iff]

theorem Rule.loads_iff {d : Rule} (h : d.IsKnown) : Loads load d ↔ ∃ r, d.Becomes r := by
  simp only [becomes_iff]
  constructor
  · rintro ⟨rule?, loads⟩
    cases rule? with
    | none => exact absurd h (load_eq_none_iff.mp (loads 0))
    | some rule => exact ⟨rule, loads⟩
  · rintro ⟨rule, loads⟩
    exact ⟨some rule, loads⟩

namespace Grammar

/-- What a document that loads becomes: its roles and its rules of a known kind, in order. -/
structure Becomes (d : Grammar) (g : ArchLint.Grammar) : Prop where
  version : g.version = d.version
  language : g.language = d.language
  roles : List.Forall₂ Role.Becomes d.roles g.roles
  rules : List.Forall₂ Rule.Becomes (d.rules.filter Rule.IsKnown) g.rules

variable {d : Grammar}

theorem load_eq_ok_iff {g : ArchLint.Grammar} : d.load = .ok g ↔ d.Becomes g := by
  simp only [load, bind_eq_ok, pure_eq_ok, loadRoles_eq_ok_iff, loadRules_eq_ok_iff]
  constructor
  · rintro ⟨roles, hroles, rules, hrules, rfl⟩
    exact ⟨rfl, rfl, hroles, hrules⟩
  · obtain ⟨version, language, roles, rules⟩ := g
    rintro ⟨rfl, rfl, hroles, hrules⟩
    exact ⟨roles, hroles, rules, hrules, rfl⟩

theorem exists_load_iff : (∃ g, d.load = .ok g) ↔
    (∀ r ∈ d.roles, Loads Role.load r) ∧ ∀ r ∈ d.rules, r.IsKnown → Loads Rule.load r := by
  have roles : (∀ r ∈ d.roles, Loads Role.load r) ↔
      ∃ roles, List.Forall₂ Role.Becomes d.roles roles := by
    rw [exists_forall₂_iff]
    simp only [Role.loads_iff]
  have rules : (∀ r ∈ d.rules, r.IsKnown → Loads Rule.load r) ↔
      ∃ rules, List.Forall₂ Rule.Becomes (d.rules.filter Rule.IsKnown) rules := by
    rw [exists_forall₂_iff]
    simp only [List.mem_filter, decide_eq_true_eq, and_imp]
    exact forall₃_congr fun r _ known => Rule.loads_iff known
  simp only [load_eq_ok_iff, roles, rules]
  constructor
  · rintro ⟨g, h⟩
    exact ⟨⟨g.roles, h.roles⟩, g.rules, h.rules⟩
  · rintro ⟨⟨roles, hroles⟩, rules, hrules⟩
    exact ⟨⟨d.version, d.language, roles, rules⟩, rfl, rfl, hroles, hrules⟩

theorem load_eq_error_iff {e : LoadError} : d.load = .error e ↔
    FirstFault Role.load 0 d.roles e ∨
      (∀ r ∈ d.roles, Loads Role.load r) ∧ FirstFault Rule.load 0 d.rules e := by
  rw [← inOrder_eq_error_iff steady_roleLoad, ← inOrder_eq_error_iff steady_ruleLoad,
    loads_iff_inOrder steady_roleLoad (i := 0), load, loadRoles_eq_inOrder, loadRules_eq_inOrder]
  cases inOrder Role.load 0 d.roles with
  | error c => simp [bind, Except.bind]
  | ok roles =>
    cases inOrder Rule.load 0 d.rules with
    | error c => simp [bind, Except.bind, Functor.map, Except.map]
    | ok rules => simp [bind, Except.bind, Functor.map, Except.map, pure, Except.pure]

end Grammar

end Draft

open Draft

/-- A document loads if every role and every rule of a known kind does by itself, and as the grammar
of just these. Otherwise the fault is that of the first role that does not load or, where all roles
load, that of the first rule, its place counted among rules of all kinds. Two documents that differ
in rules of an unknown kind only load as the same grammar or not at all. -/
theorem grammar_loads_by_parts (d : Draft.Grammar) :
    ((∃ g, d.load = .ok g) ↔
      (∀ r ∈ d.roles, Loads Role.load r) ∧ ∀ r ∈ d.rules, r.IsKnown → Loads Rule.load r) ∧
    (∀ g, d.load = .ok g ↔ d.Becomes g) ∧
    (∀ e, d.load = .error e ↔ FirstFault Role.load 0 d.roles e ∨
      (∀ r ∈ d.roles, Loads Role.load r) ∧ FirstFault Rule.load 0 d.rules e) ∧
    ∀ rules, rules.filter Rule.IsKnown = d.rules.filter Rule.IsKnown →
      (Draft.Grammar.load { d with rules }).toOption = d.load.toOption := by
  refine ⟨Draft.Grammar.exists_load_iff, fun _ => Draft.Grammar.load_eq_ok_iff,
    fun _ => Draft.Grammar.load_eq_error_iff, fun rules same => ?_⟩
  apply Option.ext
  intro g
  rw [toOption_eq_some, toOption_eq_some, Draft.Grammar.load_eq_ok_iff,
    Draft.Grammar.load_eq_ok_iff]
  constructor
  · intro h
    exact ⟨h.version, h.language, h.roles, same ▸ h.rules⟩
  · intro h
    exact ⟨h.version, h.language, h.roles, same.symm ▸ h.rules⟩

/-- A rule of an unknown kind, whose severity is none, stands before the only other rule. -/
theorem rule_of_unknown_kind_is_passed_over :
    let size : Draft.Rule :=
      { name := "size", kind := "file_size", scope := some { role := some (.one "ALL") }
        maxLines := some 10 }
    let mystery : Draft.Rule := { name := "mystery", severity := "fatal", kind := "not_a_kind" }
    [mystery, size].filter Rule.IsKnown = [size] ∧
      (Draft.Grammar.load { rules := [mystery, size] }).toOption =
        (Draft.Grammar.load { rules := [size] }).toOption ∧
      (Draft.Grammar.load { rules := [size] }).toOption.isSome = true := by
  intro size mystery
  obtain ⟨-, -, -, passes⟩ := grammar_loads_by_parts { rules := [size] }
  exact ⟨by decide, passes [mystery, size] (by decide), rfl⟩

end ArchLint
