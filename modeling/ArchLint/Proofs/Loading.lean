import ArchLint.Grammar.Load
import ArchLint.Proofs.Rounding

/-!
What a grammar that loads can be relied on for. Each of its rules was a rule of the document that
loaded by itself (`exists_load_of_mem`), and what is asked of a rule of its kind while it loads
holds of it afterwards: patterns can be read, and numbers lie in their ranges (`RuleKind.Sound`).
-/

namespace ArchLint

/-- The patterns that a rule rests on can be read, and its numbers lie in range. -/
def RuleKind.Sound : RuleKind → Prop
  | naming body => Pattern.isValid body.pattern = true
  | synonyms body => Draft.isShare body.threshold = true
  | testRatio body => Draft.isShare body.ratio = true
  | granularity body => Draft.isPositive body.target = true ∧ Draft.isPositive body.tolerance = true
  | barrel body => Pattern.isValid body.filePattern = true
  | _ => True

namespace Draft

/-- A share is a finite number between zero and one. -/
theorem isShare_iff {x : Binary64} :
    isShare x = true ↔ x.isFinite = true ∧ 0 ≤ x.toRat ∧ x.toRat ≤ 1 := by
  match x with
  | .nan => simp [isShare, Binary64.isFinite, Binary64.le, Binary64.lt, Binary64.eqv]
  | .infinite s =>
    have below : Binary64.le (.infinite s) .one = s := Binary64.infinite_le Binary64.isFinite_one
    have above : Binary64.le .zero (.infinite s) = !s := Binary64.le_infinite rfl
    simp [isShare, below, above, Binary64.isFinite]
  | .finite s m e =>
    have finite : (Binary64.finite s m e).isFinite = true := rfl
    rw [isShare, Bool.and_eq_true, Binary64.le_iff rfl finite,
      Binary64.le_iff finite Binary64.isFinite_one, Binary64.toRat_zero, Binary64.toRat_one]
    exact ⟨fun h => ⟨rfl, h⟩, And.right⟩

section

variable {ε α β : Type}

theorem bind_eq_ok {x : Except ε α} {f : α → Except ε β} {b : β} :
    (x >>= f) = .ok b ↔ ∃ a, x = .ok a ∧ f a = .ok b := by
  cases x with
  | error e => exact ⟨nofun, fun ⟨_, h, _⟩ => nomatch h⟩
  | ok a => exact ⟨fun h => ⟨a, rfl, h⟩, fun ⟨_, h, hf⟩ => Except.ok.inj h ▸ hf⟩

theorem map_eq_ok {x : Except ε α} {f : α → β} {b : β} :
    f <$> x = .ok b ↔ ∃ a, x = .ok a ∧ f a = b := by
  cases x with
  | error e => exact ⟨nofun, fun ⟨_, h, _⟩ => nomatch h⟩
  | ok a => exact ⟨fun h => ⟨a, rfl, Except.ok.inj h⟩, fun ⟨_, h, hf⟩ => Except.ok.inj h ▸ congrArg _ hf⟩

theorem pure_eq_ok {a b : α} : (pure a : Except ε α) = .ok b ↔ a = b :=
  ⟨Except.ok.inj, congrArg _⟩

end

namespace Rule

variable {place : String} {d : Rule}

/-! ### Single checks -/

theorem isValid_of_checkPattern {source field : String}
    (h : checkPattern place source field = .ok ()) : Pattern.isValid source = true := by
  unfold checkPattern at h
  split at h
  · assumption
  · exact nomatch h

theorem fits_of_checkRange {value : Binary64} {field expected : String} {fits : Bool}
    (h : checkRange place value field fits expected = .ok ()) : fits = true := by
  unfold checkRange at h
  split at h
  · assumption
  · exact nomatch h

/-! ### Kinds with checks -/

theorem isValid_of_loadNaming {body : NamingRule} (h : loadNaming place d = .ok body) :
    Pattern.isValid body.pattern = true := by
  simp only [loadNaming, bind_eq_ok, pure_eq_ok] at h
  obtain ⟨pattern, -, ⟨⟩, checked, scope, -, rfl⟩ := h
  exact isValid_of_checkPattern checked

theorem isShare_of_loadSynonyms {body : SynonymRule} (h : loadSynonyms place d = .ok body) :
    isShare body.threshold = true := by
  simp only [loadSynonyms, bind_eq_ok, pure_eq_ok] at h
  obtain ⟨⟨⟩, checked, scope, -, rfl⟩ := h
  exact fits_of_checkRange checked

theorem isShare_of_loadTestRatio {body : TestRatioRule} (h : loadTestRatio place d = .ok body) :
    isShare body.ratio = true := by
  simp only [loadTestRatio, bind_eq_ok, pure_eq_ok] at h
  obtain ⟨ratio, -, ⟨⟩, checked, rfl⟩ := h
  exact fits_of_checkRange checked

theorem isPositive_of_loadGranularity {body : GranularityRule}
    (h : loadGranularity place d = .ok body) :
    isPositive body.target = true ∧ isPositive body.tolerance = true := by
  simp only [loadGranularity, bind_eq_ok, pure_eq_ok] at h
  obtain ⟨target, -, ⟨⟩, checked, ⟨⟩, checked', scope, -, rfl⟩ := h
  exact ⟨fits_of_checkRange checked, fits_of_checkRange checked'⟩

theorem isValid_of_loadBarrel {body : BarrelRule} (h : loadBarrel place d = .ok body) :
    Pattern.isValid body.filePattern = true := by
  simp only [loadBarrel, bind_eq_ok, pure_eq_ok] at h
  obtain ⟨pattern, -, ⟨⟩, checked, patterns, -, rfl⟩ := h
  exact isValid_of_checkPattern checked

/-! ### Rules -/

theorem sound_of_loadKind {kind : RuleKind} (h : loadKind place d = .ok (some kind)) :
    kind.Sound := by
  unfold loadKind at h
  -- one case for each word, and one for all others
  split at h
  case h_17 => exact nomatch h
  all_goals
    obtain ⟨body, loaded, same⟩ := map_eq_ok.mp h
    obtain rfl := Option.some.inj same
  case h_1 => exact isValid_of_loadNaming loaded
  case h_5 => exact isShare_of_loadSynonyms loaded
  case h_13 => exact isShare_of_loadTestRatio loaded
  case h_14 => exact isPositive_of_loadGranularity loaded
  case h_16 => exact isValid_of_loadBarrel loaded
  all_goals trivial

/-- A rule that is loaded has the name and the comment of its draft, and the kind and the weight that
the draft stands for. -/
theorem parts_of_load {index : Nat} {rule : ArchLint.Rule} (h : d.load index = .ok (some rule)) :
    rule.head.name = d.name ∧ rule.head.comment = d.comment ∧
      loadSeverity (placeOf index d) d = .ok rule.head.severity ∧
      loadKind (placeOf index d) d = .ok (some rule.kind) := by
  obtain ⟨kind?, kindLoaded, h⟩ := bind_eq_ok.mp h
  cases kind? with
  | none => exact nomatch h
  | some kind =>
    obtain ⟨severity, severityLoaded, h⟩ := bind_eq_ok.mp h
    obtain rfl := Option.some.inj (pure_eq_ok.mp h)
    exact ⟨rfl, rfl, severityLoaded, kindLoaded⟩

end Rule

theorem exists_load_of_mem_loadRules {rule : ArchLint.Rule} : ∀ {index : Nat} {ds : List Rule}
    {rules : List ArchLint.Rule}, loadRules index ds = .ok rules → rule ∈ rules →
    ∃ i, ∃ d ∈ ds, d.load i = .ok (some rule)
  | _, [], _, h, hr => by
    obtain rfl := Except.ok.inj h
    exact absurd hr List.not_mem_nil
  | index, d :: ds, rules, h, hr => by
    obtain ⟨loaded?, first, h⟩ := bind_eq_ok.mp h
    cases loaded? with
    | none =>
      obtain ⟨i, e, he, hl⟩ := exists_load_of_mem_loadRules h hr
      exact ⟨i, e, List.mem_cons_of_mem d he, hl⟩
    | some r =>
      obtain ⟨rest, others, h⟩ := bind_eq_ok.mp h
      obtain rfl := pure_eq_ok.mp h
      rcases List.mem_cons.mp hr with rfl | hr
      · exact ⟨index, d, List.mem_cons_self, first⟩
      · obtain ⟨i, e, he, hl⟩ := exists_load_of_mem_loadRules others hr
        exact ⟨i, e, List.mem_cons_of_mem d he, hl⟩

/-- A rule of a grammar was loaded from a rule of the document. -/
theorem exists_load_of_mem {draft : Draft.Grammar} {grammar : ArchLint.Grammar}
    {rule : ArchLint.Rule} (h : draft.load = .ok grammar) (hr : rule ∈ grammar.rules) :
    ∃ i, ∃ d ∈ draft.rules, d.load i = .ok (some rule) := by
  obtain ⟨roles, -, h⟩ := bind_eq_ok.mp h
  obtain ⟨rules, loaded, h⟩ := bind_eq_ok.mp h
  obtain rfl := pure_eq_ok.mp h
  exact exists_load_of_mem_loadRules loaded hr

theorem sound_of_mem {draft : Draft.Grammar} {grammar : ArchLint.Grammar} {rule : ArchLint.Rule}
    (h : draft.load = .ok grammar) (hr : rule ∈ grammar.rules) : rule.kind.Sound := by
  obtain ⟨i, d, -, loaded⟩ := exists_load_of_mem h hr
  obtain ⟨-, -, -, kind⟩ := Rule.parts_of_load loaded
  exact Rule.sound_of_loadKind kind

end Draft

end ArchLint
