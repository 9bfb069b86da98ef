import ArchLint.Proofs.Edges
import ArchLint.Proofs.Provenance
import Mathlib.Data.List.Nodup

/-!
Rules do not interfere. When no two rules have the same name, what a run reports under the name of
a rule is what the rule reports alone; only a dependency that an earlier rule forbids as well is
left to that rule.
-/

namespace ArchLint

/-- What is reported under a name. -/
def reportsOf (name : String) (vs : List Violation) : List Violation :=
  vs.filter fun v => v.ruleName = name

/-- Does the rule forbid a dependency for the roles of its two files? -/
def Rule.forbids (r : Rule) (e : FileNode × FileNode) : Bool :=
  match r.kind with
  | .forbidden ⟨source, .roles target⟩ => source.selects e.1.role && target.selects e.2.role
  | _ => false

/-! ### Reports under a name -/

theorem reportsOf_eq_self {h : RuleHead} {vs : List Violation} (hs : h.SignsAll vs) :
    reportsOf h.name vs = vs :=
  List.filter_eq_self.mpr fun v hv => by simpa using (hs v hv).ruleName

/-- Rules of other names report nothing under the name. -/
theorem reportsOf_check_eq_nil {name : String} {rules : List Rule}
    (hn : ∀ r ∈ rules, r.head.name ≠ name) (b : Bucket) (scene : Scene) :
    reportsOf name (b.check (rulesIn b rules) scene) = [] := by
  refine List.filter_eq_nil_iff.mpr fun v hv => ?_
  obtain ⟨t, ht, hs⟩ := exists_signs_of_mem_check hv
  obtain ⟨r, hr, he⟩ := exists_head_of_mem_rulesIn ht
  simpa [hs.ruleName, ← he] using hn r hr

theorem signsAll_check_singleton (b : Bucket) (r : Rule) (scene : Scene) :
    r.head.SignsAll (b.check (rulesIn b [r]) scene) := by
  intro v hv
  obtain ⟨t, ht, hs⟩ := exists_signs_of_mem_check hv
  obtain ⟨q, hq, he⟩ := exists_head_of_mem_rulesIn ht
  rwa [← List.mem_singleton.mp hq, he]

section

variable {earlier later : List Rule} {r : Rule}

/-- A check that takes its rules one by one gives a rule what it gives the rule alone. -/
theorem reportsOf_check {b : Bucket} (hb : b ≠ .forbidden)
    (hn : ∀ q ∈ earlier ++ later, q.head.name ≠ r.head.name) (scene : Scene) :
    reportsOf r.head.name (b.check (rulesIn b (earlier ++ r :: later)) scene) =
      b.check (rulesIn b [r]) scene := by
  have before := reportsOf_check_eq_nil (fun q hq => hn q (List.mem_append_left later hq)) b scene
  have after := reportsOf_check_eq_nil (fun q hq => hn q (List.mem_append_right earlier hq)) b scene
  have own := reportsOf_eq_self (signsAll_check_singleton b r scene)
  rw [Bucket.check_eq_flatMap hb] at before after own ⊢
  rw [← List.singleton_append, rulesIn_append, rulesIn_append, List.flatMap_append,
    List.flatMap_append, reportsOf, List.filter_append, List.filter_append]
  rw [reportsOf] at before after own
  rw [before, after, own, List.nil_append, List.append_nil, Bucket.check_eq_flatMap hb]

/-- A rule that does not go into a bucket gets nothing from its check, alone or not. -/
theorem reportsOf_check_of_typedIn?_eq_none {b : Bucket} (hr : r.typedIn? b = none)
    (hn : ∀ q ∈ earlier ++ later, q.head.name ≠ r.head.name) (scene : Scene) :
    reportsOf r.head.name (b.check (rulesIn b (earlier ++ r :: later)) scene) =
      b.check (rulesIn b [r]) scene := by
  have others : rulesIn b (earlier ++ r :: later) = rulesIn b (earlier ++ later) := by
    rw [← List.singleton_append, rulesIn_append, rulesIn_append, rulesIn_append, rulesIn_singleton,
      hr, Option.toList_none, List.nil_append]
  rw [others, reportsOf_check_eq_nil hn, rulesIn_singleton, hr, Option.toList_none,
    Bucket.check_nil]

/-! ### First match among forbidden dependencies -/

/-- Among rules of other names, a rule is the first match exactly when it matches and no rule before
it does. -/
theorem filter_find?_name {p : Typed EdgeRule → Bool} {t : Typed EdgeRule} :
    ∀ {earlier later : List (Typed EdgeRule)},
      (∀ q ∈ earlier ++ later, q.head.name ≠ t.head.name) →
      ((earlier ++ t :: later).find? p).filter (fun q => q.head.name = t.head.name) =
        if p t && !earlier.any p then some t else none
  | [], later, hn => by
    cases hp : p t with
    | true => simp [hp]
    | false =>
      -- what a later rule matches bears that rule's name
      simp only [List.nil_append, List.find?_cons, hp, Bool.false_and, Bool.false_eq_true, if_false]
      refine Option.filter_eq_none_iff.mpr fun q hq => ?_
      simpa using hn q (List.mem_of_find?_eq_some hq)
  | q :: earlier, later, hn => by
    have ih := filter_find?_name (p := p) (t := t) fun q' hq' =>
      hn q' (List.mem_cons_of_mem q hq')
    cases hp : p q with
    | true => simpa [List.find?_cons, hp] using hn q List.mem_cons_self
    | false => simpa [List.find?_cons, hp] using ih

/-- The dependencies a rule reports are those it covers and no earlier rule does. -/
theorem reportsOf_forbidden {earlier later : List (Typed EdgeRule)} {t : Typed EdgeRule}
    (hn : ∀ q ∈ earlier ++ later, q.head.name ≠ t.head.name) (g : FileGraph) :
    reportsOf t.head.name (Check.forbidden (earlier ++ t :: later) g) =
      ((g.edges.filter fun e => Check.EdgeRule.covers t.body e.1 e.2).filter fun e =>
        !earlier.any fun q => Check.EdgeRule.covers q.body e.1 e.2).map fun e =>
          Check.forbiddenViolation t.head e.1 e.2 := by
  rw [forbidden_eq_edges, reportsOf, List.filter_filterMap, List.filter_filter,
    ← List.filterMap_eq_map, List.filterMap_filter]
  refine List.filterMap_congr fun e _ => ?_
  have first := filter_find?_name (p := fun q => Check.EdgeRule.covers q.body e.1 e.2) hn
  have names : (fun v : Violation => decide (v.ruleName = t.head.name)) ∘ (fun q : Typed EdgeRule =>
      Check.forbiddenViolation q.head e.1 e.2) = fun q => decide (q.head.name = t.head.name) := rfl
  rw [Option.filter_map, names, first, Bool.and_comm]
  split <;> rfl

end

theorem forbids_eq_any (r : Rule) (e : FileNode × FileNode) :
    r.forbids e = (r.typedIn? .forbidden).any fun t => Check.EdgeRule.covers t.body e.1 e.2 := by
  obtain ⟨head, kind⟩ := r
  cases kind with
  | forbidden body =>
    obtain ⟨source, target⟩ := body
    cases target <;> rfl
  | _ => rfl

theorem any_rulesIn_forbidden (rules : List Rule) (e : FileNode × FileNode) :
    (rulesIn .forbidden rules).any (fun t => Check.EdgeRule.covers t.body e.1 e.2) =
      rules.any fun r => r.forbids e := by
  induction rules with
  | nil => rfl
  | cons r rules ih =>
    rw [← List.singleton_append, rulesIn_append, List.any_append, List.any_append, ih,
      rulesIn_singleton, List.any_cons, List.any_nil, Bool.or_false, forbids_eq_any]
    cases r.typedIn? .forbidden <;> simp

/-! ### Whole runs -/

theorem reportsOf_run (name : String) (rules : List Rule) (scene : Scene) :
    reportsOf name ((RuleSet.ofRules rules).run scene) =
      Bucket.reported.flatMap fun b => reportsOf name (b.check (rulesIn b rules) scene) := by
  rw [run_ofRules, meaning, reportsOf, List.filter_flatMap]
  rfl

/-- Only the check of forbidden dependencies has anything to say of a rule that goes there. -/
theorem flatMap_reported_of_forbidden {f : Bucket → List Violation}
    (h : ∀ b ≠ Bucket.forbidden, f b = []) : Bucket.reported.flatMap f = f .forbidden := by
  simp [Bucket.reported, h]

theorem typedIn?_of_ne_forbidden {head : RuleHead} {source target : RoleSelector} {b : Bucket}
    (hb : b ≠ .forbidden) :
    Rule.typedIn? ⟨head, .forbidden ⟨source, .roles target⟩⟩ b = none := by
  cases b <;> first | rfl | exact absurd rfl hb

theorem reportsOf_run_singleton (r : Rule) (scene : Scene) :
    reportsOf r.head.name ((RuleSet.ofRules [r]).run scene) = (RuleSet.ofRules [r]).run scene := by
  rw [reportsOf_run, run_ofRules, meaning]
  exact List.flatMap_congr fun b _ => reportsOf_eq_self (signsAll_check_singleton b r scene)

/-- What a rule that forbids dependencies between roles reports among others. -/
theorem reportsOf_run_of_forbidden {earlier later : List Rule} {r : Rule}
    {source target : RoleSelector} (hr : r.kind = .forbidden ⟨source, .roles target⟩)
    (hn : ∀ q ∈ earlier ++ later, q.head.name ≠ r.head.name) (scene : Scene) :
    reportsOf r.head.name ((RuleSet.ofRules (earlier ++ r :: later)).run scene) =
      (((FileGraph.ofSymbols scene.symbols).edges.filter r.forbids).filter fun e =>
        !earlier.any fun q => q.forbids e).map fun e =>
          Check.forbiddenViolation r.head e.1 e.2 := by
  obtain ⟨head, kind⟩ := r
  cases hr
  have elsewhere : ∀ b ≠ Bucket.forbidden, reportsOf head.name
      (b.check (rulesIn b (earlier ++ ⟨head, .forbidden ⟨source, .roles target⟩⟩ :: later)) scene) =
        [] := by
    intro b hb
    rw [reportsOf_check hb hn, rulesIn_singleton, typedIn?_of_ne_forbidden hb, Option.toList_none,
      Bucket.check_nil]
  have sorted : rulesIn .forbidden
      (earlier ++ ⟨head, .forbidden ⟨source, .roles target⟩⟩ :: later) =
        rulesIn .forbidden earlier ++ ⟨head, ⟨source, target⟩⟩ :: rulesIn .forbidden later := by
    rw [← List.singleton_append, rulesIn_append, rulesIn_append, rulesIn_singleton]
    rfl
  have hn' : ∀ q ∈ rulesIn .forbidden earlier ++ rulesIn .forbidden later,
      q.head.name ≠ head.name := by
    intro q hq
    rw [← rulesIn_append] at hq
    obtain ⟨r, hr, he⟩ := exists_head_of_mem_rulesIn hq
    exact he ▸ hn r hr
  rw [reportsOf_run, flatMap_reported_of_forbidden elsewhere, sorted]
  refine (reportsOf_forbidden (t := ⟨head, ⟨source, target⟩⟩) hn' _).trans ?_
  have claimed : (fun e : FileNode × FileNode => !(rulesIn .forbidden earlier).any fun q =>
      Check.EdgeRule.covers q.body e.1 e.2) = fun e => !earlier.any fun q => q.forbids e :=
    funext fun e => congrArg not (any_rulesIn_forbidden earlier e)
  exact congrArg (fun p => (List.filter p _).map _) claimed

/-- With distinct names, a rule reports within any list of rules what it reports alone, except that
a forbidden dependency goes to the first rule that forbids it. -/
theorem rules_do_not_interfere (earlier later : List Rule) (r : Rule) (scene : Scene)
    (hnames : ((earlier ++ r :: later).map fun q => q.head.name).Nodup) :
    ((∀ source target, r.kind ≠ .forbidden ⟨source, .roles target⟩) →
      reportsOf r.head.name ((RuleSet.ofRules (earlier ++ r :: later)).run scene) =
        (RuleSet.ofRules [r]).run scene) ∧
    ∀ source target, r.kind = .forbidden ⟨source, .roles target⟩ →
      (RuleSet.ofRules [r]).run scene =
        ((FileGraph.ofSymbols scene.symbols).edges.filter r.forbids).map
          (fun e => Check.forbiddenViolation r.head e.1 e.2) ∧
      reportsOf r.head.name ((RuleSet.ofRules (earlier ++ r :: later)).run scene) =
        (((FileGraph.ofSymbols scene.symbols).edges.filter r.forbids).filter fun e =>
          !earlier.any fun q => q.forbids e).map
          fun e => Check.forbiddenViolation r.head e.1 e.2 := by
  have hn : ∀ q ∈ earlier ++ later, q.head.name ≠ r.head.name := by
    rw [List.map_append, List.map_cons, List.nodup_middle, List.nodup_cons,
      ← List.map_append] at hnames
    exact fun q hq he => hnames.1 (List.mem_map.mpr ⟨q, hq, he⟩)
  refine ⟨fun hr => ?_, fun source target hr => ⟨?_, reportsOf_run_of_forbidden hr hn scene⟩⟩
  · rw [reportsOf_run, run_ofRules]
    refine List.flatMap_congr fun b _ => ?_
    rcases eq_or_ne b .forbidden with rfl | hb
    · have elsewhere : r.typedIn? .forbidden = none := typedIn?_eq_none fun body => hr _ _
      exact reportsOf_check_of_typedIn?_eq_none elsewhere hn scene
    · exact reportsOf_check hb hn scene
  · have noOthers : ∀ q ∈ ([] ++ [] : List Rule), q.head.name ≠ r.head.name :=
      fun q hq => absurd hq List.not_mem_nil
    have alone := reportsOf_run_of_forbidden hr noOthers scene
    rw [List.nil_append, reportsOf_run_singleton] at alone
    simpa using alone

/-- Two rules forbid one dependency, and the first of them reports it. -/
theorem shared_dependency_goes_to_first_rule :
    let closed : Rule := ⟨⟨"closed", .error, none⟩, .forbidden ⟨.one "A", .roles .all⟩⟩
    let noB : Rule := ⟨⟨"no-b", .error, none⟩, .forbidden ⟨.all, .roles (.one "B")⟩⟩
    let small : Rule := ⟨⟨"small", .warning, none⟩, .fileSize ⟨.all, 1⟩⟩
    let scene : Scene :=
      { symbols := [⟨"a.ts", "a", "A", ["b.ts"], .wholeFile⟩, ⟨"b.ts", "b", "B", [], .wholeFile⟩,
          ⟨"c.ts", "c", "C", ["b.ts"], .wholeFile⟩]
        files := ⟨fun _ => .ok "first\nsecond", fun _ => true⟩ }
    ([closed, noB, small].map fun q => q.head.name).Nodup ∧
    ((RuleSet.ofRules [noB]).run scene).map Violation.file = ["a.ts", "c.ts"] ∧
    (reportsOf "no-b" ((RuleSet.ofRules [closed, noB, small]).run scene)).map Violation.file =
      ["c.ts"] ∧
    reportsOf "small" ((RuleSet.ofRules [closed, noB, small]).run scene) =
      (RuleSet.ofRules [small]).run scene := by
  intro closed noB small scene
  have names : ([closed, noB, small].map fun q => q.head.name).Nodup := by decide
  obtain ⟨alone, among⟩ := (rules_do_not_interfere [closed] [small] noB scene names).2 _ _ rfl
  have others := (rules_do_not_interfere [closed, noB] [] small scene names).1
    fun _ _ h => nomatch h
  refine ⟨names, ?_, ?_, others⟩
  · rw [alone]; decide
  · exact (congrArg (List.map Violation.file) among).trans (by decide)

end ArchLint
