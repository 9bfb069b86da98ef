import ArchLint.Proofs.Meaning
import Mathlib.Data.List.Nodup
import Mathlib.Data.List.Perm.Basic

/-!
Sorting rules loses nothing. A rule has one bucket (`Rule.bucket`), and can be restored from what is
put there (`typedIn?_eq_some_iff`), so a set of rules can be turned back into a list of rules, in which
the rules of each bucket stand as they stood before (`filter_toRules`). A family has rules if one of its
buckets does; pushing a rule adds to one bucket and takes from none, so a family that has rules keeps
them (`isActive_push`), and only allowed dependencies belong to no family (`isEmpty_ofRules_iff`).
-/

namespace ArchLint

/-! ### The bucket of a rule -/

/-- The bucket for a kind of rule. Forbidden dependencies and forbidden cycles are apart. -/
def RuleKind.bucket : RuleKind → Bucket
  | .naming _ => .naming
  | .forbidden ⟨_, .roles _⟩ => .forbidden
  | .forbidden ⟨_, .cycle⟩ => .circular
  | .required _ => .required
  | .allowed _ => .allowed
  | .synonyms _ => .synonyms
  | .unreferenced _ => .unreferenced
  | .fileSize _ => .fileSize
  | .testCoverage _ => .testCoverage
  | .keywords _ => .keywords
  | .layout _ => .layout
  | .documentation _ => .documentation
  | .complexity _ => .complexity
  | .testRatio _ => .testRatio
  | .granularity _ => .granularity
  | .content _ => .content
  | .barrel _ => .barrel

def Rule.bucket (r : Rule) : Bucket := r.kind.bucket

namespace Bucket

/-- All buckets, those that are reported on first. -/
def all : List Bucket := reported ++ [allowed]

theorem mem_all (b : Bucket) : b ∈ all := by
  cases b <;> decide

theorem nodup_all : all.Nodup := by decide

/-- What is in a bucket, as a rule of the grammar. -/
def restore (b : Bucket) (t : Typed b.Body) : Rule := ⟨t.head, b.kindOf t.body⟩

@[simp]
theorem bucket_restore (b : Bucket) (t : Typed b.Body) : (b.restore t).bucket = b := by
  cases b <;> rfl

theorem exists_restore (r : Rule) : ∃ t, r.bucket.restore t = r := by
  obtain ⟨head, kind⟩ := r
  cases kind with
  | forbidden body =>
    obtain ⟨source, target | _⟩ := body
    · exact ⟨⟨head, (⟨source, target⟩ : EdgeRule)⟩, rfl⟩
    · exact ⟨⟨head, source⟩, rfl⟩
  | _ body => exact ⟨⟨head, body⟩, rfl⟩

end Bucket

/-- What goes into a bucket is the rule with its head and its demand, and nothing else goes there. -/
theorem typedIn?_eq_some_iff {r : Rule} {b : Bucket} {t : Typed b.Body} :
    r.typedIn? b = some t ↔ r = b.restore t := by
  constructor
  · intro typed
    obtain ⟨body, demand, rfl⟩ := Option.map_eq_some_iff.mp typed
    rw [Bucket.restore, ← kind_eq_kindOf demand]
  · rintro rfl
    rw [Rule.typedIn?, Bucket.restore, bodyIn?_kindOf]
    rfl

theorem Bucket.restore_injective (b : Bucket) : Function.Injective b.restore := fun _ _ same =>
  Option.some.inj ((typedIn?_eq_some_iff.mpr rfl).symm.trans (typedIn?_eq_some_iff.mpr same))

theorem map_restore_typedIn? (r : Rule) (b : Bucket) :
    (r.typedIn? b).toList.map b.restore = if r.bucket = b then [r] else [] := by
  split
  · rename_i same
    subst same
    obtain ⟨t, restored⟩ := Bucket.exists_restore r
    rw [typedIn?_eq_some_iff.mpr restored.symm, Option.toList_some, List.map_singleton, restored]
  · rename_i other
    have none : r.typedIn? b = none := Option.eq_none_iff_forall_ne_some.mpr fun t typed =>
      other (by rw [typedIn?_eq_some_iff.mp typed, Bucket.bucket_restore])
    rw [none]
    rfl

/-- A bucket holds the rules that are its own, in the order of the grammar. -/
theorem map_restore_rulesIn (b : Bucket) (rules : List Rule) :
    (rulesIn b rules).map b.restore = rules.filter fun r => r.bucket = b := by
  induction rules with
  | nil => rfl
  | cons r rules ih =>
    rw [← List.singleton_append, rulesIn_append, rulesIn_singleton, List.map_append, ih,
      map_restore_typedIn?, List.filter_append, List.filter_singleton]
    by_cases own : r.bucket = b <;> simp [own]

/-! ### Turning a set back -/

section

variable {α κ : Type} [DecidableEq κ]

/-- Taking a list apart by keys and putting it together again only moves its elements. -/
theorem flatMap_filter_perm {ks : List κ} (nodup : ks.Nodup) (key : α → κ) {xs : List α}
    (covered : ∀ x ∈ xs, key x ∈ ks) : (ks.flatMap fun k => xs.filter fun x => key x = k).Perm xs := by
  induction ks generalizing xs with
  | nil => exact .of_eq (List.eq_nil_iff_forall_not_mem.mpr fun x hx => nomatch covered x hx).symm
  | cons k ks ih =>
    obtain ⟨apart, nodup⟩ := List.nodup_cons.mp nodup
    rw [List.flatMap_cons]
    -- the other keys find their elements among those that the first key leaves
    have others : ks.flatMap (fun l => xs.filter fun x => key x = l) =
        ks.flatMap fun l => (xs.filter fun x => !decide (key x = k)).filter fun x => key x = l := by
      refine List.flatMap_congr fun l hl => ?_
      rw [List.filter_filter]
      refine List.filter_congr fun x _ => ?_
      by_cases same : key x = l
      · simp [same, ne_of_mem_of_not_mem hl apart]
      · simp [same]
    have left : ∀ x ∈ xs.filter fun x => !decide (key x = k), key x ∈ ks := fun x hx => by
      obtain ⟨hx, other⟩ := List.mem_filter.mp hx
      exact (List.mem_cons.mp (covered x hx)).resolve_left (by simpa using other)
    rw [others]
    exact ((ih nodup left).append_left _).trans (List.filter_append_perm _ _)

omit [DecidableEq κ] in
/-- Of lists that are put together, a filter leaves one if it leaves nothing of the others. -/
theorem filter_flatMap_eq {ks : List κ} (nodup : ks.Nodup) {k : κ} (hk : k ∈ ks) {f : κ → List α}
    {p : α → Bool} (own : ∀ x ∈ f k, p x = true) (others : ∀ l ≠ k, ∀ x ∈ f l, p x = false) :
    (ks.flatMap f).filter p = f k := by
  obtain ⟨before, after, rfl⟩ := List.append_of_mem hk
  have nothing : ∀ ls : List κ, k ∉ ls → (ls.flatMap f).filter p = [] := by
    intro ls apart
    refine List.filter_eq_nil_iff.mpr fun x hx => ?_
    obtain ⟨l, hl, hx⟩ := List.mem_flatMap.mp hx
    simp [others l (ne_of_mem_of_not_mem hl apart) x hx]
  have apart := List.nodup_middle.mp nodup
  have outside := (List.nodup_cons.mp apart).1
  rw [List.mem_append, not_or] at outside
  rw [List.flatMap_append, List.flatMap_cons, List.filter_append, List.filter_append,
    nothing before outside.1, nothing after outside.2, List.filter_eq_self.mpr own,
    List.nil_append, List.append_nil]

end

/-- The rules of a set as rules of a grammar, bucket by bucket. -/
def RuleSet.toRules (s : RuleSet) : List Rule :=
  Bucket.all.flatMap fun b => (s.bucket b).map b.restore

theorem RuleSet.ext_bucket {s s' : RuleSet} (h : ∀ b, s.bucket b = s'.bucket b) : s = s' := by
  rw [RuleSet.mk.injEq]
  exact ⟨h .naming, h .forbidden, h .required, h .allowed, h .circular, h .synonyms,
    h .unreferenced, h .fileSize, h .testCoverage, h .keywords, h .layout, h .documentation,
    h .complexity, h .testRatio, h .granularity, h .content, h .barrel⟩

theorem filter_toRules_bucket (s : RuleSet) (b : Bucket) :
    s.toRules.filter (fun r => r.bucket = b) = (s.bucket b).map b.restore := by
  refine filter_flatMap_eq Bucket.nodup_all b.mem_all ?_ fun l other => ?_
  · exact List.forall_mem_map.mpr fun t _ => decide_eq_true (b.bucket_restore t)
  · exact List.forall_mem_map.mpr fun t _ => decide_eq_false (by rwa [l.bucket_restore t])

/-- Sorting again what is turned back gives the set back. -/
theorem ofRules_toRules (s : RuleSet) : RuleSet.ofRules s.toRules = s :=
  RuleSet.ext_bucket fun b => by
    refine List.map_injective_iff.mpr b.restore_injective ?_
    rw [bucket_ofRules, map_restore_rulesIn, filter_toRules_bucket]

variable (rules : List Rule)

theorem map_restore_ofRules (b : Bucket) :
    ((RuleSet.ofRules rules).bucket b).map b.restore = rules.filter fun r => r.bucket = b := by
  rw [bucket_ofRules, map_restore_rulesIn]

theorem toRules_ofRules_perm : (RuleSet.ofRules rules).toRules.Perm rules := by
  simp only [RuleSet.toRules, map_restore_ofRules]
  exact flatMap_filter_perm Bucket.nodup_all Rule.bucket fun r _ => r.bucket.mem_all

/-- The rules of one bucket come back in the order of the grammar. -/
theorem filter_toRules (b : Bucket) :
    (RuleSet.ofRules rules).toRules.filter (fun r => r.bucket = b) =
      rules.filter fun r => r.bucket = b := by
  rw [filter_toRules_bucket, map_restore_ofRules]

theorem word_bucket (r : Rule) : r.bucket.word = r.kind.word := by
  obtain ⟨t, restored⟩ := Bucket.exists_restore r
  calc
    r.bucket.word = (r.bucket.kindOf t.body).word := (word_kindOf t.body).symm
    _ = r.kind.word := congrArg (fun r : Rule => r.kind.word) restored

/-- Only the two kinds of forbidden dependencies share a word. -/
theorem bucket_eq_of_word_eq {b b' : Bucket} (same : b.word = b'.word) (h : b.word ≠ "forbidden") :
    b = b' := by
  revert same h
  cases b <;> cases b' <;> decide

/-- The rules of one word come back in the order of the grammar, unless the word has two buckets. -/
theorem filter_word_toRules {word : String} (h : word ≠ "forbidden") :
    (RuleSet.ofRules rules).toRules.filter (fun r => r.kind.word = word) =
      rules.filter fun r => r.kind.word = word := by
  by_cases known : ∃ b : Bucket, b.word = word
  · obtain ⟨b, rfl⟩ := known
    -- the word of any other kind tells its bucket
    have byBucket : (fun r : Rule => decide (r.kind.word = b.word)) = fun r => decide (r.bucket = b) := by
      funext r
      rw [← word_bucket]
      exact decide_eq_decide.mpr ⟨fun same => (bucket_eq_of_word_eq same.symm h).symm, fun same => same ▸ rfl⟩
    rw [byBucket, filter_toRules]
  · have nothing : ∀ r : Rule, ¬ decide (r.kind.word = word) = true := fun r same =>
      known ⟨r.bucket, (word_bucket r).trans (of_decide_eq_true same)⟩
    rw [List.filter_eq_nil_iff.mpr fun r _ => nothing r, List.filter_eq_nil_iff.mpr fun r _ => nothing r]

/-! ### Families with rules -/

/-- The buckets that the checks of a family look into. -/
def Family.buckets : Family → List Bucket
  | naming => [.naming]
  | dependency => [.forbidden, .required, .circular]
  | hygiene => [.synonyms, .unreferenced]
  | fileMetrics => [.fileSize, .testCoverage, .documentation, .complexity, .granularity]
  | codePattern => [.keywords, .content, .barrel]
  | layout => [.layout, .testRatio]

theorem isActive_eq_any (s : RuleSet) (f : Family) :
    f.isActive s = f.buckets.any fun b => !(s.bucket b).isEmpty := by
  cases f <;> simp [Family.isActive, Family.buckets, RuleSet.bucket, RuleSet.hasNaming,
    RuleSet.hasDependency, RuleSet.hasHygiene, RuleSet.hasFileMetrics, RuleSet.hasCodePattern,
    RuleSet.hasStructure, Bool.or_assoc]

/-- A rule adds itself to its bucket. -/
theorem isEmpty_bucket_push (s : RuleSet) (r : Rule) (b : Bucket) :
    (!((s.push r).bucket b).isEmpty) = (!(s.bucket b).isEmpty || decide (r.bucket = b)) := by
  have added : (r.typedIn? b).toList.isEmpty = !decide (r.bucket = b) := by
    rw [← List.isEmpty_map (f := b.restore), map_restore_typedIn?]
    by_cases own : r.bucket = b <;> simp [own]
  rw [bucket_push]
  cases s.bucket b with
  | nil => rw [List.nil_append, added, Bool.not_not, List.isEmpty_nil, Bool.not_true, Bool.false_or]
  | cons t ts => rfl

/-- After a rule is pushed, a family has rules if it had some before or the rule is its own. -/
theorem isActive_push (s : RuleSet) (r : Rule) (f : Family) :
    f.isActive (s.push r) = (f.isActive s || decide (r.bucket ∈ f.buckets)) := by
  simp only [isActive_eq_any, isEmpty_bucket_push]
  induction f.buckets with
  | nil => rfl
  | cons b bs ih =>
    simp only [List.any_cons, ih, List.mem_cons, Bool.decide_or]
    ac_rfl

theorem isActive_foldl_push (f : Family) (s : RuleSet) :
    f.isActive (rules.foldl RuleSet.push s) =
      (f.isActive s || rules.any fun r => decide (r.bucket ∈ f.buckets)) := by
  induction rules generalizing s with
  | nil => rw [List.foldl_nil, List.any_nil, Bool.or_false]
  | cons r rules ih => rw [List.foldl_cons, ih, isActive_push, List.any_cons, Bool.or_assoc]

/-- A family has rules if one of the rules is its own. -/
theorem isActive_ofRules_iff (f : Family) :
    f.isActive (RuleSet.ofRules rules) = true ↔ ∃ r ∈ rules, r.bucket ∈ f.buckets := by
  have none : f.isActive {} = false := by cases f <;> rfl
  rw [RuleSet.ofRules, isActive_foldl_push, none, Bool.false_or]
  simp

theorem families_eq_nil_iff (s : RuleSet) : s.families = [] ↔ s.isEmpty = true := by
  simp [RuleSet.families, Family.all, RuleSet.isEmpty, Family.isActive, List.filter_eq_nil_iff,
    and_assoc]

theorem mem_families_iff (s : RuleSet) (f : Family) : f ∈ s.families ↔ f.isActive s = true := by
  have listed : f ∈ Family.all := by cases f <;> decide
  rw [RuleSet.families, List.mem_filter, and_iff_right listed]

/-- Every bucket but one belongs to a family. -/
theorem exists_mem_buckets_iff (b : Bucket) : (∃ f : Family, b ∈ f.buckets) ↔ b ≠ .allowed := by
  constructor
  · rintro ⟨f, hf⟩ rfl
    revert hf
    cases f <;> decide
  · intro h
    cases b with
    | allowed => exact absurd rfl h
    | naming => exact ⟨.naming, by decide⟩
    | forbidden | required | circular => exact ⟨.dependency, by decide⟩
    | synonyms | unreferenced => exact ⟨.hygiene, by decide⟩
    | fileSize | testCoverage | documentation | complexity | granularity =>
      exact ⟨.fileMetrics, by decide⟩
    | keywords | content | barrel => exact ⟨.codePattern, by decide⟩
    | layout | testRatio => exact ⟨.layout, by decide⟩

theorem bucket_eq_allowed_iff (r : Rule) : r.bucket = .allowed ↔ ∃ body, r.kind = .allowed body := by
  constructor
  · intro h
    obtain ⟨t, restored⟩ := Bucket.exists_restore r
    rw [← restored]
    revert t
    rw [h]
    exact fun t _ => ⟨t.body, rfl⟩
  · rintro ⟨body, h⟩
    rw [Rule.bucket, h]
    rfl

/-- There is nothing to check just when all rules are allowed dependencies. -/
theorem isEmpty_ofRules_iff :
    (RuleSet.ofRules rules).isEmpty = true ↔ ∀ r ∈ rules, ∃ body, r.kind = .allowed body := by
  rw [← families_eq_nil_iff, List.eq_nil_iff_forall_not_mem]
  simp only [mem_families_iff, isActive_ofRules_iff, not_exists, not_and]
  constructor
  · intro none r hr
    refine (bucket_eq_allowed_iff r).mp ?_
    by_contra reported
    obtain ⟨f, hf⟩ := (exists_mem_buckets_iff r.bucket).mpr reported
    exact none f r hr hf
  · intro allowed f r hr hf
    exact (exists_mem_buckets_iff r.bucket).mp ⟨f, hf⟩ ((bucket_eq_allowed_iff r).mpr (allowed r hr))

/-- Each bucket holds its own rules as they are, in the order of the grammar, and all buckets together
are the grammar up to order; the rules of a bucket come back in order, and so do those of a kind, except
that forbidden dependencies and forbidden cycles are apart. A family that has rules keeps them when
others are pushed, there is nothing to check just when all rules pushed are allowed dependencies, and
the families of a set are those that have rules, in their fixed order. -/
theorem rules_are_sorted_without_loss :
    (∀ rules : List Rule,
      (∀ b, ((RuleSet.ofRules rules).bucket b).map b.restore = rules.filter fun r => r.bucket = b) ∧
      (RuleSet.ofRules rules).toRules.Perm rules ∧
      (∀ b, (RuleSet.ofRules rules).toRules.filter (fun r => r.bucket = b) =
        rules.filter fun r => r.bucket = b) ∧
      ∀ word ≠ "forbidden", (RuleSet.ofRules rules).toRules.filter (fun r => r.kind.word = word) =
        rules.filter fun r => r.kind.word = word) ∧
    (∀ s : RuleSet, RuleSet.ofRules s.toRules = s) ∧
    (∀ (s : RuleSet) (r : Rule) (f : Family), f.isActive s = true → f.isActive (s.push r) = true) ∧
    (∀ rules : List Rule,
      (∀ f : Family, f.isActive (RuleSet.ofRules rules) = true ↔ ∃ r ∈ rules, r.bucket ∈ f.buckets) ∧
      ((RuleSet.ofRules rules).isEmpty = true ↔ ∀ r ∈ rules, ∃ body, r.kind = .allowed body)) ∧
    ∀ s : RuleSet, s.families.Sublist Family.all ∧ Family.all.Nodup ∧
      (∀ f, f ∈ s.families ↔ f.isActive s = true) ∧ (s.families = [] ↔ s.isEmpty = true) := by
  refine ⟨fun rules => ?_, ofRules_toRules, fun s r f active => ?_, fun rules => ?_, fun s => ?_⟩
  · exact ⟨map_restore_ofRules rules, toRules_ofRules_perm rules, filter_toRules rules,
      fun _ => filter_word_toRules rules⟩
  · rw [isActive_push, active, Bool.true_or]
  · exact ⟨isActive_ofRules_iff rules, isEmpty_ofRules_iff rules⟩
  · exact ⟨List.filter_sublist, by decide, mem_families_iff s, families_eq_nil_iff s⟩

/-- Five rules in four buckets: the forbidden cycle comes back behind the forbidden dependency, the
rules of each bucket stay in order, and an allowed dependency alone leaves nothing to check. -/
theorem five_rules_are_sorted_without_loss :
    let acyclic : Rule := ⟨⟨"acyclic", .error, none⟩, .forbidden ⟨.all, .cycle⟩⟩
    let small : Rule := ⟨⟨"small", .warning, some "see"⟩, .fileSize ⟨.all, 9⟩⟩
    let fine : Rule := ⟨⟨"fine", .error, none⟩, .allowed ⟨.one "A", .one "B"⟩⟩
    let layers : Rule := ⟨⟨"layers", .error, none⟩, .forbidden ⟨.one "A", .roles (.one "B")⟩⟩
    let tiny : Rule := ⟨⟨"tiny", .info, none⟩, .fileSize ⟨.one "A", 5⟩⟩
    let rules := [acyclic, small, fine, layers, tiny]
    (RuleSet.ofRules rules).toRules = [layers, acyclic, small, tiny, fine] ∧
    [layers, acyclic, small, tiny, fine].Perm rules ∧
    "file_size" ≠ "forbidden" ∧
    ((RuleSet.ofRules rules).toRules.filter fun r => r.kind.word = "file_size") =
      rules.filter (fun r => r.kind.word = "file_size") ∧
    Family.isActive (RuleSet.ofRules [small]) .fileMetrics = true ∧
    Family.isActive ((RuleSet.ofRules [small]).push layers) .fileMetrics = true ∧
    (RuleSet.ofRules [fine]).isEmpty = true ∧ (RuleSet.ofRules [fine]).families = [] := by
  intro acyclic small fine layers tiny rules
  have back : (RuleSet.ofRules rules).toRules = [layers, acyclic, small, tiny, fine] := rfl
  have other : "file_size" ≠ "forbidden" := by decide
  have active : Family.isActive (RuleSet.ofRules [small]) .fileMetrics = true := rfl
  obtain ⟨sorted, -, kept, pushed, families⟩ := rules_are_sorted_without_loss
  obtain ⟨-, perm, -, words⟩ := sorted rules
  have nothing : (RuleSet.ofRules [fine]).isEmpty = true :=
    (pushed [fine]).2.mpr (List.forall_mem_singleton.mpr ⟨_, rfl⟩)
  exact ⟨back, back ▸ perm, other, words _ other, active, kept _ layers _ active, nothing,
    (families _).2.2.2.mpr nothing⟩

end ArchLint
