import ArchLint.Analysis
import ArchLint.Proofs.Distinct

/-!
Repetitions dropped batch by batch. Sifting twice is sifting once by the keys that either time were
used up (`freshBy_freshBy`), so a batch that is sifted beforehand leaves behind any other what it
would have left as it was (`alike_distinctBy`). It does not matter therefore whether the repetitions
of a run are dropped within every family of checks first, or only in the end from all that is
reported: what remains is the same, in the same order.
-/

namespace ArchLint

variable {α κ : Type} [DecidableEq κ] {key : α → κ}

/-! ### Sifting twice -/

/-- More used up keys only take away what has one of them. -/
theorem freshBy_append_seen (seen : List κ) : ∀ (done : List κ) (xs : List α),
    freshBy key (seen ++ done) xs = (freshBy key done xs).filter fun x => key x ∉ seen
  | _, [] => rfl
  | done, x :: xs => by
    by_cases old : key x ∈ done
    · rw [freshBy_cons_of_mem xs old, freshBy_cons_of_mem xs (List.mem_append_right seen old),
        freshBy_append_seen seen]
    · -- from here on the key of `x` is used up, whether `x` stays or goes
      have later : freshBy key (key x :: (seen ++ done)) xs =
          (freshBy key (key x :: done) xs).filter fun y => key y ∉ seen := by
        rw [← freshBy_append_seen seen]
        exact freshBy_congr fun y _ => by simp only [List.mem_cons, List.mem_append, or_left_comm]
      rw [freshBy_cons_of_notMem xs old]
      by_cases used : key x ∈ seen
      · have same : freshBy key (seen ++ done) xs = freshBy key (key x :: (seen ++ done)) xs :=
          freshBy_congr fun y _ => by
            rw [List.mem_cons, or_iff_right_of_imp]
            exact fun hy => hy ▸ List.mem_append_left done used
        rw [freshBy_cons_of_mem xs (List.mem_append_left done used),
          List.filter_cons_of_neg (by simpa using used), same, later]
      · have fresh : key x ∉ seen ++ done := fun h => (List.mem_append.mp h).elim used old
        rw [freshBy_cons_of_notMem xs fresh, List.filter_cons_of_pos (by simpa using used), later]

theorem freshBy_eq_filter_distinctBy (seen : List κ) (xs : List α) :
    freshBy key seen xs = (distinctBy key xs).filter fun x => key x ∉ seen := by
  rw [distinctBy, ← freshBy_append_seen, List.append_nil]

/-- Sifting twice is sifting once. -/
theorem freshBy_freshBy (seen done : List κ) (xs : List α) :
    freshBy key seen (freshBy key done xs) = freshBy key (seen ++ done) xs := by
  rw [freshBy_eq_filter_distinctBy, distinctBy_eq_self (nodup_keys_freshBy done xs),
    freshBy_append_seen]

/-! ### Batches -/

/-- A batch contributes what it contributes when it is sifted first. -/
theorem alike_distinctBy (xs : List α) : Alike key (distinctBy key xs) xs := fun seen => by
  rw [distinctBy, freshBy_freshBy, List.append_nil]

/-- A batch behind another adds what has none of the keys there. -/
theorem distinctBy_append (xs ys : List α) :
    distinctBy key (xs ++ ys) =
      distinctBy key xs ++ (distinctBy key ys).filter fun y => key y ∉ xs.map key := by
  rw [distinctBy, freshBy_append, List.append_nil, freshBy_eq_filter_distinctBy (xs.map key)]
  rfl

theorem distinctBy_distinctBy_append (xs ys : List α) :
    distinctBy key (distinctBy key xs ++ ys) = distinctBy key (xs ++ ys) :=
  ((alike_distinctBy xs).append (.refl ys)).distinctBy_eq

theorem distinctBy_append_distinctBy (xs ys : List α) :
    distinctBy key (distinctBy key xs ++ distinctBy key ys) = distinctBy key (xs ++ ys) :=
  ((alike_distinctBy xs).append (alike_distinctBy ys)).distinctBy_eq

theorem distinctBy_flatMap_distinctBy {ι : Type} (f : ι → List α) (is : List ι) :
    distinctBy key (is.flatMap fun i => distinctBy key (f i)) = distinctBy key (is.flatMap f) :=
  (Alike.flatMap fun i _ => alike_distinctBy (f i)).distinctBy_eq

/-! ### Violations of a run -/

open Violation (dedup)

/-- What a run reports may be rid of repetitions family by family beforehand. -/
theorem violations_run_eq_dedup_families (a : Analysis) (symbols : List Symbol) :
    (a.run symbols).violations =
      let rules := RuleSet.ofRules a.activeRules
      let scene := a.scene rules (assignRoles a.grammar.roles symbols)
      dedup (rules.families.flatMap fun f => dedup (f.check rules scene)) :=
  (distinctBy_flatMap_distinctBy _ _).symm

/-- Dropping repetitions keeps a part of the violations in order, and doing it again drops nothing.
Of two lists the second adds what has no key of the first, so one may drop the repetitions in either
part beforehand, in any number of parts, and in the reports of the families of a run. -/
theorem repetitions_are_dropped_in_any_grouping :
    (∀ xs : List Violation, (dedup xs).Sublist xs ∧ dedup (dedup xs) = dedup xs) ∧
    (∀ v : Violation, dedup [v] = [v]) ∧
    (∀ xs ys : List Violation,
      dedup (xs ++ ys) = dedup xs ++ (dedup ys).filter (fun v => v.key ∉ xs.map Violation.key) ∧
      dedup (xs ++ ys) = dedup (dedup xs ++ ys) ∧
      dedup (xs ++ ys) = dedup (dedup xs ++ dedup ys)) ∧
    (∀ batches : List (List Violation), dedup (batches.flatMap dedup) = dedup batches.flatten) ∧
    ∀ (a : Analysis) (symbols : List Symbol),
      (a.run symbols).violations =
        let rules := RuleSet.ofRules a.activeRules
        let scene := a.scene rules (assignRoles a.grammar.roles symbols)
        dedup (rules.families.flatMap fun f => dedup (f.check rules scene)) := by
  refine ⟨fun xs => ⟨freshBy_sublist [] xs, distinctBy_distinctBy xs⟩, fun v => rfl, fun xs ys => ?_,
    fun batches => ?_, violations_run_eq_dedup_families⟩
  · exact ⟨distinctBy_append xs ys, (distinctBy_distinctBy_append xs ys).symm,
      (distinctBy_append_distinctBy xs ys).symm⟩
  · rw [← List.flatMap_id]
    exact distinctBy_flatMap_distinctBy id batches

end ArchLint
