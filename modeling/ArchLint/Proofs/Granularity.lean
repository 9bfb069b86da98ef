import ArchLint.Proofs.Acceptance
import ArchLint.Proofs.Quotient
import ArchLint.Proofs.SymbolOrder
import ArchLint.Proofs.Synonyms
import Mathlib.Algebra.BigOperators.Ring.Finset

/-!
Average file lengths. The files that count are those of the scope that can be read, one for each path
(`Scene.readable`): their number is the divisor and stands in the message, and their lengths make up
the sum (`sum_lengths`, `length_lengths`). As the numbers of an accepted rule are positive, the check
compares as exact arithmetic would, with each result rounded (`granularity_eq_granularityIn`), and
rounding keeps the order; only an average that comes out as the limit itself is passed where the
exact one may be above it.
-/

namespace ArchLint

/-- The paths with a symbol of a selected role whose files can be read. -/
def Scene.readable (scene : Scene) (scope : RoleSelector) : Finset String :=
  ((scene.symbols.filter fun s => scope.selects s.role).map Symbol.path).toFinset.filter
    fun path => (scene.text? path).isSome = true

/-- How many lines there are at a path. -/
def Scene.linesAt (scene : Scene) (path : String) : Nat := ((scene.text? path).map lineCount).getD 0

/-- An average is above the product of target and tolerance, which is rounded by `r`; none is above
an infinite one. -/
def GranularityRule.IsExceeded (rule : GranularityRule) (r : ℚ → ℚ) (average : ℚ) : Prop :=
  rule.target.isFinite = true ∧ rule.tolerance.isFinite = true ∧
    r (rule.target.toRat * rule.tolerance.toRat) < average

instance (rule : GranularityRule) (r : ℚ → ℚ) (average : ℚ) :
    Decidable (rule.IsExceeded r average) :=
  inferInstanceAs (Decidable (_ ∧ _))

namespace Check

/-- The average of lengths, where each number and each result is rounded by `r`. -/
def averageIn (r : ℚ → ℚ) (lines : List Nat) : ℚ := r (r lines.sum / r lines.length)

/-- The check of the average, where numbers are rounded by `r`. -/
def granularityIn (r : ℚ → ℚ) (rule : Typed GranularityRule) (scene : Scene) : List Violation :=
  let lines := lengths scene rule.body.scope
  if lines ≠ [] ∧ rule.body.IsExceeded r (averageIn r lines) then
    [rule.head.violation projectFile (granularityFinding rule.body lines)]
  else []

/-- A quotient, unless the divisor is zero. -/
def divided? (x y : Binary64) : Option Binary64 := if y.isZero then none else some (x.div y)

/-- The check of the average with a division that may fail. -/
def granularity? (rule : Typed GranularityRule) (scene : Scene) : Option (List Violation) :=
  let lines := lengths scene rule.body.scope
  if lines.isEmpty then some []
  else (divided? (.ofNat lines.sum) (.ofNat lines.length)).map fun average =>
    if average.le (rule.body.target.mul rule.body.tolerance) then []
    else [rule.head.violation projectFile (granularityFinding rule.body lines)]

variable {scene : Scene} {scope : RoleSelector} {rule : Typed GranularityRule}

/-! ### Files that count -/

theorem mem_readable {path : String} :
    path ∈ scene.readable scope ↔ scene.Selects scope path ∧ (scene.text? path).isSome = true := by
  rw [Scene.readable, Finset.mem_filter, List.mem_toFinset, ← mem_filePaths, filePaths,
    Scene.filesOf, firstPerFile, mem_keys_distinctBy]

/-- The paths that count, in the order in which they are looked at. -/
def readablePaths (scene : Scene) (scope : RoleSelector) : List String :=
  (filePaths scene scope).filter fun path => (scene.text? path).isSome

theorem nodup_readablePaths (scene : Scene) (scope : RoleSelector) :
    (readablePaths scene scope).Nodup :=
  (nodup_filePaths scene scope).filter _

theorem toFinset_readablePaths (scene : Scene) (scope : RoleSelector) :
    (readablePaths scene scope).toFinset = scene.readable scope := by
  ext path
  rw [List.mem_toFinset, readablePaths, List.mem_filter, mem_filePaths, mem_readable]

theorem lengths_eq_map (scene : Scene) (scope : RoleSelector) :
    lengths scene scope = (readablePaths scene scope).map scene.linesAt := by
  rw [lengths, readablePaths, filePaths, List.filter_map, List.map_map, ← List.filterMap_eq_map,
    List.filterMap_filter]
  refine List.filterMap_congr fun s _ => ?_
  cases read : scene.text? s.path with
  | none => simp [read]
  | some text => simp [read, Scene.linesAt]

theorem length_lengths (scene : Scene) (scope : RoleSelector) :
    (lengths scene scope).length = (scene.readable scope).card := by
  rw [lengths_eq_map, List.length_map, ← toFinset_readablePaths,
    List.toFinset_card_of_nodup (nodup_readablePaths scene scope)]

theorem sum_lengths (scene : Scene) (scope : RoleSelector) :
    (lengths scene scope).sum = ∑ path ∈ scene.readable scope, scene.linesAt path := by
  rw [lengths_eq_map, ← toFinset_readablePaths,
    List.sum_toFinset _ (nodup_readablePaths scene scope)]

theorem lengths_ne_nil_iff : lengths scene scope ≠ [] ↔ (scene.readable scope).Nonempty := by
  rw [← Finset.card_pos, ← length_lengths, List.length_pos_iff]

/-- A file has one line at least. -/
theorem length_le_sum_lengths (scene : Scene) (scope : RoleSelector) :
    (lengths scene scope).length ≤ (lengths scene scope).sum := by
  refine List.length_le_sum_of_one_le _ fun n hn => ?_
  obtain ⟨s, -, counted⟩ := List.mem_filterMap.mp hn
  obtain ⟨text, -, rfl⟩ := Option.map_eq_some_iff.mp counted
  exact Nat.succ_pos _

/-! ### Limits -/

theorem sign_of_isPositive {x : Binary64} (h : x.IsPositive) :
    x.isNegative = false ∧ x.isZero = false := by
  rcases h with rfl | ⟨finite, pos⟩
  · exact ⟨rfl, rfl⟩
  · match x, finite with
    | .finite s m e, _ =>
      have step : 0 < twoPow e := by
        rw [twoPow_eq_zpow]
        positivity
      have nonzero : m ≠ 0 := by
        rintro rfl
        simp [Binary64.toRat] at pos
      refine ⟨?_, by simpa [Binary64.isZero] using nonzero⟩
      cases s with
      | false => rfl
      | true =>
        have negative : (Binary64.finite true m e).toRat = -(m * twoPow e) := by
          simp [Binary64.toRat]
        have size : (0 : ℚ) ≤ m * twoPow e := by positivity
        linarith

/-- A product of positive numbers is infinite if one of them is. -/
theorem mul_eq_infinite {x y : Binary64} (hx : x.IsPositive) (hy : y.IsPositive)
    (h : ¬ (x.isFinite = true ∧ y.isFinite = true)) : x.mul y = .infinite false := by
  obtain ⟨sx, zx⟩ := sign_of_isPositive hx
  obtain ⟨sy, zy⟩ := sign_of_isPositive hy
  rcases hx with rfl | ⟨fx, -⟩ <;> rcases hy with rfl | ⟨fy, -⟩
  · rfl
  · match y, fy with
    | .finite t k f, _ =>
      have product : (Binary64.infinite false).mul (.finite t k f) =
          if (Binary64.finite t k f).isZero then .nan
          else .infinite (false != (Binary64.finite t k f).isNegative) := rfl
      rw [product, zy, sy]
      rfl
  · match x, fx with
    | .finite s m e, _ =>
      have product : (Binary64.finite s m e).mul (.infinite false) =
          if (Binary64.finite s m e).isZero then .nan
          else .infinite ((Binary64.finite s m e).isNegative != false) := rfl
      rw [product, zx, sx]
      rfl
  · exact absurd ⟨fx, fy⟩ h

/-- A number of the format is not above the product that is computed if and only if it is not above
the one that is rounded. -/
theorem le_mul_iff {a x y : Binary64} (finite : a.isFinite = true) (inside : a.toRat < Binary64.top)
    (hx : x.IsPositive) (hy : y.IsPositive) :
    a.le (x.mul y) = true ↔
      (x.isFinite = true → y.isFinite = true → a.toRat ≤ Binary64.round (x.toRat * y.toRat)) := by
  by_cases h : x.isFinite = true ∧ y.isFinite = true
  · obtain ⟨fx, fy⟩ := h
    have nonneg : 0 ≤ x.toRat * y.toRat := by
      rcases hx with rfl | ⟨-, px⟩
      · cases fx
      rcases hy with rfl | ⟨-, py⟩
      · cases fy
      positivity
    rw [Binary64.mul_eq_ofRat fx fy (sign_of_isPositive hx).1 (sign_of_isPositive hy).1 nonneg,
      forall_prop_of_true fx, forall_prop_of_true fy]
    rcases lt_or_ge (Binary64.round (x.toRat * y.toRat)) Binary64.top with small | large
    · rw [Binary64.le_iff finite (Binary64.isFinite_ofRat nonneg small), ← Binary64.nearest,
        Binary64.nearest_eq nonneg small]
    · have pos : 0 < x.toRat * y.toRat := by
        refine nonneg.lt_of_ne fun zero => ?_
        rw [← zero, Binary64.round_zero] at large
        exact absurd (zpow_pos (by norm_num) _) large.not_gt
      rw [(Binary64.ofRat_of_pos pos).2 large, Binary64.le_infinite finite]
      exact ⟨fun _ => (inside.trans_le large).le, fun _ => rfl⟩
  · rw [mul_eq_infinite hx hy h, Binary64.le_infinite finite]
    exact ⟨fun _ fx fy => absurd ⟨fx, fy⟩ h, fun _ => rfl⟩

/-! ### Averages -/

theorem average_eq (lines : List Nat) :
    average lines = (Binary64.ofNat lines.sum).div (Binary64.ofNat lines.length) := rfl

theorem toRat_average {lines : List Nat} (filled : lines ≠ []) (few : lines.length ≤ lines.sum)
    (fits : lines.sum < 2 ^ 64) :
    (average lines).isFinite = true ∧ (average lines).toRat = averageIn Binary64.round lines ∧
      averageIn Binary64.round lines < Binary64.top := by
  have pos := List.length_pos_iff.mpr filled
  obtain ⟨finite, value⟩ := Binary64.toRat_div_ofNat fits (few.trans_lt fits) pos
  exact ⟨finite, value, Binary64.quotient_lt_top fits pos⟩

/-- As it runs, the check rounds every number and every result. -/
theorem granularity_eq_granularityIn (target : rule.body.target.IsPositive)
    (tolerance : rule.body.tolerance.IsPositive)
    (fits : (lengths scene rule.body.scope).sum < 2 ^ 64) :
    granularity rule scene = granularityIn Binary64.round rule scene := by
  have few := length_le_sum_lengths scene rule.body.scope
  rw [granularity, granularityIn]
  generalize lengths scene rule.body.scope = lines at fits few
  rcases eq_or_ne lines [] with rfl | filled
  · simp
  obtain ⟨finite, value, inside⟩ := toRat_average filled few fits
  have below := le_mul_iff finite (value ▸ inside) target tolerance
  rw [← ite_not]
  refine if_congr ?_ rfl rfl
  rw [and_iff_right filled, GranularityRule.IsExceeded, ← not_le, ← value]
  simp [filled, below]

/-- The exact average length of the files that count. -/
def meanLength (scene : Scene) (scope : RoleSelector) : ℚ :=
  (∑ path ∈ scene.readable scope, (scene.linesAt path : ℚ)) / (scene.readable scope).card

theorem averageIn_id (scene : Scene) (scope : RoleSelector) :
    averageIn id (lengths scene scope) = meanLength scene scope := by
  rw [averageIn, meanLength, length_lengths, sum_lengths, Nat.cast_sum]
  rfl

/-- In exact arithmetic. -/
theorem granularityIn_id (rule : Typed GranularityRule) (scene : Scene) :
    granularityIn id rule scene =
      if (scene.readable rule.body.scope).Nonempty ∧
          rule.body.IsExceeded id (meanLength scene rule.body.scope) then
        [rule.head.violation projectFile
          (granularityFinding rule.body (lengths scene rule.body.scope))]
      else [] := by
  rw [granularityIn]
  simp only [lengths_ne_nil_iff, averageIn_id]

/-- As long as the lines can be counted exactly, the rounded average is above the rounded limit if
and only if the exact one is above the exact limit and rounding tells them apart. -/
theorem isExceeded_round_iff (target : rule.body.target.IsPositive)
    (tolerance : rule.body.tolerance.IsPositive)
    (few : (lengths scene rule.body.scope).sum ≤ 2 ^ 53) :
    rule.body.IsExceeded Binary64.round
        (averageIn Binary64.round (lengths scene rule.body.scope)) ↔
      rule.body.IsExceeded id (meanLength scene rule.body.scope) ∧
        Binary64.round (rule.body.target.toRat * rule.body.tolerance.toRat) ≠
          Binary64.round (meanLength scene rule.body.scope) := by
  have once : averageIn Binary64.round (lengths scene rule.body.scope) =
      Binary64.round (meanLength scene rule.body.scope) := by
    rw [← averageIn_id]
    exact Binary64.quotient_eq_round few ((length_le_sum_lengths scene _).trans few)
  have mean : 0 ≤ meanLength scene rule.body.scope := by
    unfold meanLength
    positivity
  rw [once, GranularityRule.IsExceeded, GranularityRule.IsExceeded, and_assoc, and_assoc]
  refine and_congr_right fun fx => and_congr_right fun fy => ?_
  refine Binary64.round_lt_round_iff ?_ mean
  rcases target with infinite | ⟨-, px⟩
  · simp [infinite, Binary64.isFinite] at fx
  rcases tolerance with infinite | ⟨-, py⟩
  · simp [infinite, Binary64.isFinite] at fy
  positivity

/-- The division is only reached with a divisor that is not zero. -/
theorem granularity?_eq (rule : Typed GranularityRule) (scene : Scene) :
    granularity? rule scene = some (granularity rule scene) := by
  rw [granularity?, granularity]
  cases lengths scene rule.body.scope with
  | nil => rfl
  | cons n lines =>
    have divisor : (Binary64.ofNat (n :: lines).length).isZero = false :=
      Binary64.isZero_ofNat (Nat.succ_pos _)
    have quotient : divided? (.ofNat (n :: lines).sum) (.ofNat (n :: lines).length) =
        some (average (n :: lines)) := by
      rw [divided?, divisor, average_eq]
      rfl
    rw [quotient]
    rfl

/-! ### Symbols that may be left out -/

theorem lengths_perm_of_readable_eq {symbols : List Symbol}
    (h : Scene.readable { scene with symbols } scope = scene.readable scope) :
    (lengths { scene with symbols } scope).Perm (lengths scene scope) := by
  rw [lengths_eq_map, lengths_eq_map]
  have paths : (readablePaths { scene with symbols } scope).Perm (readablePaths scene scope) := by
    refine (List.perm_ext_iff_of_nodup (nodup_readablePaths _ _)
      (nodup_readablePaths _ _)).mpr fun path => ?_
    rw [← List.mem_toFinset, toFinset_readablePaths, h, ← toFinset_readablePaths,
      List.mem_toFinset]
  exact paths.map _

/-- The check goes by the files that count, and by nothing else of the symbols. -/
theorem granularity_congr {symbols : List Symbol}
    (h : Scene.readable { scene with symbols } rule.body.scope = scene.readable rule.body.scope) :
    granularity rule { scene with symbols } = granularity rule scene := by
  have lines := lengths_perm_of_readable_eq h
  simp only [granularity, lines.isEmpty_eq, average_perm lines, granularityFinding_perm lines]

/-- Symbols may be left out as long as one that is selected stays of every file that counts. -/
theorem readable_eq_of_subset {symbols : List Symbol} (fewer : symbols ⊆ scene.symbols)
    (kept : ∀ path ∈ scene.readable scope, Scene.Selects { scene with symbols } scope path) :
    Scene.readable { scene with symbols } scope = scene.readable scope := by
  ext path
  constructor
  · intro h
    obtain ⟨⟨s, hs, same, selected⟩, read⟩ := mem_readable.mp h
    exact mem_readable.mpr ⟨⟨s, fewer hs, same, selected⟩, read⟩
  · intro h
    exact mem_readable.mpr ⟨kept path h, (mem_readable.mp h).2⟩

theorem readable_without_unreadable (scene : Scene) (scope : RoleSelector) :
    Scene.readable { scene with
      symbols := scene.symbols.filter fun s => (scene.text? s.path).isSome } scope =
      scene.readable scope := by
  refine readable_eq_of_subset (List.filter_subset_self _) fun path h => ?_
  obtain ⟨⟨s, hs, rfl, selected⟩, read⟩ := mem_readable.mp h
  exact ⟨s, List.mem_filter.mpr ⟨hs, read⟩, rfl, selected⟩

theorem readable_with_one_of_file {before after : List Symbol} {s : Symbol}
    (split : scene.symbols = before ++ s :: after) (selected : scope.selects s.role = true) :
    let others (symbols : List Symbol) := symbols.filter fun t => t.path ≠ s.path
    Scene.readable { scene with symbols := others before ++ s :: others after } scope =
      scene.readable scope := by
  intro others
  refine readable_eq_of_subset ?_ fun path h => ?_
  · rw [split]
    intro t ht
    simp [others] at ht ⊢
    tauto
  · obtain ⟨⟨t, ht, rfl, chosen⟩, -⟩ := mem_readable.mp h
    by_cases same : t.path = s.path
    · exact ⟨s, by simp, same.symm, selected⟩
    · refine ⟨t, ?_, rfl, chosen⟩
      rw [split] at ht
      simp [others, same] at ht ⊢
      tauto

end Check

open Check in
/-- For a rule that loads, the check reports the project, and with exact arithmetic it does if and only
if some file of the scope can be read and the average length of these files is above target times
tolerance. As it runs it rounds: it never divides by zero, and while the lines can be counted
exactly it misses only averages that rounding makes equal to the limit. Neither symbols of files that
cannot be read nor a second symbol of a file that can be are seen in what it reports. -/
theorem granularity_averages_readable_files {draft : Draft.Grammar} {grammar : Grammar}
    {head : RuleHead} {body : GranularityRule} (loaded : draft.load = .ok grammar)
    (listed : ⟨head, .granularity body⟩ ∈ grammar.rules) (scene : Scene) :
    let rule : Typed GranularityRule := ⟨head, body⟩
    let files := scene.readable body.scope
    let lines := lengths scene body.scope
    let mean : ℚ := (∑ path ∈ files, (scene.linesAt path : ℚ)) / files.card
    let report := head.violation projectFile (granularityFinding body lines)
    (lines.length = files.card ∧ lines.sum = ∑ path ∈ files, scene.linesAt path) ∧
    granularityIn id rule scene =
      (if files.Nonempty ∧ body.IsExceeded id mean then [report] else []) ∧
    (lines.sum < 2 ^ 64 → granularity rule scene = granularityIn Binary64.round rule scene) ∧
    (lines.sum ≤ 2 ^ 53 → granularity rule scene =
      if files.Nonempty ∧ body.IsExceeded id mean ∧
          Binary64.round (body.target.toRat * body.tolerance.toRat) ≠ Binary64.round mean then
        [report]
      else []) ∧
    granularity? rule scene = some (granularity rule scene) ∧
    (∀ symbols, symbols ⊆ scene.symbols →
      (∀ path ∈ files, Scene.Selects { scene with symbols } body.scope path) →
        granularity rule { scene with symbols } = granularity rule scene) ∧
    granularity rule { scene with
      symbols := scene.symbols.filter fun s => (scene.text? s.path).isSome } =
      granularity rule scene ∧
    ∀ before s after, scene.symbols = before ++ s :: after → body.scope.selects s.role = true →
      let others (symbols : List Symbol) := symbols.filter fun t => t.path ≠ s.path
      granularity rule { scene with symbols := others before ++ s :: others after } =
        granularity rule scene := by
  intro rule files lines mean report
  have sound : Draft.isPositive body.target = true ∧ Draft.isPositive body.tolerance = true :=
    Draft.sound_of_mem loaded listed
  have target := Draft.isPositive_iff.mp sound.1
  have tolerance := Draft.isPositive_iff.mp sound.2
  refine ⟨⟨?_, ?_⟩, ?_, fun fits => ?_, fun few => ?_, ?_, fun symbols fewer kept => ?_, ?_, ?_⟩
  · exact length_lengths scene body.scope
  · exact sum_lengths scene body.scope
  · exact granularityIn_id rule scene
  · exact granularity_eq_granularityIn target tolerance fits
  · rw [granularity_eq_granularityIn target tolerance (few.trans_lt (by norm_num)), granularityIn]
    exact if_congr (and_congr lengths_ne_nil_iff (isExceeded_round_iff target tolerance few)) rfl rfl
  · exact granularity?_eq rule scene
  · exact granularity_congr (readable_eq_of_subset fewer kept)
  · exact granularity_congr (readable_without_unreadable scene body.scope)
  · exact fun before s after split selected =>
      granularity_congr (readable_with_one_of_file split selected)

open Check in
/-- Of three files one has two symbols and one cannot be read; the average of the others is above the
limit. -/
theorem average_of_two_readable_files_is_reported :
    let draft : Draft.Grammar := { rules := [{
      name := "sizes", kind := "granularity_metric"
      scope := some { role := some (.one "ALL") }, targetLines := some .one }] }
    let rule : Typed GranularityRule := ⟨⟨"sizes", .error, none⟩, ⟨.all, .one, .one⟩⟩
    let first : Symbol := ⟨"a.ts", "A", "A", [], .classDecl⟩
    let second : Symbol := ⟨"a.ts", "a", "A", [], .constDecl⟩
    let lost : Symbol := ⟨"b.ts", "b", "A", [], .wholeFile⟩
    let other : Symbol := ⟨"c.ts", "c", "C", [], .wholeFile⟩
    let read (path : String) : Except ReadError String :=
      if path = "b.ts" then .error .notFound else if path = "a.ts" then .ok "w\nx\ny\nz" else .ok ""
    let scene (symbols : List Symbol) : Scene := ⟨symbols, ⟨read, fun _ => true⟩, []⟩
    (∃ grammar, draft.load = .ok grammar ∧ ⟨rule.head, .granularity rule.body⟩ ∈ grammar.rules) ∧
    (granularity rule (scene [first, lost, second, other])).map Violation.message =
      ["[sizes] average file length is 2.5 lines across 2 files (target 1 x 1)"] ∧
    granularity rule (scene [first, second, other]) =
      granularity rule (scene [first, lost, second, other]) ∧
    granularity rule (scene [lost, second, other]) =
      granularity rule (scene [first, lost, second, other]) := by
  intro draft rule first second lost other read scene
  have loads : draft.load.toOption.map Grammar.rules =
      some [⟨rule.head, .granularity rule.body⟩] := by
    decide +kernel
  obtain ⟨grammar, hg, rules⟩ := Option.map_eq_some_iff.mp loads
  have loaded : draft.load = .ok grammar := Draft.toOption_eq_some.mp hg
  have listed : ⟨rule.head, .granularity rule.body⟩ ∈ grammar.rules := by simp [rules]
  obtain ⟨-, -, -, -, -, -, readable, single⟩ :=
    granularity_averages_readable_files loaded listed (scene [first, lost, second, other])
  exact ⟨⟨grammar, loaded, listed⟩, by decide +kernel, readable,
    single [first, lost] second [other] rfl rfl⟩

end ArchLint
