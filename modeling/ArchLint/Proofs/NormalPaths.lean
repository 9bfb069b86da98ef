import ArchLint.Text.Path
import Mathlib.Data.List.Infix

/-!
Normal forms of paths. The normal paths are those without a backslash that do not start with a step
that stays (`isNormal_iff`), and every path is brought into such a form (`isNormal_normalize`). Past
its backslashes it only loses steps at its start (`exists_steps_normalize`), so it ends as before,
and keeps every text in it that neither of the two changes can touch (`infix_skipHere`).
-/

namespace ArchLint.Path

/-- The path is the normal form of itself. -/
def IsNormal (path : String) : Prop := normalize path = path

theorem forward_eq_self {cs : List Char} (h : '\\' ∉ cs) : forward cs = cs := by
  refine (List.map_congr_left fun c hc => ?_).trans (List.map_id cs)
  exact if_neg fun (he : c = '\\') => h (he ▸ hc)

theorem backslash_notMem_forward (cs : List Char) : '\\' ∉ forward cs := by
  intro h
  obtain ⟨c, -, hc⟩ := List.mem_map.mp h
  split at hc
  · exact absurd hc (by decide)
  · contradiction

theorem skipHere_suffix (cs : List Char) : skipHere cs <:+ cs := by
  fun_induction skipHere cs with
  | case1 cs ih => exact ih.trans ⟨['.', '/'], rfl⟩
  | case2 cs => exact List.suffix_refl cs

theorem skipHere_eq_self {cs : List Char} (h : ¬ ['.', '/'] <+: cs) : skipHere cs = cs :=
  skipHere.eq_2 cs fun rest he => h ⟨rest, he.symm⟩

theorem here_not_prefix_skipHere (cs : List Char) : ¬ ['.', '/'] <+: skipHere cs := by
  fun_induction skipHere cs with
  | case1 cs ih => exact ih
  | case2 cs h =>
    rintro ⟨rest, rfl⟩
    exact h rest rfl

theorem exists_steps_skipHere (cs : List Char) :
    ∃ steps, cs = (List.replicate steps ['.', '/']).flatten ++ skipHere cs := by
  fun_induction skipHere cs with
  | case1 cs ih =>
    obtain ⟨steps, hs⟩ := ih
    refine ⟨steps + 1, ?_⟩
    rw [List.replicate_succ, List.flatten_cons, List.append_assoc, ← hs]
    rfl
  | case2 cs => exact ⟨0, rfl⟩

/-! ### Normal forms -/

theorem toList_normalize (path : String) :
    (normalize path).toList = skipHere (forward path.toList) :=
  String.toList_ofList

theorem backslash_notMem_normalize (path : String) : '\\' ∉ (normalize path).toList := by
  rw [toList_normalize]
  exact fun h => backslash_notMem_forward path.toList ((skipHere_suffix _).subset h)

theorem here_not_prefix_normalize (path : String) : ¬ ['.', '/'] <+: (normalize path).toList := by
  rw [toList_normalize]
  exact here_not_prefix_skipHere _

/-- With slashes for its backslashes, a path is its normal form behind steps that stay. -/
theorem exists_steps_normalize (path : String) :
    ∃ steps, forward path.toList =
      (List.replicate steps ['.', '/']).flatten ++ (normalize path).toList := by
  rw [toList_normalize]
  exact exists_steps_skipHere _

theorem isNormal_iff {path : String} :
    IsNormal path ↔ '\\' ∉ path.toList ∧ ¬ ['.', '/'] <+: path.toList := by
  constructor
  · intro h
    rw [← show normalize path = path from h]
    exact ⟨backslash_notMem_normalize path, here_not_prefix_normalize path⟩
  · rintro ⟨noBackslash, noStep⟩
    rw [IsNormal, normalize, forward_eq_self noBackslash, skipHere_eq_self noStep,
      String.ofList_toList]

/-- A normal form is its own normal form. -/
theorem isNormal_normalize (path : String) : IsNormal (normalize path) :=
  isNormal_iff.mpr ⟨backslash_notMem_normalize path, here_not_prefix_normalize path⟩

/-- A text that starts with a dot and has no slash behind it lies within no steps that stay. -/
theorem infix_skipHere {m : Char} (hm : m ≠ '/') {rest cs : List Char}
    (h : '.' :: m :: rest <:+: cs) : '.' :: m :: rest <:+: skipHere cs := by
  fun_induction skipHere cs with
  | case1 cs ih =>
    rw [List.infix_cons_iff, List.infix_cons_iff] at h
    rcases h with first | second | later
    · simp [List.cons_prefix_cons, hm] at first
    · simp [List.cons_prefix_cons] at second
    · exact ih later
  | case2 => exact h

end ArchLint.Path
