import ArchLint.Check.TestPath
import ArchLint.Number.Decimal

/-!
Texts of one line. Whatever is put together of such texts is one, numbers are, and so is every place
where the tests of a file are looked for when the file's path is. Lines with a line feed after each
are found again in the whole exactly when each of them is a line (`splitOn_lines_iff`).
-/

namespace ArchLint

/-- The text holds no line feed. -/
def OneLine (s : String) : Prop := '\n' ∉ s.toList

instance : DecidablePred OneLine := fun s => inferInstanceAs (Decidable ('\n' ∉ s.toList))

/-! ### Texts put together -/

@[simp]
theorem oneLine_append {s t : String} : OneLine (s ++ t) ↔ OneLine s ∧ OneLine t := by
  simp [OneLine]

theorem oneLine_ofList {cs : List Char} : OneLine (String.ofList cs) ↔ '\n' ∉ cs := by
  simp [OneLine]

theorem oneLine_intercalate {sep : String} {parts : List String} (hsep : OneLine sep)
    (h : ∀ p ∈ parts, OneLine p) : OneLine (sep.intercalate parts) := by
  induction parts with
  | nil => exact (by decide : OneLine "")
  | cons p rest ih =>
    have hp : OneLine p := h p List.mem_cons_self
    have hrest := ih fun q hq => h q (List.mem_cons_of_mem p hq)
    cases rest with
    | nil => simpa using hp
    | cons q rest => simp [String.intercalate_cons_cons, hp, hsep, hrest]

/-! ### Numbers -/

theorem newline_notMem_digits (n : Nat) : '\n' ∉ Decimal.digits n := by
  intro h
  have digit : Char.isDigit '\n' = true := Nat.isDigit_of_mem_toDigits (by decide) (by decide) h
  exact absurd digit (by decide)

@[simp]
theorem oneLine_repr (n : Nat) : OneLine n.repr := by
  rw [Nat.repr_eq_ofList_toDigits, oneLine_ofList]
  exact newline_notMem_digits n

theorem newline_notMem_replicate (n : Nat) : '\n' ∉ List.replicate n '0' := by
  intro h
  exact absurd (List.eq_of_mem_replicate h) (by decide)

/-- Digits with zeros before them, as many as are wanted. -/
theorem newline_notMem_padded (n d : Nat) :
    '\n' ∉ List.replicate n '0' ++ Decimal.digits d :=
  List.not_mem_append (newline_notMem_replicate n) (newline_notMem_digits d)

/-- A point between two parts of a text. -/
theorem newline_notMem_pointed {cs whole fraction : List Char} (h : '\n' ∉ cs) (hw : whole ⊆ cs)
    (hf : fraction ⊆ cs) : '\n' ∉ whole ++ '.' :: fraction := by
  refine List.not_mem_append (fun hm => h (hw hm)) ?_
  intro hm
  rcases List.mem_cons.mp hm with hm | hm
  · exact absurd hm (by decide)
  · exact h (hf hm)

theorem newline_notMem_signed {cs : List Char} (h : '\n' ∉ cs) (s : Bool) :
    '\n' ∉ if s then '-' :: cs else cs := by
  cases s with
  | false => exact h
  | true => exact List.not_mem_cons_of_ne_of_not_mem (by decide) h

theorem newline_notMem_positional (d : Nat) (p : Int) : '\n' ∉ Decimal.positional d p := by
  simp only [Decimal.positional]
  split
  · exact List.not_mem_append (newline_notMem_digits d) (newline_notMem_replicate _)
  · have padded := newline_notMem_padded ((-p).toNat + 1 - (Decimal.digits d).length) d
    split
    · exact fun h => padded (List.mem_of_mem_take h)
    · refine newline_notMem_pointed padded (List.take_subset _ _) fun c hc => ?_
      have inTail := (List.dropWhile_sublist _).subset (List.mem_reverse.mp hc)
      exact List.mem_of_mem_drop (List.mem_reverse.mp inTail)

@[simp]
theorem oneLine_render (x : Binary64) : OneLine (Decimal.render x) := by
  cases x with
  | nan => decide
  | infinite s => cases s <;> decide
  | finite s m e =>
    refine oneLine_ofList.mpr (newline_notMem_signed ?_ s)
    split
    · decide
    · exact newline_notMem_positional _ _

@[simp]
theorem oneLine_renderFixed (places : Nat) (x : Binary64) :
    OneLine (Decimal.renderFixed places x) := by
  cases x with
  | nan => exact (by decide : OneLine "NaN")
  | infinite s =>
    cases s with
    | false => exact (by decide : OneLine "inf")
    | true => exact (by decide : OneLine "-inf")
  | finite s m e =>
    refine oneLine_ofList.mpr (newline_notMem_signed ?_ s)
    have padded := newline_notMem_padded
    split
    · exact fun h => padded _ _ (List.mem_of_mem_take h)
    · exact newline_notMem_pointed (padded _ _) (List.take_subset _ _) (List.drop_subset _ _)

/-! ### Places of tests -/

theorem stemAndExtension_subset (path : List Char) :
    (stemAndExtension path).1 ⊆ path ∧ (stemAndExtension path).2 ⊆ path := by
  have whole : path ⊆ path ∧ [] ⊆ path := ⟨List.Subset.refl path, List.nil_subset path⟩
  unfold stemAndExtension
  split
  · rename_i stem ext found
    split
    · rw [(Text.splitLast?_eq_some_iff.mp found).1]
      simp
    · exact whole
  · exact whole

theorem newline_notMem_parallelStem {stem : List Char} (h : '\n' ∉ stem) :
    '\n' ∉ parallelStem stem := by
  refine List.not_mem_append (by decide) ?_
  cases found : Text.dropHead? "src/".toList stem with
  | none => exact h
  | some rest =>
    rw [Text.dropHead?_eq_some_iff.mp found] at h
    exact fun hm => h (List.mem_append_right _ hm)

theorem oneLine_of_mem_testCandidates {path t : String} (hp : OneLine path)
    (ht : t ∈ testCandidates path) : OneLine t := by
  simp only [testCandidates, List.mem_flatMap, List.mem_map] at ht
  obtain ⟨root, hroot, suffix, hsuffix, rfl⟩ := ht
  obtain ⟨hstem, hext⟩ := stemAndExtension_subset path.toList
  have stem : '\n' ∉ (stemAndExtension path.toList).1 := fun h => hp (hstem h)
  have marks : ∀ m ∈ [".test", ".spec"], '\n' ∉ m.toList := by decide
  refine oneLine_ofList.mpr (List.not_mem_append (List.not_mem_append ?_ (marks suffix hsuffix)) ?_)
  · rcases List.mem_cons.mp hroot with rfl | hroot
    · exact stem
    · rw [List.mem_singleton.mp hroot]
      exact newline_notMem_parallelStem stem
  · split
    · exact List.not_mem_nil
    · exact List.not_mem_cons_of_ne_of_not_mem (by decide) fun h => hp (hext h)

/-! ### Lines -/

/-- Lines with a line feed after each. -/
theorem splitOn_lines (ls : List (List Char)) :
    (ls.flatMap fun l => l ++ ['\n']).splitOn '\n' = ls.flatMap (List.splitOn '\n') ++ [[]] := by
  induction ls with
  | nil => rfl
  | cons l ls ih =>
    have first : ((l :: ls).flatMap fun l => l ++ ['\n']) =
        l ++ '\n' :: ls.flatMap fun l => l ++ ['\n'] := by simp
    rw [first, List.splitOn_append_cons_self, ih, List.flatMap_cons, List.append_assoc]

theorem splitOn_lines_iff {ls : List (List Char)} :
    (ls.flatMap fun l => l ++ ['\n']).splitOn '\n' = ls ++ [[]] ↔ ∀ l ∈ ls, '\n' ∉ l := by
  rw [splitOn_lines, List.append_cancel_right_eq]
  induction ls with
  | nil => simp
  | cons l ls ih =>
    rw [List.flatMap_cons, List.forall_mem_cons, ← ih]
    by_cases hl : '\n' ∈ l
    · obtain ⟨before, after, rfl, hb⟩ := List.eq_append_cons_of_mem hl
      refine iff_of_false (fun same => ?_) (fun both => both.1 hl)
      -- the first piece ends before the line feed, and the line does not
      rw [List.splitOn_append_cons_self_of_not_mem hb, List.cons_append] at same
      have shorter := congrArg List.length (List.cons.inj same).1
      simp at shorter
    · rw [List.splitOn_eq_singleton hl, List.singleton_append, List.cons_inj_right]
      exact ⟨fun h => ⟨hl, h⟩, And.right⟩

end ArchLint
