import ArchLint.Text.Path
import Mathlib.Data.List.Basic

/-!
Paths as lists of segments. Segments hold no slash (`slash_notMem_of_mem_segments`), and those of a
path, put together, are the path again (`ofSegments_segments`); segments without slashes that are
put together are found again in the whole (`segments_ofSegments`). So the last segment of a path can
be extended without touching the directories before it (`ofSegments_concat_append`), and a path with
a slash behind it begins just those paths that it is a directory of (`slash_prefix_iff`).
-/

namespace ArchLint.Path

/-- The segment names an entry of the directory it is looked up in: it neither stays there nor leads
up. -/
def NamesEntry (segment : String) : Prop := segment ≠ "" ∧ segment ≠ "." ∧ segment ≠ ".."

instance : DecidablePred NamesEntry := fun s =>
  inferInstanceAs (Decidable (s ≠ "" ∧ s ≠ "." ∧ s ≠ ".."))

/-- The path leads down from the root of the project, from entry to entry. -/
def IsDirect (path : String) : Prop := ∀ s ∈ segments path, NamesEntry s

instance : DecidablePred IsDirect := fun path =>
  inferInstanceAs (Decidable (∀ s ∈ segments path, NamesEntry s))

/-- The one path is that of a directory on the way to what the other leads to. -/
def IsAbove (path other : String) : Prop := segments path <+: segments other ∧ path ≠ other

instance (path other : String) : Decidable (IsAbove path other) :=
  inferInstanceAs (Decidable (_ ∧ _))

/-- The directories on the way to what the path leads to. -/
def directories (path : String) : List String := (segments path).dropLast

/-! ### Taking apart and putting together -/

theorem notMem_of_mem_splitOn {α : Type} [DecidableEq α] {sep : α} (xs : List α) :
    ∀ part ∈ xs.splitOn sep, sep ∉ part := by
  induction xs with
  | nil => simp
  | cons x xs ih =>
    intro part hp
    rw [List.splitOn_cons_eq_if_modifyHead] at hp
    split at hp
    · rcases List.mem_cons.mp hp with rfl | hp
      · exact List.not_mem_nil
      · exact ih part hp
    · rename_i hx
      cases hs : xs.splitOn sep with
      | nil => exact absurd hs (List.splitOn_ne_nil sep xs)
      | cons first rest =>
        rw [hs] at hp ih
        rcases List.mem_cons.mp hp with rfl | hp
        · intro h
          rcases List.mem_cons.mp h with rfl | h
          · simp at hx
          · exact ih first List.mem_cons_self h
        · exact ih part (List.mem_cons_of_mem _ hp)

theorem segments_ne_nil (path : String) : segments path ≠ [] := by
  intro h
  exact List.splitOn_ne_nil _ _ (List.map_eq_nil_iff.mp h)

theorem slash_notMem_of_mem_segments {path s : String} (h : s ∈ segments path) :
    '/' ∉ s.toList := by
  obtain ⟨part, hp, rfl⟩ := List.mem_map.mp h
  simpa using notMem_of_mem_splitOn _ part hp

theorem toList_ofSegments (parts : List String) :
    (ofSegments parts).toList = ['/'].intercalate (parts.map String.toList) := by
  rw [ofSegments, String.toList_intercalate]
  rfl

@[simp]
theorem ofSegments_segments (path : String) : ofSegments (segments path) = path := by
  apply String.toList_inj.mp
  rw [toList_ofSegments, segments, List.map_map]
  simp [Function.comp_def, List.intercalate_splitOn]

theorem segments_ofSegments {parts : List String} (hne : parts ≠ [])
    (h : ∀ s ∈ parts, '/' ∉ s.toList) : segments (ofSegments parts) = parts := by
  have slashless : ∀ cs ∈ parts.map String.toList, '/' ∉ cs := by simpa using h
  rw [segments, toList_ofSegments, List.splitOn_intercalate _ slashless (by simpa using hne)]
  simp [Function.comp_def]

/-- What stands behind a slash adds its segments. -/
theorem segments_append_slash (s t : String) :
    segments (s ++ "/" ++ t) = segments s ++ segments t := by
  simp [segments, List.splitOn_append_cons_self]

/-! ### The last segment -/

theorem segments_eq_concat (path : String) :
    segments path = directories path ++ [fileName path] := by
  rw [directories, fileName, List.getLastD_eq_getLast?,
    List.getLast?_eq_some_getLast (segments_ne_nil path), Option.getD_some,
    List.dropLast_concat_getLast]

/-- What is added to the last segment is added to the whole. -/
theorem ofSegments_concat_append (parts : List String) (s t : String) :
    ofSegments (parts ++ [s ++ t]) = ofSegments (parts ++ [s]) ++ t := by
  apply String.toList_inj.mp
  induction parts with
  | nil => simp [toList_ofSegments]
  | cons p parts ih =>
    simp only [toList_ofSegments, String.toList_append] at ih ⊢
    rw [List.cons_append, List.cons_append, List.map_cons, List.map_cons,
      List.intercalate_cons_of_ne_nil (by simp), List.intercalate_cons_of_ne_nil (by simp), ih]
    simp

/-- A text without slash that is added to a path is added to its last segment. -/
theorem segments_append {t : String} (ht : '/' ∉ t.toList) (path : String) :
    segments (path ++ t) = directories path ++ [fileName path ++ t] := by
  have slashless : ∀ s ∈ directories path ++ [fileName path], '/' ∉ s.toList := by
    rw [← segments_eq_concat]
    exact fun s => slash_notMem_of_mem_segments
  have whole : ofSegments (directories path ++ [fileName path ++ t]) = path ++ t := by
    rw [ofSegments_concat_append, ← segments_eq_concat, ofSegments_segments]
  rw [← whole, segments_ofSegments (by simp)]
  intro s hs
  rcases List.mem_append.mp hs with hs | hs
  · exact slashless s (List.mem_append_left _ hs)
  · rw [List.mem_singleton.mp hs, String.toList_append]
    exact List.not_mem_append (slashless _ (by simp)) ht

theorem directories_append {t : String} (ht : '/' ∉ t.toList) (path : String) :
    directories (path ++ t) = directories path := by
  rw [directories, segments_append ht, List.dropLast_concat]

theorem fileName_append {t : String} (ht : '/' ∉ t.toList) (path : String) :
    fileName (path ++ t) = fileName path ++ t := by
  rw [fileName, segments_append ht]
  simp

/-! ### Paths above others -/

theorem segments_inj {path other : String} : segments path = segments other ↔ path = other := by
  constructor
  · intro same
    rw [← ofSegments_segments path, same, ofSegments_segments]
  · rintro rfl
    rfl

theorem isAbove_iff {path other : String} :
    IsAbove path other ↔ ∃ rest, rest ≠ [] ∧ segments other = segments path ++ rest := by
  constructor
  · rintro ⟨⟨rest, whole⟩, apart⟩
    refine ⟨rest, ?_, whole.symm⟩
    rintro rfl
    rw [List.append_nil] at whole
    exact apart (segments_inj.mp whole)
  · rintro ⟨rest, more, whole⟩
    refine ⟨⟨rest, whole.symm⟩, ?_⟩
    rintro rfl
    exact more (List.append_right_eq_self.mp whole.symm)

theorem IsAbove.trans {path other third : String} (h : IsAbove path other)
    (h' : IsAbove other third) : IsAbove path third := by
  obtain ⟨rest, more, whole⟩ := isAbove_iff.mp h
  obtain ⟨rest', -, whole'⟩ := isAbove_iff.mp h'
  rw [whole, List.append_assoc] at whole'
  exact isAbove_iff.mpr ⟨rest ++ rest', by simp [more], whole'⟩

/-- A slash behind a path is where the paths below it go on. -/
theorem slash_prefix_iff {path other : String} :
    path.toList ++ ['/'] <+: other.toList ↔ IsAbove path other := by
  rw [isAbove_iff]
  constructor
  · rintro ⟨rest, whole⟩
    obtain rfl : path ++ "/" ++ String.ofList rest = other := by
      rw [← String.toList_inj, ← whole]
      simp
    exact ⟨segments (String.ofList rest), segments_ne_nil _, segments_append_slash _ _⟩
  · rintro ⟨rest, more, whole⟩
    have slashless : ∀ s ∈ rest, '/' ∉ s.toList := fun s hs =>
      slash_notMem_of_mem_segments (whole ▸ List.mem_append_right _ hs)
    obtain rfl : path ++ "/" ++ ofSegments rest = other := by
      rw [← segments_inj, segments_append_slash, segments_ofSegments more slashless, whole]
    exact ⟨(ofSegments rest).toList, by simp⟩

end ArchLint.Path
