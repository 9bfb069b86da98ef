import ArchLint.Proofs.Joining
import Mathlib.Data.List.TakeWhile

/-!
Names of the files of a project. Seen from a file, another one is named by steps up to a directory
that leads to both and by the way down from there (`specifierFrom`), and that name leads to the file
(`join_specifierFrom`). So the file is found under its name, and under its name without the
extension of source files unless there is one of the files that are looked for before it
(`triedBefore`).
-/

namespace ArchLint.TypeScript

open ArchLint.Path (NamesEntry IsDirect directories segments ofSegments fileName)

/-- So many steps up. -/
def upward : Nat → String
  | 0 => ""
  | n + 1 => "../" ++ upward n

/-- How many directories, counted from the root, lead to both files. -/
def sharedDepth (importer file : String) : Nat :=
  (((directories importer).zip (directories file)).takeWhile fun p => p.1 = p.2).length

/-- The name of a file as seen from another one: up until `k` directories are left, and down
again. -/
def specifierFrom (k : Nat) (importer file : String) : String :=
  let left := (directories importer).length - k
  (if left = 0 then "./" else upward left) ++ ofSegments ((segments file).drop k)

/-- Where a file is looked for before it is under a path with an extension: under the path itself,
under the sources of an emitted file, and with an earlier extension. -/
def triedBefore (path extension : String) : List String :=
  path :: emittedFrom path ++
    (extensions.takeWhile (· ≠ extension)).map fun e => path ++ "." ++ e

/-! ### Up and down -/

theorem segments_upward (n : Nat) (rest : String) :
    segments (upward n ++ rest) = List.replicate n ".." ++ segments rest := by
  induction n with
  | zero => simp [upward]
  | succ n ih =>
    have head : upward (n + 1) ++ rest = ".." ++ "/" ++ (upward n ++ rest) := by
      rw [upward, String.append_assoc]
      rfl
    rw [head, Path.segments_append_slash, ih, List.replicate_succ]
    rfl

theorem joinFrom_up (n : Nat) : ∀ dir : List String, n ≤ dir.length →
    joinFrom dir (List.replicate n "..") = some (dir.take (dir.length - n)) := by
  induction n with
  | zero =>
    intro dir _
    simp [joinFrom]
  | succ n ih =>
    intro dir hn
    rcases List.eq_nil_or_concat dir with rfl | ⟨dir, last, rfl⟩
    · simp at hn
    · rw [List.concat_eq_append, List.length_append, List.length_singleton] at hn ⊢
      rw [List.replicate_succ, joinFrom_cons, stepInto_up, Option.bind_some, ih dir (by omega),
        List.take_append_of_le_length (by omega), Nat.add_sub_add_right]

theorem joinFrom_entries {parts : List String} (h : ∀ s ∈ parts, NamesEntry s) :
    ∀ dir, joinFrom dir parts = some (dir ++ parts) := by
  induction parts with
  | nil =>
    intro dir
    simp [joinFrom]
  | cons s parts ih =>
    intro dir
    have entry := h s List.mem_cons_self
    rw [joinFrom_cons, stepInto_of_namesEntry entry, Option.bind_some,
      ih (fun t ht => h t (List.mem_cons_of_mem s ht)), List.append_assoc, List.singleton_append]

theorem take_eq_of_le_shared {α : Type} [DecidableEq α] : ∀ {xs ys : List α} {k : Nat},
    k ≤ ((xs.zip ys).takeWhile fun p => p.1 = p.2).length → xs.take k = ys.take k
  | _, _, 0, _ => by simp
  | [], _, k + 1, h => by simp at h
  | _ :: _, [], k + 1, h => by simp at h
  | x :: xs, y :: ys, k + 1, h => by
    rw [List.zip_cons_cons, List.takeWhile_cons] at h
    split at h
    · rename_i same
      rw [List.length_cons, Nat.add_le_add_iff_right] at h
      have same : x = y := by simpa using same
      rw [same, List.take_succ_cons, List.take_succ_cons, take_eq_of_le_shared h]
    · simp at h

theorem sharedDepth_le (importer file : String) :
    sharedDepth importer file ≤ (directories importer).length ∧
      sharedDepth importer file ≤ (directories file).length := by
  have inside := (List.takeWhile_sublist (fun p : String × String => decide (p.1 = p.2))
    (l := (directories importer).zip (directories file))).length_le
  rw [List.length_zip] at inside
  exact ⟨inside.trans (Nat.min_le_left _ _), inside.trans (Nat.min_le_right _ _)⟩

section

variable {importer file : String} {k : Nat}

/-- What leads to both files leads to where the way down starts. -/
theorem take_directories_append_drop (shared : k ≤ sharedDepth importer file) :
    (directories importer).take k ++ (segments file).drop k = segments file := by
  have hk := shared.trans (sharedDepth_le importer file).2
  have top : (segments file).take k = (directories file).take k := by
    rw [Path.segments_eq_concat, List.take_append_of_le_length hk]
  rw [take_eq_of_le_shared shared, ← top, List.take_append_drop]

theorem drop_segments_ne_nil (shared : k ≤ sharedDepth importer file) :
    (segments file).drop k ≠ [] := by
  have hk := shared.trans (sharedDepth_le importer file).2
  rw [Path.segments_eq_concat, List.drop_append_of_le_length hk]
  simp

theorem segments_specifierFrom (shared : k ≤ sharedDepth importer file) :
    segments (specifierFrom k importer file) =
      (if (directories importer).length - k = 0 then ["."]
        else List.replicate ((directories importer).length - k) "..") ++
      (segments file).drop k := by
  have down : segments (ofSegments ((segments file).drop k)) = (segments file).drop k := by
    refine Path.segments_ofSegments (drop_segments_ne_nil shared) fun s hs => ?_
    exact Path.slash_notMem_of_mem_segments (List.mem_of_mem_drop hs)
  simp only [specifierFrom]
  split
  · have head : "./" ++ ofSegments ((segments file).drop k) =
        "." ++ "/" ++ ofSegments ((segments file).drop k) := rfl
    rw [head, Path.segments_append_slash, down]
    rfl
  · rw [segments_upward, down]

/-- A name made for a file leads to the file. -/
theorem join_specifierFrom (direct : IsDirect file) (shared : k ≤ sharedDepth importer file) :
    join importer (specifierFrom k importer file) = some file := by
  have hk := shared.trans (sharedDepth_le importer file).1
  have up : joinFrom (directories importer)
      (if (directories importer).length - k = 0 then ["."]
        else List.replicate ((directories importer).length - k) "..") =
      some ((directories importer).take k) := by
    split
    · rw [List.take_of_length_le (by omega)]
      exact joinFrom_detour .here _
    · rw [joinFrom_up _ _ (Nat.sub_le _ _), Nat.sub_sub_self hk]
  have down : ∀ s ∈ (segments file).drop k, NamesEntry s := fun s hs =>
    direct s (List.mem_of_mem_drop hs)
  have whole : joinFrom (directories importer) (segments (specifierFrom k importer file)) =
      some (segments file) := by
    rw [segments_specifierFrom shared, joinFrom_append, up, Option.bind_some,
      joinFrom_entries down, take_directories_append_drop shared]
  calc join importer (specifierFrom k importer file)
      = (joinFrom (directories importer) (segments (specifierFrom k importer file))).map
          ofSegments := rfl
    _ = some file := by rw [whole, Option.map_some, Path.ofSegments_segments]

theorem isRelative_specifierFrom (k : Nat) (importer file : String) :
    isRelative (specifierFrom k importer file) = true := by
  simp only [specifierFrom]
  split
  · simp [isRelative, Text.dropHead?]
  · rename_i up
    obtain ⟨n, hn⟩ := Nat.exists_eq_succ_of_ne_zero up
    rw [hn]
    simp [isRelative, Text.dropHead?, upward]

/-- Looking a file up under a name made for a path. -/
theorem resolve_specifierFrom (direct : IsDirect file) (shared : k ≤ sharedDepth importer file)
    (files : List String) :
    resolve files importer (specifierFrom k importer file) =
      (candidates file).find? fun c => c ∈ files := by
  rw [resolve, if_pos (isRelative_specifierFrom k importer file), join_specifierFrom direct shared,
    Option.bind_some]

end

/-! ### Names without extension -/

theorem ne_empty_of_isDirect {path : String} (direct : IsDirect path) : path ≠ "" := by
  rintro rfl
  exact (direct "" (by decide)).1 rfl

theorem slash_notMem_extension {e : String} (he : e ∈ extensions) : '/' ∉ ("." ++ e).toList := by
  have all : ∀ e ∈ extensions, '/' ∉ ("." ++ e).toList := by decide
  exact all e he

/-- The source of an emitted file has an extension of at most one character more. -/
theorem length_le_of_mem_emittedFrom {path c : String} (hc : c ∈ emittedFrom path) :
    c.length ≤ path.length + 1 := by
  unfold emittedFrom at hc
  split at hc
  · rename_i stem extension split
    obtain ⟨e, he, rfl⟩ := List.mem_map.mp hc
    have whole : path.length = stem.length + (extension.length + 1) := by
      rw [← String.length_toList, (Text.splitLast?_eq_some_iff.mp split).1, List.length_append,
        List.length_cons]
    cases hl : sourcesOf.lookup (String.ofList extension) with
    | none =>
      rw [hl] at he
      exact absurd he List.not_mem_nil
    | some sources =>
      rw [hl] at he
      obtain ⟨others, others', table, -⟩ := List.lookup_eq_some_iff.mp hl
      have listed : (String.ofList extension, sources) ∈ sourcesOf := by simp [table]
      have short : ∀ p ∈ sourcesOf, ∀ e ∈ p.2, e.length ≤ p.1.length + 1 := by decide
      have fits : e.length ≤ extension.length + 1 := by simpa using short _ listed e he
      have dot : ".".length = 1 := rfl
      rw [String.length_append, String.length_append, String.length_ofList, dot, whole]
      omega
  · exact absurd hc List.not_mem_nil

section

variable {path extension : String} (he : extension ∈ extensions)
include he

theorem directories_withExtension :
    directories (path ++ "." ++ extension) = directories path := by
  rw [String.append_assoc, Path.directories_append (slash_notMem_extension he)]

theorem isDirect_withoutExtension (direct : IsDirect (path ++ "." ++ extension))
    (entry : NamesEntry (fileName path)) : IsDirect path := by
  intro s hs
  rw [Path.segments_eq_concat] at hs
  rcases List.mem_append.mp hs with hs | hs
  · rw [← directories_withExtension he] at hs
    exact direct s (List.mem_of_mem_dropLast hs)
  · rw [List.mem_singleton.mp hs]
    exact entry

theorem sharedDepth_withExtension (importer : String) :
    sharedDepth importer (path ++ "." ++ extension) = sharedDepth importer path := by
  rw [sharedDepth, sharedDepth, directories_withExtension he]

/-- The name without the extension is that of the path without it. -/
theorem specifierFrom_withExtension {importer : String} {k : Nat}
    (shared : k ≤ sharedDepth importer path) :
    specifierFrom k importer (path ++ "." ++ extension) =
      specifierFrom k importer path ++ "." ++ extension := by
  have hk := shared.trans (sharedDepth_le importer path).2
  have parts : (segments (path ++ "." ++ extension)).drop k =
      (directories path).drop k ++ [fileName path ++ ("." ++ extension)] := by
    rw [String.append_assoc, Path.segments_append (slash_notMem_extension he),
      List.drop_append_of_le_length hk]
  have parts' : (segments path).drop k = (directories path).drop k ++ [fileName path] := by
    rw [Path.segments_eq_concat, List.drop_append_of_le_length hk]
  simp only [specifierFrom]
  rw [parts, parts', Path.ofSegments_concat_append]
  simp only [String.append_assoc]

theorem exists_extensions_eq :
    ∃ later, extensions = extensions.takeWhile (· ≠ extension) ++ extension :: later := by
  have all : ∀ e ∈ extensions, extensions =
      extensions.takeWhile (· ≠ e) ++ e :: (extensions.dropWhile (· ≠ e)).tail := by decide
  exact ⟨_, all extension he⟩

theorem exists_candidates_eq (hp : path ≠ "") :
    ∃ later, candidates path =
      triedBefore path extension ++ (path ++ "." ++ extension) :: later := by
  obtain ⟨later, hl⟩ := exists_extensions_eq he
  simp only [candidates, if_neg hp, triedBefore]
  conv => enter [1, later, 1]; rw [hl]
  simp

theorem notMem_triedBefore : path ++ "." ++ extension ∉ triedBefore path extension := by
  have nonempty : 0 < extension.length := by
    have all : ∀ e ∈ extensions, 0 < e.length := by decide
    exact all extension he
  intro h
  rw [triedBefore, List.mem_append, List.mem_cons] at h
  rcases h with (same | emitted) | earlier
  · have := congrArg String.length same
    simp only [String.length_append] at this
    omega
  · have := length_le_of_mem_emittedFrom emitted
    simp only [String.length_append] at this
    have dot : ".".length = 1 := rfl
    omega
  · obtain ⟨e, he', same⟩ := List.mem_map.mp earlier
    have differ : e ≠ extension := by simpa using List.mem_takeWhile_imp he'
    simp at same
    exact differ same

end

/-- What is sought is found exactly if nothing before it fits. -/
theorem find?_append_cons_eq_some_iff {α : Type} {p : α → Bool} {x : α} (hx : p x = true)
    {before : List α} (fresh : x ∉ before) (after : List α) :
    (before ++ x :: after).find? p = some x ↔ ∀ y ∈ before, p y = false := by
  rw [List.find?_append]
  cases h : before.find? p with
  | none => simpa [hx] using h
  | some y =>
    have hy := List.mem_of_find?_eq_some h
    refine iff_of_false (fun same => fresh ?_) (fun none => ?_)
    · cases same
      exact hy
    · exact absurd (List.find?_some h) (by simp [none y hy])

/-- A file of a project is found under every name that leads up, by any directory that leads to both
files, and down to it. Without its extension the name finds it just when there is no file that is
looked for earlier. -/
theorem every_file_can_be_imported {files : List String} {importer file : String} {k : Nat}
    (listed : file ∈ files) (direct : IsDirect file) (shared : k ≤ sharedDepth importer file) :
    resolve files importer (specifierFrom k importer file) = some file ∧
    ∀ path extension, file = path ++ "." ++ extension → extension ∈ extensions →
      NamesEntry (fileName path) →
      specifierFrom k importer file = specifierFrom k importer path ++ "." ++ extension ∧
      (resolve files importer (specifierFrom k importer path) = some file ↔
        ∀ c ∈ triedBefore path extension, c ∉ files) := by
  constructor
  · have first : candidates file = file :: (candidates file).tail := by
      simp [candidates, ne_empty_of_isDirect direct]
    rw [resolve_specifierFrom direct shared, first, List.find?_cons_of_pos (by simpa using listed)]
  · rintro path extension rfl he entry
    rw [sharedDepth_withExtension he] at shared
    have direct' := isDirect_withoutExtension he direct entry
    obtain ⟨later, order⟩ := exists_candidates_eq he (ne_empty_of_isDirect direct')
    refine ⟨specifierFrom_withExtension he shared, ?_⟩
    rw [resolve_specifierFrom direct' shared, order,
      find?_append_cons_eq_some_iff (by simpa using listed) (notMem_triedBefore he)]
    simp

/-- A file beside the directory of the importing one, with and without its extension. -/
theorem neighbouring_file_is_imported :
    let files := ["src/domain/user.ts", "src/infra/db.ts"]
    1 ≤ sharedDepth "src/infra/db.ts" "src/domain/user.ts" ∧
      specifierFrom 1 "src/infra/db.ts" "src/domain/user.ts" = "../domain/user.ts" ∧
      resolve files "src/infra/db.ts" "../domain/user.ts" = some "src/domain/user.ts" ∧
      resolve files "src/infra/db.ts" "../domain/user" = some "src/domain/user.ts" := by
  intro files
  have shared : 1 ≤ sharedDepth "src/infra/db.ts" "src/domain/user.ts" := by decide
  have listed : "src/domain/user.ts" ∈ files := by decide
  obtain ⟨full, short⟩ := every_file_can_be_imported listed (by decide) shared
  obtain ⟨-, found⟩ := short "src/domain/user" "ts" rfl (by decide) (by decide)
  refine ⟨shared, by decide, full, found.mpr ?_⟩
  decide

end ArchLint.TypeScript
