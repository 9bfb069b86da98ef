import ArchLint.Files.Memory
import ArchLint.Proofs.Folders
import Mathlib.Data.List.Induction

/-!
Files held in memory beside files in folders. What is read is what was inserted last
(`lookup_ofList`), and a directory is there as long as its path with a slash behind it begins the
path of a file (`isThere_iff`). Files whose paths are not above one another can be written into a
folder without one getting in the way of another; what then stands there (`stands_writeAll`) is what
the files in memory answer.
-/

namespace ArchLint

open ArchLint.Path (IsDirect IsAbove segments)

/-- The text that was inserted last under a path. -/
def lastText? (files : List (String × String)) (path : String) : Option String :=
  files.reverse.lookup path

/-- The files written one after the other. -/
def Workplace.writeAll (w : Workplace) (files : List (String × String)) : Workplace :=
  files.foldl (fun w f => w.write f.1 (.text f.2)) w

/-! ### What was inserted last -/

theorem lookup_cons_eq_ite {β : Type} (path : String) (e : String × β) (es : List (String × β)) :
    (e :: es).lookup path = if path = e.1 then some e.2 else es.lookup path := by
  obtain ⟨name, value⟩ := e
  rw [List.lookup_cons]
  by_cases same : path = name
  · simp [same]
  · have off : (path == name) = false := by simpa using same
    simp [same, off]

theorem lastText?_concat (files : List (String × String)) (f : String × String) (path : String) :
    lastText? (files ++ [f]) path = if path = f.1 then some f.2 else lastText? files path := by
  rw [lastText?, List.reverse_concat, lookup_cons_eq_ite]
  rfl

theorem mem_keys_iff_lookup {β : Type} {es : List (String × β)} {path : String} :
    path ∈ es.map Prod.fst ↔ (es.lookup path).isSome := by
  rw [List.lookup_isSome_iff, List.mem_map]
  exact exists_congr fun e => and_congr_right fun _ => by simp [eq_comm (a := path)]

theorem isSome_lastText?_iff {files : List (String × String)} {path : String} :
    (lastText? files path).isSome ↔ path ∈ files.map Prod.fst := by
  rw [lastText?, ← mem_keys_iff_lookup]
  simp

theorem lastText?_eq_some_iff {files : List (String × String)} {path text : String} :
    lastText? files path = some text ↔
      ∃ before after, files = before ++ (path, text) :: after ∧ path ∉ after.map Prod.fst := by
  have fresh_iff (later : List (String × String)) :
      (∀ f ∈ later, (path != f.1) = true) ↔ path ∉ later.map Prod.fst := by
    simp only [bne_iff_ne, List.mem_map, not_exists, not_and]
    exact forall₂_congr fun f _ => ne_comm
  rw [lastText?, List.lookup_eq_some_iff]
  constructor
  · rintro ⟨after, before, whole, fresh⟩
    refine ⟨before.reverse, after.reverse, ?_, ?_⟩
    · simpa using congrArg List.reverse whole
    · simpa using (fresh_iff after).mp fresh
  · rintro ⟨before, after, rfl, fresh⟩
    exact ⟨after.reverse, before.reverse, by simp, (fresh_iff _).mpr (by simpa using fresh)⟩

/-! ### Files in memory -/

namespace MemoryFiles

theorem lookup_filter_ne {es : List (String × String)} {path other : String} (h : other ≠ path) :
    (es.filter fun e => e.1 ≠ path).lookup other = es.lookup other := by
  induction es with
  | nil => rfl
  | cons e es ih =>
    by_cases same : e.1 = path
    · rw [List.filter_cons_of_neg (by simpa using same), ih, lookup_cons_eq_ite, same, if_neg h]
    · rw [List.filter_cons_of_pos (by simpa using same), lookup_cons_eq_ite, lookup_cons_eq_ite, ih]

theorem lookup_insert (m : MemoryFiles) (path text other : String) :
    (m.insert path text).files.lookup other =
      if other = path then some text else m.files.lookup other := by
  rw [insert, lookup_cons_eq_ite]
  by_cases same : other = path
  · rw [if_pos same, if_pos same]
  · rw [if_neg same, if_neg same, lookup_filter_ne same]

theorem lookup_ofList (files : List (String × String)) (path : String) :
    (ofList files).files.lookup path = lastText? files path := by
  induction files using List.reverseRecOn with
  | nil => rfl
  | append_singleton files f ih =>
    rw [lastText?_concat, ← ih, ofList, List.foldl_append]
    exact lookup_insert _ _ _ _

theorem mem_paths_ofList {files : List (String × String)} {path : String} :
    path ∈ (ofList files).files.map Prod.fst ↔ path ∈ files.map Prod.fst := by
  rw [mem_keys_iff_lookup, lookup_ofList, isSome_lastText?_iff]

theorem read_ofList_eq_ok_iff {files : List (String × String)} {path text : String} :
    (ofList files).read path = .ok text ↔ lastText? files path = some text := by
  rw [read, lookup_ofList]
  cases lastText? files path <;> simp

/-! ### Directories -/

section

variable {path : String} (direct : IsDirect path)
include direct

theorem head?_reverse_of_isDirect : path.toList.reverse.head? ≠ some '/' := by
  intro slash
  obtain ⟨rest, whole⟩ := List.head?_eq_some_iff.mp slash
  obtain rfl : String.ofList rest.reverse ++ "/" = path := by
    rw [← String.toList_inj, ← List.reverse_inj, whole]
    simp
  have none : "" ∈ segments (String.ofList rest.reverse ++ "/") := by
    rw [Path.segments_slash]
    simp
  exact (direct "" none).1 rfl

theorem asDirectory_of_isDirect : asDirectory path = path.toList ++ ['/'] := by
  have last := head?_reverse_of_isDirect direct
  rw [asDirectory]
  cases reversed : path.toList.reverse with
  | nil =>
    rw [List.reverse_eq_nil_iff.mp reversed]
    rfl
  | cons c cs =>
    rw [reversed] at last
    rw [List.dropWhile_cons_of_neg (by simpa using last), ← reversed, List.reverse_reverse]

theorem asDirectory_slash : asDirectory (path ++ "/") = path.toList ++ ['/'] := by
  rw [← asDirectory_of_isDirect direct, asDirectory, asDirectory]
  simp

end

/-- A file is there under its path, a directory under what begins the paths of files in it. -/
theorem isThere_iff {m : MemoryFiles} {path place : String}
    (directory : asDirectory place = path.toList ++ ['/']) :
    m.isThere place = true ↔
      place ∈ m.files.map Prod.fst ∨ ∃ other ∈ m.files.map Prod.fst, IsAbove path other := by
  have below (other : String) : (Text.dropHead? (asDirectory place) other.toList).isSome = true ↔
      IsAbove path other := by
    rw [directory, ← Path.slash_prefix_iff, Option.isSome_iff_exists]
    exact exists_congr fun rest => Text.dropHead?_eq_some_iff.trans eq_comm
  rw [isThere, List.any_eq_true]
  simp only [Bool.or_eq_true, decide_eq_true_eq, below, and_or_left, exists_or, List.mem_map,
    exists_exists_and_eq_and]

end MemoryFiles

/-! ### Files in folders -/

/-- The entry is what files make of a path: the file inserted last, or a folder above files. -/
structure Stands (files : List (String × String)) (path : String) (entry : Option Entry) : Prop where
  file : ∀ text, entry = some (.file (.text text)) ↔ lastText? files path = some text
  folder : (∃ es, entry = some (.folder es)) ↔ ∃ f ∈ files, IsAbove path f.1
  text : ∀ content, entry = some (.file content) → ∃ text, content = .text text

theorem Stands.isSome_iff {files : List (String × String)} {path : String} {entry : Option Entry}
    (h : Stands files path entry) :
    entry.isSome ↔ path ∈ files.map Prod.fst ∨ ∃ f ∈ files, IsAbove path f.1 := by
  rw [← isSome_lastText?_iff, ← h.folder, Option.isSome_iff_exists, Option.isSome_iff_exists]
  simp only [← h.file]
  constructor
  · rintro ⟨entry, rfl⟩
    cases entry with
    | file content =>
      obtain ⟨text, rfl⟩ := h.text content rfl
      exact .inl ⟨text, rfl⟩
    | folder es => exact .inr ⟨es, rfl⟩
  · rintro (⟨text, found⟩ | ⟨es, found⟩)
    · exact ⟨_, found⟩
    · exact ⟨_, found⟩

/-- No file has the path of a directory that another one lies in. -/
def NoneAbove (files : List (String × String)) : Prop :=
  ∀ f ∈ files, ∀ g ∈ files, ¬ IsAbove f.1 g.1

instance (files : List (String × String)) : Decidable (NoneAbove files) :=
  inferInstanceAs (Decidable (∀ f ∈ files, ∀ g ∈ files, ¬ IsAbove f.1 g.1))

namespace Workplace

variable {w : Workplace} {base : List String} {files : List (String × String)}

/-- One more file changes what stands at its path and above it. -/
theorem stands_write {f : String × String} {path : String} (stands : w.StandsAt base)
    (direct : IsDirect f.1) (apart : NoneAbove (files ++ [f]))
    (before : Stands files path (w.top.find? (base ++ segments path))) :
    Stands (files ++ [f]) path
      ((w.write f.1 (.text f.2)).top.find? (base ++ segments path)) := by
  have listed : f ∈ files ++ [f] := by simp
  have inserted : ∀ text, lastText? files path = some text →
      ∃ g ∈ files ++ [f], g.1 = path := by
    intro text found
    have key : path ∈ files.map Prod.fst := by
      rw [← isSome_lastText?_iff, found]
      rfl
    obtain ⟨g, hg, same⟩ := List.mem_map.mp key
    exact ⟨g, List.mem_append_left _ hg, same⟩
  by_cases same : path = f.1
  · subst same
    rw [find?_write_self stands direct]
    refine ⟨fun text => ?_, ?_, fun content same => ?_⟩
    · rw [lastText?_concat, if_pos rfl]
      simp
    · refine ⟨fun h => by simp at h, fun ⟨g, hg, above⟩ => absurd above (apart f listed g hg)⟩
    · exact ⟨f.2, by simpa [eq_comm] using same⟩
  have last : lastText? (files ++ [f]) path = lastText? files path := by
    rw [lastText?_concat, if_neg same]
  by_cases above : IsAbove path f.1
  · obtain ⟨es, found⟩ : ∃ es, (w.write f.1 (.text f.2)).top.find? (base ++ segments path) =
        some (.folder es) := exists_folder_write stands direct above
    rw [found]
    refine ⟨fun text => ⟨fun h => by simp at h, fun h => ?_⟩, ?_, fun content h => by simp at h⟩
    · obtain ⟨g, hg, rfl⟩ := inserted text (last ▸ h)
      exact absurd above (apart g hg f listed)
    · exact ⟨fun _ => ⟨f, listed, above⟩, fun _ => ⟨es, rfl⟩⟩
  by_cases below : IsAbove f.1 path
  · rw [find?_write_below stands direct below]
    refine ⟨fun text => ⟨fun h => by simp at h, fun h => ?_⟩, ⟨fun h => by simp at h, ?_⟩,
      fun content h => by simp at h⟩
    · obtain ⟨g, hg, rfl⟩ := inserted text (last ▸ h)
      exact absurd below (apart f listed g hg)
    · rintro ⟨g, hg, further⟩
      exact absurd (below.trans further) (apart f listed g hg)
  · rw [find?_write_beside stands direct same above below]
    refine ⟨fun text => by rw [last]; exact before.file text, ?_, before.text⟩
    rw [before.folder]
    simp [above]

theorem stands_writeAll (folder : w.folder = .ok (.inside base))
    (empty : w.top.find? base = some (.folder [])) (direct : ∀ f ∈ files, IsDirect f.1)
    (apart : NoneAbove files) :
    (w.writeAll files).StandsAt base ∧
      ∀ path, Stands files path ((w.writeAll files).top.find? (base ++ segments path)) := by
  induction files using List.reverseRecOn with
  | nil =>
    refine ⟨⟨folder, by simp [writeAll, empty]⟩, fun path => ?_⟩
    have nothing : w.top.find? (base ++ segments path) = none := by
      rw [Entry.find?_append, empty]
      cases whole : segments path with
      | nil => exact absurd whole (Path.segments_ne_nil path)
      | cons s rest => rfl
    rw [writeAll, List.foldl_nil, nothing]
    exact ⟨by simp [lastText?], by simp, by simp⟩
  | append_singleton files f ih =>
    obtain ⟨stands, each⟩ := ih (fun g hg => direct g (List.mem_append_left _ hg))
      (fun g hg g' hg' => apart g (List.mem_append_left _ hg) g' (List.mem_append_left _ hg'))
    have own : IsDirect f.1 := direct f (by simp)
    have more : w.writeAll (files ++ [f]) = (w.writeAll files).write f.1 (.text f.2) := by
      rw [writeAll, List.foldl_append]
      rfl
    rw [more]
    exact ⟨stands.write own, fun path => stands_write stands own apart (each path)⟩

end Workplace

/-- Files in memory whose paths lead down from the root, none of them above another: exactly the
paths of files can be read, and give the text inserted last; what is there are the files and the
directories above them, and with a slash behind it, only the directories. So the answers are those
of any empty folder that the same files are written into. -/
theorem memory_answers_as_folders {files : List (String × String)}
    (direct : ∀ f ∈ files, IsDirect f.1) (apart : NoneAbove files) {path : String}
    (hp : IsDirect path) :
    let memory := MemoryFiles.ofList files
    ((∃ text, memory.read path = .ok text) ↔ path ∈ files.map Prod.fst) ∧
    (∀ text, memory.read path = .ok text ↔
      ∃ before after, files = before ++ (path, text) :: after ∧ path ∉ after.map Prod.fst) ∧
    (memory.isThere path = true ↔
      path ∈ files.map Prod.fst ∨ ∃ f ∈ files, IsAbove path f.1) ∧
    (memory.isThere (path ++ "/") = true ↔ ∃ f ∈ files, IsAbove path f.1) ∧
    ∀ (w : Workplace) (base : List String), w.folder = .ok (.inside base) →
      w.top.find? base = some (.folder []) →
        let disk := w.writeAll files
        (∀ text, disk.read path = .ok text ↔ memory.read path = .ok text) ∧
        disk.isThere path = memory.isThere path ∧
        disk.isThere (path ++ "/") = memory.isThere (path ++ "/") := by
  intro memory
  have above : (∃ other ∈ memory.files.map Prod.fst, IsAbove path other) ↔
      ∃ f ∈ files, IsAbove path f.1 := by
    simp only [memory, MemoryFiles.mem_paths_ofList]
    simp only [List.mem_map, exists_exists_and_eq_and]
  have file : memory.isThere path = true ↔
      path ∈ files.map Prod.fst ∨ ∃ f ∈ files, IsAbove path f.1 := by
    rw [MemoryFiles.isThere_iff (MemoryFiles.asDirectory_of_isDirect hp), above,
      MemoryFiles.mem_paths_ofList]
  have directory : memory.isThere (path ++ "/") = true ↔ ∃ f ∈ files, IsAbove path f.1 := by
    rw [MemoryFiles.isThere_iff (MemoryFiles.asDirectory_slash hp), above,
      MemoryFiles.mem_paths_ofList, or_iff_right]
    -- no file has a path that ends in a slash
    intro listed
    obtain ⟨f, hf, same⟩ := List.mem_map.mp listed
    have none : "" ∈ segments f.1 := by
      rw [same, Path.segments_slash]
      simp
    exact (direct f hf "" none).1 rfl
  refine ⟨?_, fun text => ?_, file, directory, fun w base folder empty => ?_⟩
  · rw [← isSome_lastText?_iff, Option.isSome_iff_exists]
    exact exists_congr fun text => MemoryFiles.read_ofList_eq_ok_iff
  · exact MemoryFiles.read_ofList_eq_ok_iff.trans lastText?_eq_some_iff
  · obtain ⟨stands, each⟩ := Workplace.stands_writeAll folder empty direct apart
    have here := each path
    refine ⟨fun text => ?_, ?_, ?_⟩
    · rw [Workplace.read_eq_ok_iff stands hp, here.file]
      exact MemoryFiles.read_ofList_eq_ok_iff.symm
    · rw [Bool.eq_iff_iff, Workplace.isThere_eq_true_iff stands hp, here.isSome_iff, file]
    · rw [Bool.eq_iff_iff, Workplace.isThere_slash_eq_true_iff stands hp, here.folder, directory]

/-- A file that is written twice, and another whose name begins as that of its directory. -/
theorem file_written_twice_is_read_as_last :
    let files := [("src/domain/a.ts", "old"), ("src/dom", "b"), ("src/domain/a.ts", "new")]
    let memory := MemoryFiles.ofList files
    let disk := Workplace.writeAll { top := .empty } files
    (∀ f ∈ files, IsDirect f.1) ∧ NoneAbove files ∧
      IsDirect "src/domain/a.ts" ∧ IsDirect "src/domain" ∧ IsDirect "src/dom" ∧
      memory.read "src/domain/a.ts" = .ok "new" ∧ disk.read "src/domain/a.ts" = .ok "new" ∧
      memory.isThere ("src/domain" ++ "/") = true ∧ disk.isThere ("src/domain" ++ "/") = true ∧
      memory.isThere ("src/dom" ++ "/") = false ∧ disk.isThere ("src/dom" ++ "/") = false := by
  intro files memory disk
  have direct : ∀ f ∈ files, IsDirect f.1 := by decide
  have apart : NoneAbove files := by decide
  have file : IsDirect "src/domain/a.ts" := by decide
  have folder : IsDirect "src/domain" := by decide
  have other : IsDirect "src/dom" := by decide
  obtain ⟨-, text, -, -, onDisk⟩ := memory_answers_as_folders direct apart file
  obtain ⟨-, -, -, below, onDisk'⟩ := memory_answers_as_folders direct apart folder
  obtain ⟨-, -, -, noneBelow, onDisk''⟩ := memory_answers_as_folders direct apart other
  have read : memory.read "src/domain/a.ts" = .ok "new" :=
    (text "new").mpr ⟨[("src/domain/a.ts", "old"), ("src/dom", "b")], [], rfl, by decide⟩
  have directory : memory.isThere ("src/domain" ++ "/") = true := below.mpr (by decide)
  have noDirectory : memory.isThere ("src/dom" ++ "/") = false := by
    rw [← Bool.not_eq_true]
    exact fun h => absurd (noneBelow.mp h) (by decide)
  obtain ⟨sameText, -⟩ := onDisk { top := .empty } [] rfl rfl
  obtain ⟨-, -, sameDirectory⟩ := onDisk' { top := .empty } [] rfl rfl
  obtain ⟨-, -, sameNone⟩ := onDisk'' { top := .empty } [] rfl rfl
  exact ⟨direct, apart, file, folder, other, read, (sameText _).mpr read, directory,
    sameDirectory.trans directory, noDirectory, sameNone.trans noDirectory⟩

end ArchLint
