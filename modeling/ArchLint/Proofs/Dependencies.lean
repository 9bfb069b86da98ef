import ArchLint.Proofs.Distinct
import ArchLint.Proofs.NormalPaths
import ArchLint.Symbol

/-!
The dependencies of a symbol. A batch of paths adds, behind what is listed, what is new among the
normal forms of the paths (`Symbol.dependingOn_eq`), and batches add what their paths would add in
one (`Symbol.foldl_dependingOn`). A list that has the normal forms of all paths mentioned so far,
each where it was mentioned first, stays such a list (`ListsMentions.dependingOn`). There is only
one such list (`ListsMentions.unique`), so it does not tell how the paths were cut into batches.
-/

namespace ArchLint

/-- The list has the normal form of each mentioned path, once and in the order in which the normal
forms were first mentioned. -/
structure ListsMentions (mentioned ds : List String) : Prop where
  nodup : ds.Nodup
  normal : ∀ d ∈ ds, Path.IsNormal d
  mem_iff : ∀ d, d ∈ ds ↔ ∃ path ∈ mentioned, Path.normalize path = d
  ordered : ds.Pairwise fun d e =>
    (mentioned.map Path.normalize).idxOf d < (mentioned.map Path.normalize).idxOf e

/-! ### What a batch adds -/

namespace Symbol

/-- Dependencies that are added come behind those that are listed, in normal form and without
repetitions. -/
theorem dependingOn_eq : ∀ (paths : List String) (s : Symbol),
    s.dependingOn paths = { s with
      dependencies := s.dependencies ++ freshBy id s.dependencies (paths.map Path.normalize) }
  | [], s => by simp [dependingOn, freshBy_nil]
  | path :: paths, s => by
    have rest : s.dependingOn (path :: paths) = _ := dependingOn_eq paths (s.dependOn path)
    rw [rest, List.map_cons]
    unfold dependOn
    by_cases listed : Path.normalize path ∈ s.dependencies
    · simp only [if_pos listed]
      rw [freshBy_cons_of_mem _ (show id (Path.normalize path) ∈ _ from listed)]
    · simp only [if_neg listed]
      rw [freshBy_cons_of_notMem _ (show id (Path.normalize path) ∉ _ from listed),
        List.append_assoc]
      have used : freshBy id (s.dependencies ++ [Path.normalize path]) (paths.map Path.normalize) =
          freshBy id (Path.normalize path :: s.dependencies) (paths.map Path.normalize) :=
        freshBy_congr fun d _ => by simp [or_comm]
      rw [used]
      rfl

theorem path_dependingOn (paths : List String) (s : Symbol) :
    (s.dependingOn paths).path = s.path := by
  rw [dependingOn_eq]

/-- Paths that come in batches add what they add in one. -/
theorem foldl_dependingOn (batches : List (List String)) (s : Symbol) :
    batches.foldl dependingOn s = s.dependingOn batches.flatten := by
  unfold dependingOn
  rw [List.foldl_flatten]

end Symbol

/-! ### Lists of what was mentioned -/

theorem listsMentions_distinct (mentioned : List String) :
    ListsMentions mentioned (distinct (mentioned.map Path.normalize)) where
  nodup := nodup_distinct _
  normal := fun d hd => by
    obtain ⟨path, -, rfl⟩ := List.mem_map.mp (mem_distinct.mp hd)
    exact Path.isNormal_normalize path
  mem_iff := fun d => by rw [mem_distinct, List.mem_map]
  ordered := pairwise_idxOf_distinct _

namespace ListsMentions

variable {mentioned ds es : List String}

/-- The elements are settled by what was mentioned, and their order too. -/
theorem unique (hd : ListsMentions mentioned ds) (he : ListsMentions mentioned es) : ds = es := by
  have same : ds.Perm es := (List.perm_ext_iff_of_nodup hd.nodup he.nodup).mpr fun d => by
    rw [hd.mem_iff, he.mem_iff]
  exact same.eq_of_pairwise (fun _ _ _ _ before after => absurd after (Nat.lt_asymm before))
    hd.ordered he.ordered

theorem eq_distinct (h : ListsMentions mentioned ds) :
    ds = distinct (mentioned.map Path.normalize) :=
  h.unique (listsMentions_distinct mentioned)

/-- A batch leaves the list in order, whatever was mentioned before. -/
theorem dependingOn {s : Symbol} (h : ListsMentions mentioned s.dependencies)
    (paths : List String) :
    ListsMentions (mentioned ++ paths) (s.dependingOn paths).dependencies := by
  have old := h.eq_distinct
  -- the paths mentioned before and their list use up the same normal forms
  have used : freshBy id s.dependencies (paths.map Path.normalize) =
      freshBy id (mentioned.map Path.normalize) (paths.map Path.normalize) :=
    freshBy_congr fun d _ => by rw [old, id_eq, mem_distinct]
  have added : (s.dependingOn paths).dependencies =
      distinct ((mentioned ++ paths).map Path.normalize) := by
    rw [Symbol.dependingOn_eq, List.map_append, distinct, distinctBy, freshBy_append,
      List.append_nil, List.map_id, ← used]
    exact congrArg (· ++ _) old
  exact added ▸ listsMentions_distinct (mentioned ++ paths)

end ListsMentions

theorem listsMentions_declare (path name : String) (kind : SymbolKind) :
    ListsMentions [] (Symbol.declare path name kind).dependencies :=
  listsMentions_distinct []

theorem listsMentions_foldl_declare (path name : String) (kind : SymbolKind)
    (batches : List (List String)) :
    ListsMentions batches.flatten
      (batches.foldl Symbol.dependingOn (.declare path name kind)).dependencies := by
  rw [Symbol.foldl_dependingOn]
  exact (listsMentions_declare path name kind).dependingOn batches.flatten

/-- A path has one normal form: with slashes for its backslashes, what stands behind the steps that
stay. A symbol that is declared and then given paths in any number of batches changes in its
dependencies only. They are the one list that has the normal form of each path that was given, once
and in the order of first mention, so they are the same for all batches of the same paths. -/
theorem dependencies_are_listed_as_first_mentioned :
    (∀ path : String,
      let normal := Path.normalize path
      Path.normalize normal = normal ∧ '\\' ∉ normal.toList ∧ ¬ ['.', '/'] <+: normal.toList ∧
      ∃ steps, Path.forward path.toList =
        (List.replicate steps ['.', '/']).flatten ++ normal.toList) ∧
    ∀ (path name : String) (kind : SymbolKind) (batches : List (List String)),
      let declared := Symbol.declare path name kind
      let s := batches.foldl Symbol.dependingOn declared
      s = { declared with dependencies := s.dependencies } ∧
      (∀ ds, ListsMentions batches.flatten ds ↔ ds = s.dependencies) ∧
      ∀ (path' name' : String) (kind' : SymbolKind) (batches' : List (List String)),
        batches'.flatten = batches.flatten →
        (batches'.foldl Symbol.dependingOn (.declare path' name' kind')).dependencies =
          s.dependencies := by
  refine ⟨fun path => ⟨Path.isNormal_normalize path, Path.backslash_notMem_normalize path,
    Path.here_not_prefix_normalize path, Path.exists_steps_normalize path⟩, ?_⟩
  intro path name kind batches declared s
  have lists : ListsMentions batches.flatten s.dependencies :=
    listsMentions_foldl_declare path name kind batches
  refine ⟨?_, fun ds => ⟨fun h => h.unique lists, fun h => h ▸ lists⟩, ?_⟩
  · rw [show s = _ from Symbol.foldl_dependingOn batches declared, Symbol.dependingOn_eq]
  · intro path' name' kind' batches' same
    have lists' := listsMentions_foldl_declare path' name' kind' batches'
    rw [same] at lists'
    exact lists'.unique lists

/-- Three spellings of one path, and steps to no file, in batches that are cut in two ways. -/
theorem spellings_of_one_path_are_listed_once :
    let batches := [["./src/b.ts", "src\\b.ts"], [], ["src/c.ts", ".\\./src/b.ts", ".\\./"]]
    let others := [["./src/b.ts"], ["src\\b.ts", "src/c.ts", ".\\./src/b.ts"], [".\\./"]]
    let list := fun batches : List (List String) =>
      (batches.foldl Symbol.dependingOn (.declare "src/a.ts" "A" .classDecl)).dependencies
    others.flatten = batches.flatten ∧ list batches = ["src/b.ts", "src/c.ts", ""] ∧
      list others = list batches ∧ ListsMentions batches.flatten ["src/b.ts", "src/c.ts", ""] := by
  intro batches others list
  have same : others.flatten = batches.flatten := rfl
  have listed : list batches = ["src/b.ts", "src/c.ts", ""] := by decide
  obtain ⟨-, iff, alike⟩ :=
    dependencies_are_listed_as_first_mentioned.2 "src/a.ts" "A" .classDecl batches
  exact ⟨same, listed, alike _ _ _ others same, (iff _).mpr listed.symm⟩

end ArchLint
