import ArchLint.Proofs.Edges
import Mathlib.Data.List.Forall2
import Mathlib.Data.Prod.Basic

/-!
Imports between files, said without a graph. A file has the role of its first symbol (`fileRole?`), and
it imports the files with symbols that any of its own symbols lists (`Imports`). The edges between files
are just that, and none stands twice (`mem_bareEdges`, `nodup_paths_bareEdges`). When symbols get more
dependencies, files and roles stay (`bareNodes_eq_of_dependsMore`) and more is mentioned
(`mentions_subset`).
-/

namespace ArchLint

/-- The role of a file: that of its first symbol. -/
def fileRole? (symbols : List Symbol) (path : String) : Option String :=
  (symbols.find? fun s => s.path = path).map Symbol.role

/-- A symbol of the one file lists the other, which has symbols itself. -/
def Imports (symbols : List Symbol) (p q : String) : Prop :=
  (∃ s ∈ symbols, s.path = p ∧ q ∈ s.dependencies) ∧ ∃ t ∈ symbols, t.path = q

/-- The same symbol, perhaps with more dependencies. -/
def Symbol.DependsMore (s t : Symbol) : Prop :=
  t = { s with dependencies := t.dependencies } ∧ s.dependencies ⊆ t.dependencies

variable {symbols : List Symbol}

/-! ### Roles of files -/

theorem fileRole?_eq_some_iff {p role : String} :
    fileRole? symbols p = some role ↔ ∃ s ∈ firstPerFile symbols, s.path = p ∧ s.role = role := by
  rw [fileRole?, Option.map_eq_some_iff]
  constructor
  · rintro ⟨s, found, rfl⟩
    obtain rfl : s.path = p := by simpa using List.find?_some found
    exact ⟨s, mem_distinctBy_iff.mpr found, rfl, rfl⟩
  · rintro ⟨s, hs, rfl, rfl⟩
    exact ⟨s, mem_distinctBy_iff.mp hs, rfl⟩

/-- The files with a role are those with symbols. -/
theorem exists_fileRole?_iff {p : String} :
    (∃ role, fileRole? symbols p = some role) ↔ ∃ s ∈ symbols, s.path = p := by
  rw [← Option.isSome_iff_exists, fileRole?, Option.isSome_map, List.find?_isSome]
  simp only [decide_eq_true_eq]

theorem mem_bareNodes {n : FileNode} :
    n ∈ bareNodes symbols ↔ fileRole? symbols n.path = some n.role ∧ n.edges = [] := by
  rw [fileRole?_eq_some_iff, bareNodes, List.mem_map]
  constructor
  · rintro ⟨s, hs, rfl⟩
    exact ⟨⟨s, hs, rfl, rfl⟩, rfl⟩
  · rintro ⟨⟨s, hs, path, role⟩, edges⟩
    exact ⟨s, hs, by rw [path, role, ← edges]⟩

/-! ### Edges -/

theorem mem_bareEdges {a b : FileNode} :
    (a, b) ∈ bareEdges symbols ↔
      a ∈ bareNodes symbols ∧ b ∈ bareNodes symbols ∧ Imports symbols a.path b.path := by
  have known : b ∈ bareNodes symbols → ∃ t ∈ symbols, t.path = b.path := fun hb =>
    exists_fileRole?_iff.mp ⟨b.role, (mem_bareNodes.mp hb).1⟩
  simp only [bareEdges, List.mem_flatMap, List.mem_map, Prod.mk.injEq, mem_mentioned, mem_mentions,
    Imports]
  constructor
  · rintro ⟨n, hn, t, ⟨ht, lists⟩, rfl, rfl⟩
    exact ⟨hn, ht, lists, known ht⟩
  · rintro ⟨ha, hb, lists, -⟩
    exact ⟨a, ha, b, ⟨hb, lists⟩, rfl, rfl⟩

/-- No two edges join the same files. -/
theorem nodup_paths_bareEdges (symbols : List Symbol) :
    ((bareEdges symbols).map fun e => (e.1.path, e.2.path)).Nodup := by
  have paths := nodup_paths_bareNodes symbols
  rw [bareEdges, List.map_flatMap, List.nodup_flatMap]
  constructor
  · intro n _
    have targets : ((mentioned symbols n).map FileNode.path).Nodup :=
      paths.sublist (List.filter_sublist.map _)
    have joined := targets.map (Prod.mk_right_injective n.path)
    rwa [List.map_map] at joined ⊢
  · refine (List.pairwise_map.mp paths).imp fun {a b} apart => ?_
    -- edges from different files differ at their source
    rintro ⟨p, q⟩ ha hb
    simp only [List.map_map, List.mem_map, Function.comp_apply, Prod.mk.injEq] at ha hb
    obtain ⟨-, -, rfl, -⟩ := ha
    obtain ⟨-, -, same, -⟩ := hb
    exact apart same.symm

/-! ### More dependencies -/

theorem exists_dependsMore {symbols' : List Symbol}
    (h : List.SublistForall₂ Symbol.DependsMore symbols symbols') {s : Symbol} (hs : s ∈ symbols) :
    ∃ t ∈ symbols', s.DependsMore t := by
  induction h with
  | nil => exact absurd hs List.not_mem_nil
  | cons more _ ih =>
    rcases List.mem_cons.mp hs with rfl | hs
    · exact ⟨_, List.mem_cons_self, more⟩
    · obtain ⟨t, ht, more⟩ := ih hs
      exact ⟨t, List.mem_cons_of_mem _ ht, more⟩
  | cons_right _ ih =>
    obtain ⟨t, ht, more⟩ := ih hs
    exact ⟨t, List.mem_cons_of_mem _ ht, more⟩

theorem mentions_subset {symbols' : List Symbol}
    (h : List.SublistForall₂ Symbol.DependsMore symbols symbols') (p : String) :
    FileGraph.mentions symbols p ⊆ FileGraph.mentions symbols' p := by
  intro q hq
  obtain ⟨s, hs, hp, lists⟩ := mem_mentions.mp hq
  obtain ⟨t, ht, same, more⟩ := exists_dependsMore h hs
  exact mem_mentions.mpr ⟨t, ht, by rw [same, ← hp], more lists⟩

/-- The symbol without its dependencies. -/
def Symbol.alone (s : Symbol) : Symbol := { s with dependencies := [] }

/-- Files and their roles do not go by dependencies. -/
theorem bareNodes_map_alone (symbols : List Symbol) :
    bareNodes (symbols.map Symbol.alone) = bareNodes symbols := by
  have samePath : ∀ s : Symbol, s.alone.path = s.path := fun _ => rfl
  rw [bareNodes, bareNodes, firstPerFile, distinctBy, freshBy_map samePath, List.map_map]
  rfl

theorem bareNodes_eq_of_dependsMore {symbols' : List Symbol}
    (h : List.Forall₂ Symbol.DependsMore symbols symbols') :
    bareNodes symbols = bareNodes symbols' := by
  have same : symbols.map Symbol.alone = symbols'.map Symbol.alone := by
    induction h with
    | nil => rfl
    | cons more _ ih => rw [List.map_cons, List.map_cons, ih, more.1]; rfl
  rw [← bareNodes_map_alone symbols, same, bareNodes_map_alone]

end ArchLint
