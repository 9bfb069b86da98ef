import ArchLint.Analysis
import ArchLint.Proofs.Distinct
import ArchLint.Proofs.View

/-!
Symbols by the file. When the symbols of each file agree in their role and their dependencies, one
symbol of each file says as much as all of them, as far as nothing asks for single symbols: the
checks see the same (`sameView_firsts`), and where naming rules report every symbol, the repetitions
are dropped afterwards.
-/

namespace ArchLint

/-- The symbols of each file agree in `f`. -/
abbrev PerFile {α : Type} (f : Symbol → α) (symbols : List Symbol) : Prop :=
  Determined Symbol.path f symbols

/-- The scene with one symbol of each file, the first. -/
def Scene.firsts (s : Scene) : Scene := { s with symbols := firstPerFile s.symbols }

/-- `f` looks at no more of a symbol than its path and its role. -/
def ByFile {α : Type} (f : Symbol → α) : Prop :=
  ∀ s t : Symbol, s.path = t.path → s.role = t.role → f s = f t

theorem PerFile.of_role {α : Type} {f : Symbol → α} {symbols : List Symbol}
    (h : PerFile Symbol.role symbols) (hf : ByFile f) : PerFile f symbols :=
  fun s hs t ht hp => hf s t hp (h s hs t ht hp)

/-! ### First symbols -/

theorem firstPerFile_firstPerFile (symbols : List Symbol) :
    firstPerFile (firstPerFile symbols) = firstPerFile symbols :=
  distinctBy_distinctBy symbols

theorem PerFile.firsts {α : Type} {f : Symbol → α} {symbols : List Symbol}
    (h : PerFile f symbols) : PerFile f (firstPerFile symbols) :=
  h.mono fun _ hs => mem_of_mem_distinctBy hs

/-- A choice that goes by files finds the same files among the first symbols. -/
theorem firstPerFile_filter_firsts {p : Symbol → Bool} {symbols : List Symbol}
    (h : PerFile p symbols) :
    firstPerFile ((firstPerFile symbols).filter p) = firstPerFile (symbols.filter p) := by
  have before : firstPerFile (symbols.filter p) = (firstPerFile symbols).filter p :=
    distinctBy_filter h
  have after : firstPerFile ((firstPerFile symbols).filter p) =
      (firstPerFile (firstPerFile symbols)).filter p := distinctBy_filter h.firsts
  rw [after, before, firstPerFile_firstPerFile]

theorem perFile_selects {symbols : List Symbol} (h : PerFile Symbol.role symbols)
    (scope : RoleSelector) : PerFile (fun s => scope.selects s.role) symbols :=
  h.of_role fun _ _ _ hr => by rw [hr]

/-- One symbol of a file mentions what all of them mention. -/
theorem ofSymbols_firstPerFile {symbols : List Symbol} (h : PerFile Symbol.dependencies symbols) :
    FileGraph.ofSymbols (firstPerFile symbols) = FileGraph.ofSymbols symbols := by
  rw [FileGraph.ofSymbols, FileGraph.ofSymbols, firstPerFile_firstPerFile]
  refine congrArg FileGraph.mk (List.map_congr_left fun s _ => ?_)
  have ofFile : firstPerFile (symbols.filter fun t => t.path = s.path) =
      (firstPerFile symbols).filter fun t => t.path = s.path :=
    distinctBy_filter fun t _ u _ hp => by rw [hp]
  have alike : ∀ g : String → Option Nat,
      distinct ((FileGraph.mentions (firstPerFile symbols) s.path).filterMap g) =
        distinct ((FileGraph.mentions symbols s.path).filterMap g) := by
    intro g
    rw [FileGraph.mentions, FileGraph.mentions, List.filterMap_flatMap, List.filterMap_flatMap,
      ← ofFile]
    refine (Alike.distinctBy_eq (alike_flatMap_distinctBy fun t ht u hu hp => ?_)).symm
    rw [h t (List.mem_of_mem_filter ht) u (List.mem_of_mem_filter hu) hp]
  simp only [alike]

/-- The checks that go by files see one symbol of each file as they see all symbols. -/
theorem sameView_firsts {scene : Scene} (hr : PerFile Symbol.role scene.symbols)
    (hd : PerFile Symbol.dependencies scene.symbols) : scene.firsts.SameView scene where
  text? _ := rfl
  isThere _ := rfl
  filesOf scope := firstPerFile_filter_firsts (perFile_selects hr scope)
  filesMatching pattern := firstPerFile_filter_firsts fun s _ t _ hp => by rw [hp]
  countFiles := by
    rw [Scene.firsts, Check.countFiles, Check.countFiles, firstPerFile_firstPerFile]
  graph := ofSymbols_firstPerFile hd

/-! ### Runs without rules about single symbols -/

/-- A naming rule reports every symbol of a file in the same words. -/
theorem alike_naming {scene : Scene} (hr : PerFile Symbol.role scene.symbols)
    (r : Typed NamingRule) :
    Alike Violation.key (Check.naming r scene) (Check.naming r scene.firsts) := by
  unfold Check.naming
  split
  · exact Alike.refl _
  · rename_i pattern _
    have breaks : PerFile (Check.breaksNaming r.body pattern) scene.symbols :=
      hr.of_role fun _ _ hp hr => by simp only [Check.breaksNaming, hp, hr]
    have ofFile : firstPerFile (scene.symbols.filter (Check.breaksNaming r.body pattern)) =
        (firstPerFile scene.symbols).filter (Check.breaksNaming r.body pattern) :=
      distinctBy_filter breaks
    rw [Scene.firsts, ← ofFile, List.map_eq_flatMap, List.map_eq_flatMap]
    refine alike_flatMap_distinctBy fun s hs t ht hp => ?_
    have same := hr s (List.mem_of_mem_filter hs) t (List.mem_of_mem_filter ht) hp
    simp only [RuleHead.violationAt, Check.namingFinding, hp, same]

theorem alike_run_firsts {rules : List Rule} {scene : Scene}
    (hu : ∀ r ∈ rules, ∀ body, r.kind ≠ .unreferenced body)
    (hr : PerFile Symbol.role scene.symbols) (hd : PerFile Symbol.dependencies scene.symbols) :
    Alike Violation.key ((RuleSet.ofRules rules).run scene)
      ((RuleSet.ofRules rules).run scene.firsts) := by
  rw [run_ofRules, run_ofRules]
  refine Alike.flatMap fun b _ => ?_
  rcases eq_or_ne b .naming with rfl | hb
  · exact Alike.flatMap fun r _ => alike_naming hr r
  rcases eq_or_ne b .unreferenced with rfl | hb'
  · rw [rulesIn_eq_nil hu]
    exact Alike.refl _
  · rw [(sameView_firsts hr hd).check hb hb']
    exact Alike.refl _

/-! ### Whole analyses -/

theorem firstPerFile_assignRoles (roles : List RoleDefinition) (symbols : List Symbol) :
    firstPerFile (assignRoles roles symbols) = assignRoles roles (firstPerFile symbols) := by
  have samePath : ∀ s : Symbol,
      Symbol.path { s with role := roleOf roles s.path } = Symbol.path s := fun _ => rfl
  exact freshBy_map samePath [] symbols

theorem perFile_role_assignRoles (roles : List RoleDefinition) (symbols : List Symbol) :
    PerFile Symbol.role (assignRoles roles symbols) := by
  intro s hs t ht hp
  obtain ⟨s', -, rfl⟩ := List.mem_map.mp hs
  obtain ⟨t', -, rfl⟩ := List.mem_map.mp ht
  exact congrArg (roleOf roles) hp

theorem perFile_dependencies_assignRoles {symbols : List Symbol}
    (h : PerFile Symbol.dependencies symbols) (roles : List RoleDefinition) :
    PerFile Symbol.dependencies (assignRoles roles symbols) := by
  intro s hs t ht hp
  obtain ⟨s', hs', rfl⟩ := List.mem_map.mp hs
  obtain ⟨t', ht', rfl⟩ := List.mem_map.mp ht
  exact h s' hs' t' ht' hp

theorem scene_firstPerFile (a : Analysis) (rules : RuleSet) (symbols : List Symbol) :
    a.scene rules (firstPerFile symbols) = (a.scene rules symbols).firsts := by
  rw [Scene.firsts, Analysis.scene, Analysis.scene, Analysis.preloaded, Analysis.preloaded,
    firstPerFile_firstPerFile]

/-- How many symbols a file has changes nothing, unless a rule asks which symbols are used. -/
theorem symbols_beyond_the_first_add_nothing :
    (∀ (rules : List Rule) (scene : Scene),
      (∀ r ∈ rules, ∀ body, r.kind ≠ .unreferenced body) →
      PerFile Symbol.role scene.symbols → PerFile Symbol.dependencies scene.symbols →
      Violation.dedup ((RuleSet.ofRules rules).run scene) =
        Violation.dedup ((RuleSet.ofRules rules).run
          { scene with symbols := firstPerFile scene.symbols })) ∧
    ∀ (a : Analysis) (symbols : List Symbol),
      (∀ r ∈ a.activeRules, ∀ body, r.kind ≠ .unreferenced body) →
      PerFile Symbol.dependencies symbols →
      (a.run symbols).violations = (a.run (firstPerFile symbols)).violations ∧
        (a.run symbols).filesChecked = (a.run (firstPerFile symbols)).filesChecked := by
  constructor
  · intro rules scene hu hr hd
    exact (alike_run_firsts hu hr hd).distinctBy_eq
  · intro a symbols hu hd
    simp only [Analysis.run, Analysis.findings]
    rw [← firstPerFile_assignRoles, firstPerFile_firstPerFile, scene_firstPerFile]
    have hr := perFile_role_assignRoles a.grammar.roles symbols
    exact ⟨(alike_run_firsts hu hr (perFile_dependencies_assignRoles hd _)).distinctBy_eq, rfl⟩

/-- A file with two symbols breaks a naming rule twice, and forbidden dependencies once. -/
theorem two_symbols_report_as_one :
    let names : Rule := ⟨⟨"names", .error, none⟩, .naming ⟨.all, "b"⟩⟩
    let noB : Rule := ⟨⟨"no-b", .error, none⟩, .forbidden ⟨.all, .roles .all⟩⟩
    let files : FileView := ⟨fun _ => .error .notFound, fun _ => false⟩
    let symbols : List Symbol := [⟨"a.ts", "one", unknownRole, ["b.ts"], .classDecl⟩,
      ⟨"b.ts", "b", unknownRole, [], .wholeFile⟩,
      ⟨"a.ts", "two", unknownRole, ["b.ts"], .constDecl⟩]
    let a : Analysis := { grammar := ⟨"1", "typescript", [], [names, noB]⟩, files }
    PerFile Symbol.role symbols ∧ PerFile Symbol.dependencies symbols ∧
    (a.findings symbols).map Violation.ruleName = ["names", "names", "no-b"] ∧
    Violation.dedup ((RuleSet.ofRules [names, noB]).run ⟨symbols, files, []⟩) =
      Violation.dedup ((RuleSet.ofRules [names, noB]).run ⟨firstPerFile symbols, files, []⟩) ∧
    (a.run symbols).violations = (a.run (firstPerFile symbols)).violations ∧
      (a.run symbols).filesChecked = (a.run (firstPerFile symbols)).filesChecked := by
  intro names noB files symbols a
  have role : PerFile Symbol.role symbols := by
    simp [Determined, symbols]
  have dependencies : PerFile Symbol.dependencies symbols := by
    simp [Determined, symbols]
  have rules : ∀ r ∈ [names, noB], ∀ body, r.kind ≠ .unreferenced body := by
    simp [names, noB]
  refine ⟨role, dependencies, ?_, ?_, ?_⟩
  · decide +kernel
  · exact symbols_beyond_the_first_add_nothing.1 _ ⟨symbols, files, []⟩ rules role dependencies
  · exact symbols_beyond_the_first_add_nothing.2 a symbols rules dependencies

end ArchLint
