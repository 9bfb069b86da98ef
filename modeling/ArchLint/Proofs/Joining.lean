import ArchLint.Proofs.Segments
import ArchLint.TypeScript.Specifier
import Mathlib.Data.List.Infix

/-!
Where a relative module name leads. The segments of the name are taken one after the other from the
directory of the importing file, and what is left is a way down from the root of the project
(`mem_of_joinFrom`). There is none exactly if the name leads above the root at some point, even if
it comes back (`joinFrom_eq_none_iff`), and detours make no difference (`join_detoured`).
-/

namespace ArchLint.TypeScript

open ArchLint.Path (NamesEntry IsDirect directories segments ofSegments)

/-- At some point the segments have led up more often than they have led down, and that by more than
the depth they started at. -/
def LeadsOut (depth : Nat) (parts : List String) : Prop :=
  ∃ way, way <+: parts ∧ depth + way.countP (NamesEntry ·) < way.count ".."

/-- Segments that come back to where they start. -/
inductive IsDetour : List String → Prop where
  | nothing : IsDetour [""]
  | here : IsDetour ["."]
  | back {entry : String} : NamesEntry entry → '/' ∉ entry.toList → IsDetour [entry, ".."]

/-- A module name with a detour before its segment `n`. -/
def detoured (specifier : String) (n : Nat) (detour : List String) : String :=
  ofSegments ((segments specifier).take n ++ detour ++ (segments specifier).drop n)

/-! ### One segment -/

theorem segment_cases (s : String) : (s = "" ∨ s = ".") ∨ s = ".." ∨ NamesEntry s := by
  by_cases up : s = ".."
  · exact Or.inr (Or.inl up)
  · by_cases stays : s = "" ∨ s = "."
    · exact Or.inl stays
    · rw [not_or] at stays
      exact Or.inr (Or.inr ⟨stays.1, stays.2, up⟩)

theorem stepInto_of_stays {s : String} (h : s = "" ∨ s = ".") (dir : List String) :
    stepInto dir s = some dir := if_pos h

theorem stepInto_up (dir : List String) (last : String) :
    stepInto (dir ++ [last]) ".." = some dir := by
  simp [stepInto]

theorem stepInto_of_namesEntry {s : String} (h : NamesEntry s) (dir : List String) :
    stepInto dir s = some (dir ++ [s]) := by
  obtain ⟨notNothing, notHere, notUp⟩ := h
  simp [stepInto, notNothing, notHere, notUp]

/-- A step adds the segment if that names an entry, and nothing else. -/
theorem mem_of_stepInto {dir next : List String} {t : String} (h : stepInto dir t = some next) :
    ∀ s ∈ next, s ∈ dir ∨ s = t ∧ NamesEntry t := by
  intro s hs
  rcases segment_cases t with stays | rfl | entry
  · rw [stepInto_of_stays stays] at h
    cases h
    exact Or.inl hs
  · rcases List.eq_nil_or_concat dir with rfl | ⟨dir, last, rfl⟩
    · exact nomatch h
    · rw [List.concat_eq_append] at h ⊢
      rw [stepInto_up] at h
      cases h
      exact Or.inl (List.mem_append_left _ hs)
  · rw [stepInto_of_namesEntry entry] at h
    cases h
    rcases List.mem_append.mp hs with hs | hs
    · exact Or.inl hs
    · exact Or.inr ⟨List.mem_singleton.mp hs, entry⟩

theorem joinFrom_cons (dir : List String) (s : String) (parts : List String) :
    joinFrom dir (s :: parts) = (stepInto dir s).bind fun next => joinFrom next parts :=
  List.foldlM_cons ..

theorem joinFrom_append (dir parts parts' : List String) :
    joinFrom dir (parts ++ parts') = (joinFrom dir parts).bind fun next => joinFrom next parts' :=
  List.foldlM_append ..

/-! ### Leading out -/

section

variable {depth : Nat} {s : String} {parts : List String}

theorem not_leadsOut_nil : ¬ LeadsOut depth [] := by
  rintro ⟨way, hw, more⟩
  rw [List.prefix_nil.mp hw] at more
  simp at more

/-- Nothing has led out before the first segment. -/
theorem leadsOut_cons : LeadsOut depth (s :: parts) ↔ ∃ way, way <+: parts ∧
    depth + (s :: way).countP (NamesEntry ·) < (s :: way).count ".." := by
  constructor
  · rintro ⟨way, hw, more⟩
    cases way with
    | nil => simp at more
    | cons t way =>
      obtain ⟨rfl, inner⟩ := List.cons_prefix_cons.mp hw
      exact ⟨way, inner, more⟩
  · rintro ⟨way, hw, more⟩
    exact ⟨s :: way, List.cons_prefix_cons.mpr ⟨rfl, hw⟩, more⟩

theorem leadsOut_cons_of_stays (h : s = "" ∨ s = ".") :
    LeadsOut depth (s :: parts) ↔ LeadsOut depth parts := by
  have noEntry : ¬ NamesEntry s := fun entry => h.elim entry.1 entry.2.1
  have notUp : s ≠ ".." := by rcases h with rfl | rfl <;> decide
  rw [leadsOut_cons]
  simp [LeadsOut, noEntry, notUp]

theorem leadsOut_cons_of_namesEntry (h : NamesEntry s) :
    LeadsOut depth (s :: parts) ↔ LeadsOut (depth + 1) parts := by
  rw [leadsOut_cons]
  refine exists_congr fun way => and_congr_right fun _ => ?_
  rw [List.countP_cons_of_pos (by simpa using h), List.count_cons_of_ne h.2.2]
  omega

theorem leadsOut_up : LeadsOut 0 (".." :: parts) :=
  leadsOut_cons.mpr ⟨[], List.nil_prefix, by decide⟩

theorem leadsOut_succ_up : LeadsOut (depth + 1) (".." :: parts) ↔ LeadsOut depth parts := by
  have noEntry : ¬ NamesEntry ".." := fun entry => entry.2.2 rfl
  rw [leadsOut_cons]
  refine exists_congr fun way => and_congr_right fun _ => ?_
  rw [List.countP_cons_of_neg (by simpa using noEntry), List.count_cons_self]
  omega

end

/-! ### All segments -/

/-- Segments lead nowhere exactly if they lead out at some point. -/
theorem joinFrom_eq_none_iff {parts : List String} : ∀ {dir : List String},
    joinFrom dir parts = none ↔ LeadsOut dir.length parts := by
  induction parts with
  | nil =>
    intro dir
    exact iff_of_false (Option.some_ne_none dir) not_leadsOut_nil
  | cons s parts ih =>
    intro dir
    rw [joinFrom_cons]
    rcases segment_cases s with stays | rfl | entry
    · rw [stepInto_of_stays stays, Option.bind_some, leadsOut_cons_of_stays stays]
      exact ih
    · rcases List.eq_nil_or_concat dir with rfl | ⟨dir, last, rfl⟩
      · exact iff_of_true rfl leadsOut_up
      · rw [List.concat_eq_append, stepInto_up, Option.bind_some, List.length_append,
          List.length_singleton, leadsOut_succ_up]
        exact ih
    · rw [stepInto_of_namesEntry entry, Option.bind_some, leadsOut_cons_of_namesEntry entry, ih,
        List.length_append, List.length_singleton]

/-- What is left of the segments are entries, and what is left of the directory. -/
theorem mem_of_joinFrom {parts : List String} : ∀ {dir joined : List String},
    joinFrom dir parts = some joined → ∀ s ∈ joined, s ∈ dir ∨ s ∈ parts ∧ NamesEntry s := by
  induction parts with
  | nil =>
    intro dir joined h s hs
    cases h
    exact Or.inl hs
  | cons t parts ih =>
    intro dir joined h s hs
    rw [joinFrom_cons] at h
    obtain ⟨next, hn, h⟩ := Option.bind_eq_some_iff.mp h
    rcases ih h s hs with hs | ⟨hs, entry⟩
    · rcases mem_of_stepInto hn s hs with hs | ⟨rfl, entry⟩
      · exact Or.inl hs
      · exact Or.inr ⟨List.mem_cons_self, entry⟩
    · exact Or.inr ⟨List.mem_cons_of_mem t hs, entry⟩

theorem joinFrom_detour {detour : List String} (h : IsDetour detour) (dir : List String) :
    joinFrom dir detour = some dir := by
  cases h with
  | nothing => rfl
  | here => rfl
  | back entry _ =>
    rw [joinFrom_cons, stepInto_of_namesEntry entry, Option.bind_some, joinFrom_cons, stepInto_up]
    rfl

theorem joinFrom_around {detour : List String} (h : IsDetour detour)
    (dir before after : List String) :
    joinFrom dir (before ++ detour ++ after) = joinFrom dir (before ++ after) := by
  rw [List.append_assoc, joinFrom_append, joinFrom_append]
  refine congrArg _ (funext fun next => ?_)
  rw [joinFrom_append, joinFrom_detour h, Option.bind_some]

theorem IsDetour.slashless {detour : List String} (h : IsDetour detour) :
    ∀ s ∈ detour, '/' ∉ s.toList := by
  cases h with
  | nothing => decide
  | here => decide
  | back _ slashless => simpa using slashless

/-! ### The path that is meant -/

variable {importer specifier : String}

theorem join_eq_none_iff : join importer specifier = none ↔
    LeadsOut (directories importer).length (segments specifier) := by
  rw [join, Option.map_eq_none_iff]
  exact joinFrom_eq_none_iff

theorem isDirect_of_join (direct : IsDirect importer) {path : String}
    (h : join importer specifier = some path) : path = "" ∨ IsDirect path := by
  obtain ⟨joined, hj, rfl⟩ := Option.map_eq_some_iff.mp h
  rcases eq_or_ne joined [] with rfl | hne
  · exact Or.inl rfl
  have origin := mem_of_joinFrom hj
  have slashless : ∀ s ∈ joined, '/' ∉ s.toList := by
    intro s hs
    rcases origin s hs with hs | ⟨hs, -⟩
    · exact Path.slash_notMem_of_mem_segments (List.mem_of_mem_dropLast hs)
    · exact Path.slash_notMem_of_mem_segments hs
  refine Or.inr fun s hs => ?_
  rw [Path.segments_ofSegments hne slashless] at hs
  rcases origin s hs with hs | ⟨-, entry⟩
  · exact direct s (List.mem_of_mem_dropLast hs)
  · exact entry

theorem segments_detoured {detour : List String} (h : IsDetour detour) (n : Nat) :
    segments (detoured specifier n detour) =
      (segments specifier).take n ++ detour ++ (segments specifier).drop n := by
  refine Path.segments_ofSegments (by cases h <;> simp) fun s hs => ?_
  rw [List.append_assoc, List.mem_append, List.mem_append] at hs
  rcases hs with hs | hs | hs
  · exact Path.slash_notMem_of_mem_segments (List.mem_of_mem_take hs)
  · exact h.slashless s hs
  · exact Path.slash_notMem_of_mem_segments (List.mem_of_mem_drop hs)

/-- A detour makes no difference, wherever it is made. -/
theorem join_detoured {detour : List String} (h : IsDetour detour) (n : Nat) :
    join importer (detoured specifier n detour) = join importer specifier := by
  rw [join, join, segments_detoured h, joinFrom_around h, List.take_append_drop]

theorem resolve_eq_none_of_leadsOut (files : List String)
    (h : LeadsOut (directories importer).length (segments specifier)) :
    resolve files importer specifier = none := by
  unfold resolve
  rw [join_eq_none_iff.mpr h]
  split
  · rfl
  · rfl

/-- A module name leads to a place in the project, unless it leads above the root on the way there,
and then it means no file. Detours do not change where it leads. -/
theorem specifiers_lead_within_the_project (direct : IsDirect importer) (specifier : String) :
    (join importer specifier = none ↔
      LeadsOut (directories importer).length (segments specifier)) ∧
    (∀ path, join importer specifier = some path → path = "" ∨ IsDirect path) ∧
    (∀ detour, IsDetour detour → ∀ n,
      join importer (detoured specifier n detour) = join importer specifier) ∧
    (LeadsOut (directories importer).length (segments specifier) →
      ∀ files, resolve files importer specifier = none) := by
  refine ⟨join_eq_none_iff, fun path => isDirect_of_join direct, ?_, ?_⟩
  · intro detour h n
    exact join_detoured h n
  · intro h files
    exact resolve_eq_none_of_leadsOut files h

/-- The name leads out and comes back, too late. -/
theorem way_out_and_back_leads_nowhere :
    IsDirect "src/a.ts" ∧ LeadsOut (directories "src/a.ts").length (segments "../../src/b") ∧
      join "src/a.ts" "../../src/b" = none ∧
      ∀ files, resolve files "src/a.ts" "../../src/b" = none := by
  have direct : IsDirect "src/a.ts" := by decide
  have out : LeadsOut (directories "src/a.ts").length (segments "../../src/b") :=
    ⟨["..", ".."], by decide, by decide⟩
  obtain ⟨nowhere, -, -, meansNone⟩ := specifiers_lead_within_the_project direct "../../src/b"
  exact ⟨direct, out, nowhere.mpr out, meansNone out⟩

end ArchLint.TypeScript
