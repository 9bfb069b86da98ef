import ArchLint.Files.Tree
import ArchLint.Proofs.Segments

/-!
Files written into folders. What a trail of names leads to afterwards goes by how it lies to the
trail of the file: the file itself, nothing behind it, a folder on the way to it, and beside it what
was there before (`find?_alter_append`, `exists_folder_alter`, `find?_alter_beside`). A path of names
leads from a folder to what its segments find there (`follow_eq_ok_iff`), with a slash at its end
only if that is a folder (`follow_slash_eq_ok_iff`).
-/

namespace ArchLint

open ArchLint.Path (NamesEntry IsDirect IsAbove segments)

/-! ### Entries -/

namespace Entry

variable {change : Option Entry → Entry} {name other : String} {es : List (String × Entry)}

theorem lookup_update_self :
    (update change name es).lookup name = some (change (es.lookup name)) := by
  induction es with
  | nil => simp [update]
  | cons e es ih =>
    obtain ⟨first, entry⟩ := e
    by_cases same : first = name
    · simp [update, same]
    · have later : (name == first) = false := by simpa using Ne.symm same
      simp [update, same, List.lookup_cons, later, ih]

theorem lookup_update_of_ne (h : other ≠ name) :
    (update change name es).lookup other = es.lookup other := by
  have off : (other == name) = false := by simpa using h
  induction es with
  | nil => simp [update, List.lookup_cons, off]
  | cons e es ih =>
    obtain ⟨first, entry⟩ := e
    by_cases same : first = name
    · simp [update, same, List.lookup_cons, off]
    · simp [update, same, List.lookup_cons, ih]

theorem find?_append (trail rest : List String) (e : Entry) :
    e.find? (trail ++ rest) = (e.find? trail).bind (find? rest) := by
  induction trail generalizing e with
  | nil => rfl
  | cons name trail ih =>
    rw [List.cons_append, find?, find?]
    cases (entries (some e)).lookup name with
    | none => rfl
    | some next => exact ih next

/-- A file holds nothing. -/
theorem find?_file_of_ne_nil {trail : List String} (h : trail ≠ []) (content : Content) :
    (file content).find? trail = none := by
  cases trail with
  | nil => exact absurd rfl h
  | cons name trail => rfl

/-- Behind the trail of a change stands what the change puts there. -/
theorem find?_alter_append (trail rest : List String) (e : Option Entry) :
    (alter change trail e).find? (trail ++ rest) =
      (change (e.bind (find? trail))).find? rest := by
  induction trail generalizing e with
  | nil => cases e <;> rfl
  | cons name trail ih =>
    rw [List.cons_append, alter, find?, entries, lookup_update_self, Option.bind_some, ih]
    cases e <;> rfl

/-- On the way to a change there are folders. -/
theorem exists_folder_alter {rest : List String} (h : rest ≠ []) (trail : List String)
    (e : Option Entry) : ∃ es, (alter change (trail ++ rest) e).find? trail = some (folder es) := by
  induction trail generalizing e with
  | nil =>
    cases rest with
    | nil => exact absurd rfl h
    | cons name rest => exact ⟨_, rfl⟩
  | cons name trail ih =>
    rw [List.cons_append, alter, find?, entries, lookup_update_self, Option.bind_some]
    exact ih _

/-- Beside the trail of a change everything is as it was. -/
theorem find?_alter_beside {trail other : List String} (before : ¬ other <+: trail)
    (behind : ¬ trail <+: other) (e : Option Entry) :
    (alter change trail e).find? other = e.bind (find? other) := by
  induction trail generalizing other e with
  | nil => exact absurd List.nil_prefix behind
  | cons name trail ih =>
    cases other with
    | nil => exact absurd List.nil_prefix before
    | cons first other =>
      have old : e.bind (find? (first :: other)) =
          ((entries e).lookup first).bind (find? other) := by
        cases e <;> rfl
      rw [alter, find?, entries, old]
      by_cases same : first = name
      · subst same
        rw [List.cons_prefix_cons] at before behind
        rw [lookup_update_self, Option.bind_some]
        exact ih (fun h => before ⟨rfl, h⟩) (fun h => behind ⟨rfl, h⟩) _
      · rw [lookup_update_of_ne same]

end Entry

/-! ### Paths -/

namespace Path

theorem head?_toList_of_isDirect {path : String} (direct : IsDirect path) :
    path.toList.head? ≠ some '/' := by
  intro slash
  obtain ⟨rest, whole⟩ := List.head?_eq_some_iff.mp slash
  have none : "" ∈ segments path := by
    rw [segments, whole, List.splitOn_cons_eq_if_modifyHead]
    simp
  exact (direct "" none).1 rfl

theorem isAbsolute_of_isDirect {path : String} (direct : IsDirect path) : isAbsolute path = false :=
  decide_eq_false (head?_toList_of_isDirect direct)

theorem isAbsolute_slash {path : String} (direct : IsDirect path) :
    isAbsolute (path ++ "/") = false := by
  have some : path.toList ≠ [] := by
    intro none
    obtain rfl := String.toList_eq_nil_iff.mp none
    exact absurd direct (by decide)
  refine decide_eq_false ?_
  rw [String.toList_append, List.head?_append_of_ne_nil _ some]
  exact head?_toList_of_isDirect direct

theorem ordinary_of_isDirect {path : String} (direct : IsDirect path) :
    ordinary path = segments path :=
  List.filter_eq_self.mpr fun s hs => decide_eq_true ⟨(direct s hs).1, (direct s hs).2.1⟩

theorem segments_slash (path : String) : segments (path ++ "/") = segments path ++ [""] := by
  have empty : path ++ "/" = path ++ "/" ++ "" := by simp
  rw [empty, segments_append_slash]
  rfl

end Path

namespace Spot

variable {top : Entry} {base names : List String} {spot : Spot}

theorem isFile_eq_true_iff {trail : List String} :
    (inside trail).isFile top = true ↔ ∃ content, top.find? trail = some (.file content) := by
  rw [isFile]
  cases top.find? trail with
  | none => simp
  | some entry => cases entry <;> simp

/-- Names lead to what they find from where they start. -/
theorem foldlM_step_eq_ok_iff (entries : ∀ s ∈ names, NamesEntry s)
    (start : (top.find? base).isSome) :
    names.foldlM (step top) (inside base) = .ok spot ↔
      spot = inside (base ++ names) ∧ (top.find? (base ++ names)).isSome := by
  induction names generalizing base with
  | nil =>
    rw [List.foldlM_nil, List.append_nil, and_iff_left start]
    exact ⟨fun h => (Except.ok.inj h).symm, fun h => congrArg _ h.symm⟩
  | cons name names ih =>
    have next : base ++ name :: names = base ++ [name] ++ names := by simp
    have found : top.find? (base ++ name :: names) =
        (top.find? (base ++ [name])).bind (Entry.find? names) := by
      rw [next, Entry.find?_append]
    obtain ⟨named, stays, up⟩ := entries name List.mem_cons_self
    by_cases file : (inside base).isFile top = true
    · -- a file has nothing in it
      obtain ⟨content, here⟩ := isFile_eq_true_iff.mp file
      have none : top.find? (base ++ [name]) = none := by
        rw [Entry.find?_append, here]
        rfl
      rw [List.foldlM_cons, step, if_pos file, found, none]
      exact ⟨nofun, fun h => nomatch h.2⟩
    · have down : step top (inside base) name = (inside base).down top name := by
        simp [step, file, named, stays, up]
      rw [List.foldlM_cons, down, Spot.down]
      by_cases here : (top.find? (base ++ [name])).isSome = true
      · rw [if_pos here, next, ← ih (fun s hs => entries s (List.mem_cons_of_mem _ hs)) here]
        rfl
      · rw [if_neg here, found, Option.not_isSome_iff_eq_none.mp here]
        exact ⟨nofun, fun h => nomatch h.2⟩

end Spot

namespace Workplace

/-- The folder that paths start from has the given names in the tree. -/
structure StandsAt (w : Workplace) (base : List String) : Prop where
  folder : w.folder = .ok (.inside base)
  isThere : (w.top.find? base).isSome

variable {w : Workplace} {base : List String} {path : String} {spot : Spot}

theorem follow_eq_ok_iff (stands : w.StandsAt base) (direct : IsDirect path) :
    w.follow path = .ok spot ↔
      spot = .inside (base ++ segments path) ∧ (w.top.find? (base ++ segments path)).isSome := by
  rw [follow, Path.isAbsolute_of_isDirect direct, stands.folder]
  exact Spot.foldlM_step_eq_ok_iff direct stands.isThere

theorem follow_slash_eq_ok_iff (stands : w.StandsAt base) (direct : IsDirect path) :
    w.follow (path ++ "/") = .ok spot ↔ spot = .inside (base ++ segments path) ∧
      ∃ es, w.top.find? (base ++ segments path) = some (.folder es) := by
  have way (spot : Spot) : (segments path).foldlM (Spot.step w.top) (.inside base) = .ok spot ↔
      spot = .inside (base ++ segments path) ∧ (w.top.find? (base ++ segments path)).isSome :=
    Spot.foldlM_step_eq_ok_iff direct stands.isThere
  rw [follow, Path.isAbsolute_slash direct, stands.folder]
  change (segments (path ++ "/")).foldlM (Spot.step w.top) (.inside base) = .ok spot ↔ _
  rw [Path.segments_slash, List.foldlM_append]
  cases found : w.top.find? (base ++ segments path) with
  | none =>
    simp only [found] at way
    cases led : (segments path).foldlM (Spot.step w.top) (.inside base) with
    | error e => exact ⟨nofun, fun h => nomatch h.2⟩
    | ok spot => exact absurd ((way spot).mp led).2 (by simp)
  | some entry =>
    have led := (way _).mpr ⟨rfl, by rw [found]; rfl⟩
    rw [led]
    cases entry with
    | file content =>
      have file : (Spot.inside (base ++ segments path)).isFile w.top = true :=
        Spot.isFile_eq_true_iff.mpr ⟨content, found⟩
      have stop : Spot.step w.top (.inside (base ++ segments path)) "" = .error .notDirectory :=
        if_pos file
      simp [List.foldlM_cons, stop, bind, Except.bind]
    | folder es =>
      have folder : ¬ (Spot.inside (base ++ segments path)).isFile w.top = true := by
        rw [Spot.isFile_eq_true_iff, found]
        simp
      have stay : Spot.step w.top (.inside (base ++ segments path)) "" =
          .ok (.inside (base ++ segments path)) := by
        simp [Spot.step, folder]
      simp [List.foldlM_cons, stay, bind, Except.bind, pure, Except.pure, eq_comm]

/-! ### Reading -/

theorem exists_follow_iff : (w.follow path).isOk = true ↔ ∃ spot, w.follow path = .ok spot := by
  cases w.follow path with
  | error e => simp [Except.isOk, Except.toBool]
  | ok spot => simp [Except.isOk, Except.toBool]

theorem isThere_eq_true_iff (stands : w.StandsAt base) (direct : IsDirect path) :
    w.isThere path = true ↔ (w.top.find? (base ++ segments path)).isSome := by
  simp [isThere, exists_follow_iff, follow_eq_ok_iff stands direct]

theorem isThere_slash_eq_true_iff (stands : w.StandsAt base) (direct : IsDirect path) :
    w.isThere (path ++ "/") = true ↔
      ∃ es, w.top.find? (base ++ segments path) = some (.folder es) := by
  simp [isThere, exists_follow_iff, follow_slash_eq_ok_iff stands direct]

theorem read_eq_ok_iff (stands : w.StandsAt base) (direct : IsDirect path) {text : String} :
    w.read path = .ok text ↔
      w.top.find? (base ++ segments path) = some (.file (.text text)) := by
  have way (spot : Spot) : w.follow path = .ok spot ↔
      spot = .inside (base ++ segments path) ∧ (w.top.find? (base ++ segments path)).isSome :=
    follow_eq_ok_iff stands direct
  rw [read]
  cases led : w.follow path with
  | error e =>
    have lost : w.top.find? (base ++ segments path) = none := by
      by_contra found
      have := (way _).mpr ⟨rfl, Option.isSome_iff_ne_none.mpr found⟩
      rw [led] at this
      cases this
    simp [lost, bind, Except.bind]
  | ok spot =>
    obtain ⟨rfl, found⟩ := (way spot).mp led
    obtain ⟨entry, found⟩ := Option.isSome_iff_exists.mp found
    cases entry with
    | folder es => simp [Spot.content, found, bind, Except.bind]
    | file content => cases content <;> simp [Spot.content, found, Content.read, bind, Except.bind]

/-! ### Writing -/

section

variable {written : String} {content : Content}

theorem write_eq (stands : w.StandsAt base) (direct : IsDirect written) :
    w.write written content =
      { w with top := w.top.putFile (base ++ segments written) content } := by
  rw [write, stands.folder, Path.ordinary_of_isDirect direct]

theorem StandsAt.write (stands : w.StandsAt base) (direct : IsDirect written) :
    (w.write written content).StandsAt base := by
  rw [write_eq stands direct]
  obtain ⟨es, found⟩ : ∃ es, (w.top.putFile (base ++ segments written) content).find? base =
      some (.folder es) := Entry.exists_folder_alter (Path.segments_ne_nil written) _ _
  exact ⟨stands.folder, by rw [found]; rfl⟩

/-- The file that is written stands where its path leads. -/
theorem find?_write_self (stands : w.StandsAt base) (direct : IsDirect written) :
    (w.write written content).top.find? (base ++ segments written) = some (.file content) := by
  rw [write_eq stands direct]
  have here : (w.top.putFile (base ++ segments written) content).find?
      (base ++ segments written ++ []) = some (.file content) := Entry.find?_alter_append _ _ _
  rwa [List.append_nil] at here

theorem find?_write_below (stands : w.StandsAt base) (direct : IsDirect written)
    (below : IsAbove written path) :
    (w.write written content).top.find? (base ++ segments path) = none := by
  obtain ⟨rest, more, whole⟩ := Path.isAbove_iff.mp below
  rw [write_eq stands direct, whole, ← List.append_assoc]
  exact (Entry.find?_alter_append _ rest _).trans (Entry.find?_file_of_ne_nil more content)

theorem exists_folder_write (stands : w.StandsAt base) (direct : IsDirect written)
    (above : IsAbove path written) :
    ∃ es, (w.write written content).top.find? (base ++ segments path) = some (.folder es) := by
  obtain ⟨rest, more, whole⟩ := Path.isAbove_iff.mp above
  rw [write_eq stands direct, whole, ← List.append_assoc]
  exact Entry.exists_folder_alter more _ _

/-- Whatever is neither above nor below the file that is written is left alone. -/
theorem find?_write_beside (stands : w.StandsAt base) (direct : IsDirect written)
    (apart : path ≠ written) (above : ¬ IsAbove path written) (below : ¬ IsAbove written path) :
    (w.write written content).top.find? (base ++ segments path) =
      w.top.find? (base ++ segments path) := by
  rw [write_eq stands direct]
  refine Entry.find?_alter_beside ?_ ?_ _
  · rw [List.prefix_append_right_inj]
    exact fun h => above ⟨h, apart⟩
  · rw [List.prefix_append_right_inj]
    exact fun h => below ⟨h, apart.symm⟩

end

end Workplace

end ArchLint
