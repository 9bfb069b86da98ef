import ArchLint.Proofs.WordPatterns
import Mathlib.Data.List.Forall2
import Mathlib.Data.List.SplitBy
import Mathlib.Data.List.TakeWhile

/-!
Words of a thesaurus in a text. A text is made of runs, of word characters and of other characters
in turn (`runs`). Replacing a word, which looks at the edges of words only, changes the runs that
are the word and no others (`replaceIn_eq_flatMap`), and the runs of the result are those that the
words were changed to (`runs_flatMap`). So the replacements of all groups, made one after the other,
change every run by itself; where the groups have no word in common, a word of a group becomes the
first of its group and stays that. All words but those of an extreme length are exchanged
(`map_exchanged_eq_self`).
-/

namespace ArchLint.Thesaurus

/-- The words of a group, in small letters. -/
def members (group : List String) : List (List Char) :=
  group.map fun w => LetterCase.lower w.toList

/-- The words of a group that are exchanged: the first, and the others as far as they have patterns. -/
def exchanged : List String → List String
  | [] => []
  | first :: others => first :: others.filter fun w => hasPattern (LetterCase.lower w.toList)

/-- Some characters, all of which are of words or none. -/
structure IsRun (ofWord : Bool) (cs : List Char) : Prop where
  nonempty : cs ≠ []
  alike : ∀ c ∈ cs, Property.word.contains c = ofWord

/-- A thesaurus of words that each stand in one group at most. -/
structure IsTidy (groups : List (List String)) : Prop where
  words : ∀ g ∈ groups, ∀ w ∈ members g, IsRun true w
  apart : groups.Pairwise fun g h => ∀ w ∈ members g, w ∉ members h

instance (b : Bool) (cs : List Char) : Decidable (IsRun b cs) :=
  decidable_of_iff (cs ≠ [] ∧ cs.all (Property.word.contains · == b) = true)
    ⟨fun h => ⟨h.1, by simpa using h.2⟩, fun h => ⟨h.nonempty, by simpa using h.alike⟩⟩

instance (groups : List (List String)) : Decidable (IsTidy groups) :=
  decidable_of_iff ((∀ g ∈ groups, ∀ w ∈ members g, IsRun true w) ∧
    groups.Pairwise fun g h => ∀ w ∈ members g, (members h).contains w = false)
    ⟨fun h => ⟨h.1, by simpa using h.2⟩, fun h => ⟨h.words, by simpa using h.apart⟩⟩

/-- The longest runs of word characters in a text, and what stands between them. -/
def runs (text : List Char) : List (List Char) :=
  text.splitBy fun a b => Property.word.contains a == Property.word.contains b

/-- The first word of the group in which a word is, or the word itself if it is in none. -/
def representative (groups : List (List String)) (word : List Char) : List Char :=
  match groups.find? fun g => (members g).contains word with
  | some (first :: _) => LetterCase.lower first.toList
  | _ => word

/-- The texts are the same, but for whole words that have others of their groups in their places. -/
def SameButSynonyms (groups : List (List String)) (a b : List Char) : Prop :=
  List.Forall₂ (fun u v => u = v ∨ ∃ g ∈ groups, u ∈ members g ∧ v ∈ members g) (runs a) (runs b)

/-! ### Runs -/

theorem IsRun.isChain {b : Bool} {cs : List Char} (h : IsRun b cs) :
    cs.IsChain fun c d => (Property.word.contains c == Property.word.contains d) = true := by
  refine List.Pairwise.isChain (List.pairwise_of_forall_mem_list fun c hc d hd => ?_)
  rw [h.alike c hc, h.alike d hd, beq_self_eq_true]

theorem IsRun.kind_unique {b d : Bool} {cs : List Char} (h : IsRun b cs) (h' : IsRun d cs) :
    b = d := by
  have c := List.head_mem h.nonempty
  rw [← h.alike _ c, ← h'.alike _ c]

theorem isRun_of_mem_runs {text r : List Char} (h : r ∈ runs text) : ∃ b, IsRun b r := by
  have equal : r.IsChain fun c d => Property.word.contains c = Property.word.contains d :=
    (List.isChain_of_mem_splitBy h).imp fun _ _ same => eq_of_beq same
  cases r with
  | nil => exact absurd rfl (List.ne_nil_of_mem_splitBy h)
  | cons c cs =>
    rw [← List.isChain_map, List.isChain_iff_pairwise, List.map_cons, List.pairwise_cons] at equal
    refine ⟨Property.word.contains c, List.cons_ne_nil c cs, fun d hd => ?_⟩
    rcases List.mem_cons.mp hd with rfl | hd
    · rfl
    · exact (equal.1 _ (List.mem_map_of_mem hd)).symm

/-- A run that goes no farther is the first of the runs. -/
theorem runs_append {b : Bool} {r rest : List Char} (h : IsRun b r)
    (ends : ∀ c ∈ rest.head?, Property.word.contains c ≠ b) :
    runs (r ++ rest) = r :: runs rest := by
  have single : runs r = [r] := List.splitBy_of_isChain h.nonempty h.isChain
  rw [runs, List.splitBy_append, ← runs, ← runs, single, List.singleton_append]
  intro c hc d hd
  rw [h.alike c (List.mem_of_mem_getLast? hc), beq_eq_false_iff_ne]
  exact (ends d hd).symm

/-- What goes no farther to either side is one of the runs. -/
theorem runs_around {b : Bool} {pre r post : List Char} (h : IsRun b r)
    (starts : ∀ c ∈ pre.getLast?, Property.word.contains c ≠ b)
    (ends : ∀ c ∈ post.head?, Property.word.contains c ≠ b) :
    runs (pre ++ r ++ post) = runs pre ++ r :: runs post := by
  have rest : runs (r ++ post) = r :: runs post := runs_append h ends
  rw [List.append_assoc, runs, List.splitBy_append, ← runs, ← runs, rest]
  intro c hc d hd
  rw [List.head?_append_of_ne_nil _ h.nonempty] at hd
  rw [h.alike d (List.mem_of_mem_head? hd), beq_eq_false_iff_ne]
  exact starts c hc

/-- Runs that are changed to runs of their kind are the runs of the result. -/
theorem runs_flatMap {f : List Char → List Char} (hf : ∀ b r, IsRun b r → IsRun b (f r))
    (text : List Char) : runs ((runs text).flatMap f) = (runs text).map f := by
  have kept {r : List Char} (hr : r ∈ runs text) : ∃ b, IsRun b r ∧ IsRun b (f r) :=
    (isRun_of_mem_runs hr).imp fun b h => ⟨h, hf b r h⟩
  refine List.splitBy_eq_iff.mpr ⟨List.flatMap_def .., fun empty => ?_, fun r' hr' => ?_, ?_⟩
  · obtain ⟨r, hr, none⟩ := List.mem_map.mp empty
    obtain ⟨b, -, run⟩ := kept hr
    exact run.nonempty none
  · obtain ⟨r, hr, rfl⟩ := List.mem_map.mp hr'
    obtain ⟨b, -, run⟩ := kept hr
    exact run.isChain
  · refine (List.isChain_map f).mpr ?_
    refine (List.isChain_getLast_head_splitBy _ text).imp_of_mem_imp fun r t hr ht apart => ?_
    obtain ⟨b, run, run'⟩ := kept hr
    obtain ⟨d, after, after'⟩ := kept ht
    obtain ⟨_, _, differ⟩ := apart
    refine ⟨run'.nonempty, after'.nonempty, ?_⟩
    rw [run.alike _ (List.getLast_mem _), after.alike _ (List.head_mem _)] at differ
    rwa [run'.alike _ (List.getLast_mem _), after'.alike _ (List.head_mem _)]

/-! ### One replacement -/

/-- What one replacement makes of a run. -/
def rename (word image r : List Char) : List Char := if r = word then image else r

theorem isRun_rename {word image : List Char} (hw : IsRun true word) (hi : IsRun true image)
    {b : Bool} {r : List Char} (h : IsRun b r) : IsRun b (rename word image r) := by
  unfold rename
  split
  · rename_i same
    rw [h.kind_unique (same ▸ hw)]
    exact hi
  · exact h

@[simp]
theorem isWord_none : isWord none = false := rfl

@[simp]
theorem isWord_some (c : Char) : isWord (some c) = Property.word.contains c := by
  rw [isWord, Option.any_some]

section

variable {word image : List Char} (hw : IsRun true word)
include hw

theorem isWord_head?_append (rest : List Char) : isWord (word ++ rest).head? = true := by
  rw [List.head?_append_of_ne_nil _ hw.nonempty, List.head?_eq_some_head hw.nonempty, isWord_some]
  exact hw.alike _ (List.head_mem _)

/-- A word stands where no word goes on before it or behind it. -/
theorem wholeWord?_eq_some_iff {before : Option Char} {cs rest : List Char} :
    wholeWord? word before cs = some rest ↔
      cs = word ++ rest ∧ isWord before = false ∧ isWord rest.head? = false := by
  have last : Property.word.contains (word.getLast hw.nonempty) = true :=
    hw.alike _ (List.getLast_mem _)
  simp only [wholeWord?, List.getLast?_eq_some_getLast hw.nonempty, isEdge, isWord_some, last]
  constructor
  · intro h
    split at h
    · rename_i rest' found
      obtain rfl := Text.dropHead?_eq_some_iff.mp found
      rw [isWord_head?_append hw] at h
      split at h
      · rename_i edges
        obtain rfl := Option.some.inj h
        simpa using edges
      · cases h
    · cases h
  · rintro ⟨rfl, fresh, ends⟩
    rw [Text.dropHead?_eq_some_iff.mpr rfl]
    simp only [isWord_head?_append hw, fresh, ends]
    rfl

omit hw in
/-- A run that is not the word is left as it is. -/
theorem flatMap_rename_append {b : Bool} {r rest : List Char}
    (alike : ∀ c ∈ r, Property.word.contains c = b)
    (ends : ∀ c ∈ rest.head?, Property.word.contains c ≠ b) (other : r ≠ word) :
    (runs (r ++ rest)).flatMap (rename word image) =
      r ++ (runs rest).flatMap (rename word image) := by
  by_cases empty : r = []
  · rw [empty, List.nil_append, List.nil_append]
  · rw [runs_append ⟨empty, alike⟩ ends, List.flatMap_cons, rename, if_neg other]

theorem ne_of_forall_not {r : List Char} (h : ∀ c ∈ r, Property.word.contains c = false) :
    r ≠ word := by
  rintro rfl
  have c := List.head_mem hw.nonempty
  exact absurd (hw.alike _ c) (by simp [h _ c])

omit hw in
theorem forall_mem_cons_takeWhile {p : Char → Bool} {c : Char} (hc : p c = true)
    (cs : List Char) : ∀ d ∈ c :: cs.takeWhile p, p d = true :=
  List.forall_mem_cons.mpr ⟨hc, fun _ => List.mem_takeWhile_imp⟩

omit hw in
theorem eq_false_of_mem_head?_dropWhile {p : Char → Bool} {cs : List Char} {c : Char}
    (h : c ∈ (cs.dropWhile p).head?) : p c = false := by
  have first := List.head?_dropWhile_not p cs
  rw [Option.mem_def.mp h] at first
  exact first

theorem flatMap_rename_cons {c : Char} (hc : Property.word.contains c = false) (cs : List Char) :
    (runs (c :: cs)).flatMap (rename word image) =
      c :: (runs cs).flatMap (rename word image) := by
  let gap := cs.takeWhile fun d => !Property.word.contains d
  let rest := cs.dropWhile fun d => !Property.word.contains d
  have whole : gap ++ rest = cs := List.takeWhile_append_dropWhile
  have outside : ∀ d ∈ c :: gap, Property.word.contains d = false := by
    simpa only [Bool.not_eq_true'] using
      forall_mem_cons_takeWhile (p := fun d => !Property.word.contains d) (by simp [hc]) cs
  have inside : ∀ d ∈ gap, Property.word.contains d = false :=
    fun d hd => outside d (List.mem_cons_of_mem c hd)
  have ends : ∀ d ∈ rest.head?, Property.word.contains d ≠ false :=
    fun d hd => by simpa using eq_false_of_mem_head?_dropWhile hd
  calc (runs (c :: cs)).flatMap (rename word image)
      = (runs ((c :: gap) ++ rest)).flatMap (rename word image) := by
        rw [List.cons_append, whole]
    _ = c :: (gap ++ (runs rest).flatMap (rename word image)) := by
        rw [flatMap_rename_append outside ends (ne_of_forall_not hw outside), List.cons_append]
    _ = c :: (runs cs).flatMap (rename word image) := by
        rw [← flatMap_rename_append inside ends (ne_of_forall_not hw inside), whole]

/-- Where the word does not stand, the run that starts there is left as it is. -/
theorem flatMap_rename_of_wholeWord?_eq_none {before : Option Char} {c : Char} {cs : List Char}
    (hc : Property.word.contains c = true) (fresh : isWord before = false)
    (missing : wholeWord? word before (c :: cs) = none) :
    (runs (c :: cs)).flatMap (rename word image) =
      c :: (cs.takeWhile Property.word.contains ++
        (runs (cs.dropWhile Property.word.contains)).flatMap (rename word image)) := by
  let r := c :: cs.takeWhile Property.word.contains
  let rest := cs.dropWhile Property.word.contains
  have whole : c :: cs = r ++ rest := by
    rw [List.cons_append, List.takeWhile_append_dropWhile]
  have inside : ∀ d ∈ r, Property.word.contains d = true := forall_mem_cons_takeWhile hc cs
  have outside : ∀ d ∈ rest.head?, Property.word.contains d = false :=
    fun d hd => eq_false_of_mem_head?_dropWhile hd
  have ends : isWord rest.head? = false := by
    cases h : rest.head? with
    | none => rfl
    | some d => rw [isWord_some, outside d h]
  have other : r ≠ word := by
    intro same
    rw [(wholeWord?_eq_some_iff hw).mpr ⟨same ▸ whole, fresh, ends⟩] at missing
    cases missing
  rw [whole, flatMap_rename_append inside (fun d hd => by simp [outside d hd]) other]
  rfl

/-- A word that has begun before the text goes on as it is; from its end on, runs are changed one by
one. -/
theorem replace_eq : ∀ {fuel : Nat} {before : Option Char} {cs : List Char}, cs.length < fuel →
    replace word image fuel before cs =
      if isWord before then
        cs.takeWhile Property.word.contains ++
          (runs (cs.dropWhile Property.word.contains)).flatMap (rename word image)
      else (runs cs).flatMap (rename word image) := by
  intro fuel
  induction fuel with
  | zero => exact fun h => absurd h (Nat.not_lt_zero _)
  | succ fuel ih =>
    intro before cs bound
    unfold replace
    cases found : wholeWord? word before cs with
    | some rest =>
      -- the word is the first run, and behind it no word has begun
      obtain ⟨rfl, fresh, ends⟩ := (wholeWord?_eq_some_iff hw).mp found
      have last : Property.word.contains (word.getLast hw.nonempty) = true :=
        hw.alike _ (List.getLast_mem _)
      have shorter : rest.length < fuel := by
        have := List.length_pos_iff.mpr hw.nonempty
        rw [List.length_append] at bound
        omega
      have first : runs (word ++ rest) = word :: runs rest :=
        runs_append hw fun c hc => by simpa [Option.mem_def.mp hc] using ends
      have behind : rest.takeWhile Property.word.contains = [] ∧
          rest.dropWhile Property.word.contains = rest := by
        cases rest with
        | nil => exact ⟨rfl, rfl⟩
        | cons c cs => simp_all
      simp only [List.getLast?_eq_some_getLast hw.nonempty]
      rw [ih shorter, isWord_some, if_pos last, fresh, if_neg Bool.false_ne_true, first, behind.1,
        behind.2, List.flatMap_cons, rename, if_pos rfl, List.nil_append]
    | none =>
      cases cs with
      | nil => simp [runs]
      | cons c cs =>
        -- the character is passed over: it is of no word, or of one that has begun, or begins one
        have shorter : cs.length < fuel := Nat.lt_of_succ_lt_succ bound
        simp only [ih shorter, isWord_some]
        cases hc : Property.word.contains c with
        | false => simp [hc, flatMap_rename_cons hw hc]
        | true =>
          cases hb : isWord before with
          | true => simp [hc]
          | false =>
            rw [flatMap_rename_of_wholeWord?_eq_none hw hc hb found]
            simp

theorem replaceIn_eq_flatMap (text : List Char) :
    replaceIn text word image = (runs text).flatMap (rename word image) := by
  rw [replaceIn, replace_eq hw (Nat.lt_succ_self _), isWord_none, if_neg Bool.false_ne_true]

end

/-! ### All replacements -/

theorem exchanged_subset (group : List String) : exchanged group ⊆ group := by
  cases group with
  | nil => exact List.Subset.refl _
  | cons first others => exact List.cons_subset_cons first List.filter_sublist.subset

theorem members_exchanged_subset (group : List String) :
    members (exchanged group) ⊆ members group :=
  List.map_subset _ (exchanged_subset group)

/-- Where all words behind the first have patterns, all are exchanged. -/
theorem map_exchanged_eq_self {groups : List (List String)}
    (h : ∀ g ∈ groups, ∀ w ∈ (members g).tail, hasPattern w = true) :
    groups.map exchanged = groups := by
  refine (List.map_congr_left fun g hg => ?_).trans (List.map_id groups)
  cases g with
  | nil => rfl
  | cons first others =>
    refine congrArg (first :: ·) (List.filter_eq_self.mpr fun w hw => ?_)
    exact h _ hg _ (List.mem_map_of_mem hw)

theorem mem_members_of_mem_replacements {group : List String} {r : List Char × List Char}
    (h : r ∈ replacements group) :
    r.1 ∈ members (exchanged group) ∧ r.2 ∈ members (exchanged group) := by
  cases group with
  | nil => cases h
  | cons first others =>
    obtain ⟨w, hw, rfl⟩ := List.mem_map.mp h
    exact ⟨List.mem_map_of_mem (List.mem_cons_of_mem first hw), List.mem_cons_self⟩

/-- What replacements make of a run, one after the other. -/
def renameAll (rs : List (List Char × List Char)) (r : List Char) : List Char :=
  rs.foldl (fun r s => rename s.1 s.2 r) r

/-- Replacements in a text, one after the other, are replacements in its runs. -/
theorem foldl_replaceIn_eq_flatMap : ∀ {rs : List (List Char × List Char)},
    (∀ s ∈ rs, IsRun true s.1 ∧ IsRun true s.2) → ∀ text : List Char,
      rs.foldl (fun t s => replaceIn t s.1 s.2) text = (runs text).flatMap (renameAll rs)
  | [], _, text => by
    have none : renameAll [] = id := rfl
    rw [none, List.flatMap_id]
    exact (List.flatten_splitBy _ text).symm
  | s :: rs, h, text => by
    obtain ⟨hw, hi⟩ := h s List.mem_cons_self
    have later := foldl_replaceIn_eq_flatMap fun t ht => h t (List.mem_cons_of_mem s ht)
    calc (s :: rs).foldl (fun t s => replaceIn t s.1 s.2) text
        = (runs (replaceIn text s.1 s.2)).flatMap (renameAll rs) := later _
      _ = ((runs text).map (rename s.1 s.2)).flatMap (renameAll rs) := by
          rw [replaceIn_eq_flatMap hw, runs_flatMap fun b r => isRun_rename hw hi]
      _ = (runs text).flatMap (renameAll (s :: rs)) := List.flatMap_map ..

theorem mem_members_cons {w : String} {ws : List String} {r : List Char} :
    r ∈ members (w :: ws) ↔ r = LetterCase.lower w.toList ∨ r ∈ members ws := List.mem_cons

theorem renameAll_to_one (image : List Char) : ∀ (ws : List String) (r : List Char),
    renameAll (ws.map fun w => (LetterCase.lower w.toList, image)) r =
      if r ∈ members ws then image else r
  | [], r => by simp [renameAll, members]
  | w :: ws, r => by
    have step : renameAll ((w :: ws).map fun w => (LetterCase.lower w.toList, image)) r =
        renameAll (ws.map fun w => (LetterCase.lower w.toList, image))
          (rename (LetterCase.lower w.toList) image r) := rfl
    rw [step, renameAll_to_one image ws, rename]
    by_cases same : r = LetterCase.lower w.toList
    · simp [same, mem_members_cons]
    · simp [same, mem_members_cons]

/-- The replacements of a group turn all words that are exchanged into the first. -/
theorem renameAll_replacements (first : String) (others : List String) (r : List Char) :
    renameAll (replacements (first :: others)) r =
      if r ∈ members (exchanged (first :: others)) then LetterCase.lower first.toList else r := by
  rw [replacements, renameAll_to_one, exchanged]
  by_cases same : r = LetterCase.lower first.toList
  · simp [same]
  · simp [same, mem_members_cons]

/-! ### Representatives -/

theorem representative_of_notMem {groups : List (List String)} {w : List Char}
    (h : ∀ g ∈ groups, w ∉ members g) : representative groups w = w := by
  have none : groups.find? (fun g => (members g).contains w) = none := by simpa using h
  rw [representative, none]

theorem representative_cons (first : String) (others : List String) (groups : List (List String))
    (w : List Char) : representative ((first :: others) :: groups) w =
      if w ∈ members (first :: others) then LetterCase.lower first.toList
      else representative groups w := by
  rw [representative, representative, List.find?_cons]
  by_cases h : w ∈ members (first :: others)
  · simp [h]
  · simp [h]

namespace IsTidy

theorem tail {g : List String} {groups : List (List String)} (tidy : IsTidy (g :: groups)) :
    IsTidy groups :=
  ⟨fun h hh => tidy.words h (List.mem_cons_of_mem g hh), tidy.apart.of_cons⟩

theorem map_exchanged {groups : List (List String)} (tidy : IsTidy groups) :
    IsTidy (groups.map exchanged) := by
  refine ⟨List.forall_mem_map.mpr fun g hg w hw => ?_, List.pairwise_map.mpr ?_⟩
  · exact tidy.words g hg w (members_exchanged_subset g hw)
  · refine tidy.apart.imp fun {g h} apart w inG inH => ?_
    exact apart w (members_exchanged_subset g inG) (members_exchanged_subset h inH)

variable {groups : List (List String)} (tidy : IsTidy groups)
include tidy

/-- A word is in one group only. -/
theorem eq_of_mem {g h : List String} (hg : g ∈ groups) (hh : h ∈ groups) {w : List Char}
    (inG : w ∈ members g) (inH : w ∈ members h) : g = h := by
  have symm : Std.Symm fun g h => ∀ w ∈ members g, w ∉ members h :=
    ⟨fun _ _ apart w inH inG => apart w inG inH⟩
  by_contra differ
  exact tidy.apart.forall hg hh differ w inG inH

theorem representative_of_mem {first : String} {others : List String}
    (hg : first :: others ∈ groups) {w : List Char} (hw : w ∈ members (first :: others)) :
    representative groups w = LetterCase.lower first.toList := by
  cases found : groups.find? fun g => (members g).contains w with
  | none => exact absurd hw (by simpa using List.find?_eq_none.mp found _ hg)
  | some g =>
    have inG : w ∈ members g := by simpa using List.find?_some found
    obtain rfl := tidy.eq_of_mem (List.mem_of_find?_eq_some found) hg inG hw
    rw [representative, found]

/-- The representative of a word is in its group, and the word is its own if it has no group. -/
theorem representative_cases (w : List Char) :
    (∃ g ∈ groups, w ∈ members g ∧ representative groups w ∈ members g) ∨
      representative groups w = w := by
  by_cases grouped : ∃ g ∈ groups, w ∈ members g
  · obtain ⟨g, hg, hw⟩ := grouped
    cases g with
    | nil => cases hw
    | cons first others =>
      refine .inl ⟨_, hg, hw, ?_⟩
      rw [tidy.representative_of_mem hg hw]
      exact List.mem_cons_self
  · exact .inr (representative_of_notMem fun g hg hw => grouped ⟨g, hg, hw⟩)

theorem representative_eq {g : List String} (hg : g ∈ groups) {u v : List Char}
    (hu : u ∈ members g) (hv : v ∈ members g) :
    representative groups u = representative groups v := by
  cases g with
  | nil => cases hu
  | cons first others => rw [tidy.representative_of_mem hg hu, tidy.representative_of_mem hg hv]

theorem representative_representative (w : List Char) :
    representative groups (representative groups w) = representative groups w := by
  rcases tidy.representative_cases w with ⟨g, hg, hw, hr⟩ | same
  · exact tidy.representative_eq hg hr hw
  · rw [same, same]

theorem isRun_representative {b : Bool} {r : List Char} (h : IsRun b r) :
    IsRun b (representative groups r) := by
  rcases tidy.representative_cases r with ⟨g, hg, hw, hr⟩ | same
  · rw [h.kind_unique (tidy.words g hg r hw)]
    exact tidy.words g hg _ hr
  · rwa [same]

end IsTidy

/-- Where no word is in two groups, the replacements of all groups turn a word that is exchanged into
the first of its group, which the groups behind leave alone. -/
theorem renameAll_eq_representative : ∀ {groups : List (List String)},
    IsTidy (groups.map exchanged) → ∀ r : List Char,
      renameAll (groups.flatMap replacements) r = representative (groups.map exchanged) r
  | [], _, r => (representative_of_notMem (by simp)).symm
  | [] :: groups, tidy, r => by
    have skipped : representative ([] :: groups.map exchanged) r =
        representative (groups.map exchanged) r := by
      simp [representative, members]
    rw [List.map_cons, exchanged, skipped, ← renameAll_eq_representative tidy.tail r]
    rfl
  | (first :: others) :: groups, tidy, r => by
    have step : renameAll (((first :: others) :: groups).flatMap replacements) r =
        renameAll (groups.flatMap replacements) (renameAll (replacements (first :: others)) r) := by
      rw [List.flatMap_cons, renameAll, List.foldl_append]
      rfl
    rw [step, renameAll_eq_representative tidy.tail, renameAll_replacements, List.map_cons,
      exchanged, representative_cons]
    split
    · refine representative_of_notMem fun g hg => ?_
      exact List.rel_of_pairwise_cons tidy.apart hg _ List.mem_cons_self
    · rfl

section

variable {groups : List (List String)} (tidy : IsTidy groups)
include tidy

theorem apply_eq_flatMap (name : List Char) :
    apply groups name = (runs name).flatMap (representative (groups.map exchanged)) := by
  have words : ∀ s ∈ groups.flatMap replacements, IsRun true s.1 ∧ IsRun true s.2 := by
    intro s hs
    obtain ⟨g, hg, hs⟩ := List.mem_flatMap.mp hs
    obtain ⟨hw, hi⟩ := mem_members_of_mem_replacements hs
    have used := List.mem_map_of_mem (f := exchanged) hg
    exact ⟨tidy.map_exchanged.words _ used _ hw, tidy.map_exchanged.words _ used _ hi⟩
  rw [apply, foldl_replaceIn_eq_flatMap words]
  exact List.flatMap_congr fun r _ => renameAll_eq_representative tidy.map_exchanged r

theorem apply_apply (name : List Char) : apply groups (apply groups name) = apply groups name := by
  rw [apply_eq_flatMap tidy, apply_eq_flatMap tidy,
    runs_flatMap fun b r => tidy.map_exchanged.isRun_representative, List.flatMap_map]
  exact List.flatMap_congr fun r _ => tidy.map_exchanged.representative_representative r

theorem apply_eq_of_sameButSynonyms {a b : List Char}
    (h : SameButSynonyms (groups.map exchanged) a b) : apply groups a = apply groups b := by
  let image := representative (groups.map exchanged)
  have alike : List.Forall₂ (fun u v => image u = image v) (runs a) (runs b) := by
    refine h.imp fun u v synonyms => ?_
    rcases synonyms with rfl | ⟨g, hg, hu, hv⟩
    · rfl
    · exact tidy.map_exchanged.representative_eq hg hu hv
  have same : (runs a).map image = (runs b).map image := by
    rwa [← List.forall₂_eq_eq_eq, List.forall₂_map_left_iff, List.forall₂_map_right_iff]
  rw [apply_eq_flatMap tidy, apply_eq_flatMap tidy, List.flatMap_def, List.flatMap_def, same]

end

/-- Whole words of one group may stand for each other. -/
theorem sameButSynonyms_around {groups : List (List String)} (tidy : IsTidy groups)
    {g : List String} (hg : g ∈ groups) {u v : List Char} (hu : u ∈ members g) (hv : v ∈ members g)
    {pre post : List Char} (starts : isWord pre.getLast? = false)
    (ends : isWord post.head? = false) :
    SameButSynonyms groups (pre ++ u ++ post) (pre ++ v ++ post) := by
  have edge {c? : Option Char} (h : isWord c? = false) :
      ∀ c ∈ c?, Property.word.contains c ≠ true := by
    rintro c hc
    rw [Option.mem_def.mp hc, isWord_some] at h
    simp [h]
  have around {w : List Char} (hw : w ∈ members g) :
      runs (pre ++ w ++ post) = runs pre ++ w :: runs post :=
    runs_around (tidy.words g hg w hw) (edge starts) (edge ends)
  have refl (rs : List (List Char)) : List.Forall₂
      (fun u v => u = v ∨ ∃ g ∈ groups, u ∈ members g ∧ v ∈ members g) rs rs :=
    List.forall₂_same.mpr fun _ _ => .inl rfl
  rw [SameButSynonyms, around hu, around hv]
  exact List.rel_append (refl _) (.cons (.inr ⟨g, hg, hu, hv⟩) (refl _))

/-- Each whole word that is in a group becomes the first of its group, and nothing else is changed.
So doing it twice changes no more, and names become the same that only differ in words of one group:
in several places, or in one between two edges. The groups are those of the words that have patterns,
which all words have unless they are extremely long. -/
theorem words_become_the_first_of_their_group {groups : List (List String)}
    (tidy : IsTidy groups) :
    let used := groups.map exchanged
    ((∀ g ∈ groups, ∀ w ∈ (members g).tail, hasPattern w = true) → used = groups) ∧
    (∀ w, 60 * w.length + 64 ≤ Pattern.roomLimit → hasPattern w = true) ∧
    (∀ name, apply groups name = (runs name).flatMap (representative used)) ∧
    (∀ first others, first :: others ∈ used → ∀ w ∈ members (first :: others),
      representative used w = LetterCase.lower first.toList) ∧
    (∀ w, (∀ g ∈ used, w ∉ members g) → representative used w = w) ∧
    (∀ name, apply groups (apply groups name) = apply groups name) ∧
    (∀ a b, SameButSynonyms used a b → apply groups a = apply groups b) ∧
    ∀ g ∈ used, ∀ u ∈ members g, ∀ v ∈ members g, ∀ pre post,
      isWord pre.getLast? = false → isWord post.head? = false →
        apply groups (pre ++ u ++ post) = apply groups (pre ++ v ++ post) :=
  ⟨map_exchanged_eq_self, fun _ => hasPattern_of_length_le, apply_eq_flatMap tidy,
    fun _ _ hg _ hw => tidy.map_exchanged.representative_of_mem hg hw,
    fun _ => representative_of_notMem, apply_apply tidy,
    fun _ _ => apply_eq_of_sameButSynonyms tidy,
    fun _ hg _ hu _ hv _ _ starts ends => apply_eq_of_sameButSynonyms tidy
      (sameButSynonyms_around tidy.map_exchanged hg hu hv starts ends)⟩

/-- Two groups, a name with a word of each and a word that only starts like one, and another name
with other words of the groups. -/
theorem words_of_one_group_are_exchanged :
    let groups := [["Customer", "client", "BUYER"], [], ["order", "purchase"]]
    let name := "client-clientele.purchase".toList
    let other := "buyer-clientele.order".toList
    IsTidy groups ∧ groups.map exchanged = groups ∧ SameButSynonyms groups name other ∧
      apply groups name = "customer-clientele.order".toList ∧
      apply groups (apply groups name) = apply groups name ∧
      apply groups name = apply groups other := by
  intro groups name other
  have tidy : IsTidy groups := by decide +kernel
  obtain ⟨all, short, whole, -, -, again, exchange, -⟩ := words_become_the_first_of_their_group tidy
  have lengths : ∀ g ∈ groups, ∀ w ∈ (members g).tail, 60 * w.length + 64 ≤ Pattern.roomLimit := by
    decide +kernel
  have used : groups.map exchanged = groups := all fun g hg w hw => short w (lengths g hg w hw)
  rw [used] at whole exchange
  have parts : runs name =
      ["client".toList, ['-'], "clientele".toList, ['.'], "purchase".toList] := by decide +kernel
  have parts' : runs other =
      ["buyer".toList, ['-'], "clientele".toList, ['.'], "order".toList] := by decide +kernel
  have same : SameButSynonyms groups name other := by
    rw [SameButSynonyms, parts, parts']
    refine .cons (.inr ?_) (.cons (.inl rfl) (.cons (.inl rfl) (.cons (.inl rfl)
      (.cons (.inr ?_) .nil))))
    · decide
    · decide
  refine ⟨tidy, used, same, ?_, again name, exchange name other same⟩
  rw [whole, parts]
  decide

end ArchLint.Thesaurus
