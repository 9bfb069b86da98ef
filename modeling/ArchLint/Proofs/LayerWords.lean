import ArchLint.Naming.FileName
import Mathlib.Data.List.Infix

/-!
Layer words at the end of file names. None of them ends with another, so at most one stands at the
end of a name (`eq_of_ends`), and the order in which they are tried does not matter
(`coreIn_eq_core`). Of a base in ASCII letters, a joint and such a word the base remains, since its
letters become small whatever stands around them (`lower_append`).
-/

namespace ArchLint.FileName

open LetterCase (lower lowerAfter small)

/-- The meaningful part of a file name when layer words are tried in another order. -/
def coreIn (words : List (List Char)) (name : List Char) : List Char :=
  (words.findSome? (beforeWord? (lower (stem name)))).getD (lower (stem name))

theorem core_eq (name : List Char) : core name = coreIn layerWords name := rfl

/-- A character that has one small form, wherever it stands. -/
def IsPlain (c : Char) : Prop := c.toNat ≠ 0x3A3

/-! ### Small letters -/

theorem small_ne_nil (c : Char) : small c ≠ [] := by
  unfold small
  split_ifs
  all_goals exact List.cons_ne_nil _ _

theorem lower_ne_nil {cs : List Char} (h : cs ≠ []) : lower cs ≠ [] := by
  obtain ⟨c, cs, rfl⟩ := List.exists_cons_of_ne_nil h
  rw [lower, lowerAfter]
  refine List.append_ne_nil_of_left_ne_nil ?_ _
  split
  · exact List.cons_ne_nil _ _
  · exact small_ne_nil c

theorem lowerAfter_append : ∀ {s : List Char}, (∀ c ∈ s, IsPlain c) → ∀ before t : List Char,
    lowerAfter before (s ++ t) = s.flatMap small ++ lowerAfter (s.reverse ++ before) t
  | [], _, before, t => rfl
  | c :: s, h, before, t => by
    have plain : c.toNat ≠ 0x3A3 := h c List.mem_cons_self
    have rest := lowerAfter_append (fun d hd => h d (List.mem_cons_of_mem c hd)) (c :: before) t
    rw [List.cons_append, lowerAfter, if_neg plain, rest]
    simp

theorem lowerAfter_of_isPlain {s : List Char} (h : ∀ c ∈ s, IsPlain c) (before : List Char) :
    lowerAfter before s = s.flatMap small := by
  simpa [lowerAfter] using lowerAfter_append h before []

theorem lower_append {s t : List Char} (hs : ∀ c ∈ s, IsPlain c) (ht : ∀ c ∈ t, IsPlain c) :
    lower (s ++ t) = lower s ++ lower t := by
  rw [lower, lower, lower, lowerAfter_append hs, lowerAfter_of_isPlain ht,
    lowerAfter_of_isPlain hs, lowerAfter_of_isPlain ht]

/-- A sigma leaves a letter beyond the small ASCII ones. -/
theorem isPlain_of_lowerAfter : ∀ {s before : List Char},
    (∀ c ∈ lowerAfter before s, c.toNat < 128) → ∀ c ∈ s, IsPlain c
  | [], _, _, _, hc => by cases hc
  | d :: s, before, h, c, hc => by
    rw [lowerAfter] at h
    rcases List.mem_cons.mp hc with rfl | hc
    · -- of a sigma remains one of its two small forms, neither of which is ASCII
      intro sigma
      have first := h _ <|
        List.mem_append_left _ (by rw [if_pos sigma]; exact List.mem_singleton_self _)
      split at first
      · exact absurd first (by decide)
      · exact absurd first (by decide)
    · exact isPlain_of_lowerAfter (fun e he => h e (List.mem_append_right _ he)) c hc

theorem isPlain_of_ascii {c : Char} (h : c.toNat < 128) : IsPlain c := by
  unfold IsPlain
  omega

/-! ### Parts of names -/

theorem dotless_of_mem_sourceExtensions {ext : List Char} (h : ext ∈ sourceExtensions) :
    '.' ∉ ext := by
  have all : ∀ ext ∈ sourceExtensions, '.' ∉ ext := by decide
  exact all ext h

/-- The extension is cut off if it is one of source files. -/
theorem stem_cases (name : List Char) :
    (∃ ext ∈ sourceExtensions, name = stem name ++ '.' :: ext) ∨
      stem name = name ∧ ∀ ext ∈ sourceExtensions, ∀ before, name ≠ before ++ '.' :: ext := by
  unfold stem
  split
  · rename_i before after found
    obtain ⟨whole, last⟩ := Text.splitLast?_eq_some_iff.mp found
    split
    · rename_i known
      exact .inl ⟨after, known, whole⟩
    · rename_i unknown
      refine .inr ⟨rfl, fun ext hext other same => unknown ?_⟩
      have split' := Text.splitLast?_eq_some_iff.mpr
        ⟨same, dotless_of_mem_sourceExtensions hext⟩
      obtain ⟨-, rfl⟩ := Prod.mk.inj (Option.some.inj (found.symm.trans split'))
      exact hext
  · rename_i none
    refine .inr ⟨rfl, fun ext hext before same => Text.splitLast?_eq_none_iff.mp none ?_⟩
    simp [same]

theorem stem_append {ext : List Char} (h : ext ∈ sourceExtensions) (before : List Char) :
    stem (before ++ '.' :: ext) = before := by
  rw [stem, Text.splitLast?_eq_some_iff.mpr ⟨rfl, dotless_of_mem_sourceExtensions h⟩]
  exact if_pos h

theorem dropJoint_append {c : Char} (h : c ∈ joints) (s : List Char) :
    dropJoint (s ++ [c]) = s := by
  rw [dropJoint, List.getLast?_concat]
  simp only [if_pos h, List.dropLast_concat]

theorem dropJoint_cases (s : List Char) :
    ∃ joint, (joint = [] ∨ ∃ c ∈ joints, joint = [c]) ∧ s = dropJoint s ++ joint := by
  rcases List.eq_nil_or_concat s with rfl | ⟨s, c, rfl⟩
  · exact ⟨[], .inl rfl, rfl⟩
  · rw [List.concat_eq_append]
    by_cases h : c ∈ joints
    · exact ⟨[c], .inr ⟨c, h, rfl⟩, by rw [dropJoint_append h]⟩
    · refine ⟨[], .inl rfl, ?_⟩
      rw [dropJoint, List.getLast?_concat]
      simp [h]

theorem beforeWord?_eq_some_iff {name word r : List Char} :
    beforeWord? name word = some r ↔ ∃ rest, name = rest ++ word ∧ dropJoint rest = r ∧ r ≠ [] := by
  unfold beforeWord?
  constructor
  · intro h
    split at h
    · rename_i rest found
      split at h
      · cases h
      · rename_i left
        obtain rfl := Option.some.inj h
        exact ⟨rest, Text.dropTail?_eq_some_iff.mp found, rfl, left⟩
    · cases h
  · rintro ⟨rest, rfl, rfl, left⟩
    rw [Text.dropTail?_eq_some_iff.mpr rfl]
    exact if_neg left

/-! ### The word at the end -/

/-- Only one layer word stands at the end of a name. -/
theorem eq_of_ends {name word word' : List Char} (hw : word ∈ layerWords)
    (hw' : word' ∈ layerWords) (ends : word <:+ name) (ends' : word' <:+ name) : word = word' := by
  have none : ∀ v ∈ layerWords, ∀ w ∈ layerWords, v <:+ w → v = w := by decide
  rcases List.suffix_or_suffix_of_suffix ends ends' with h | h
  · exact none _ hw _ hw' h
  · exact (none _ hw' _ hw h).symm

theorem coreIn_of_ends {words : List (List Char)} (order : words.Perm layerWords)
    {name rest word : List Char} (hw : word ∈ layerWords) (h : lower (stem name) = rest ++ word)
    (left : dropJoint rest ≠ []) : coreIn words name = dropJoint rest := by
  have fits : beforeWord? (lower (stem name)) word = some (dropJoint rest) :=
    beforeWord?_eq_some_iff.mpr ⟨rest, h, rfl, left⟩
  cases found : words.findSome? (beforeWord? (lower (stem name))) with
  | none =>
    rw [List.findSome?_eq_none_iff.mp found word (order.mem_iff.mpr hw)] at fits
    cases fits
  | some r =>
    obtain ⟨word', hw', fits'⟩ := List.exists_of_findSome?_eq_some found
    obtain ⟨rest', h', -, -⟩ := beforeWord?_eq_some_iff.mp fits'
    -- whichever word is found first, it is the one that stands there
    obtain rfl := eq_of_ends hw (order.mem_iff.mp hw') ⟨rest, h.symm⟩ ⟨rest', h'.symm⟩
    rw [coreIn, found, ← fits', fits]
    rfl

theorem coreIn_eq_core {words : List (List Char)} (order : words.Perm layerWords)
    (name : List Char) : coreIn words name = core name := by
  cases found : layerWords.findSome? (beforeWord? (lower (stem name))) with
  | none =>
    have none : words.findSome? (beforeWord? (lower (stem name))) = none :=
      List.findSome?_eq_none_iff.mpr fun w hw =>
        List.findSome?_eq_none_iff.mp found w (order.mem_iff.mp hw)
    rw [core_eq, coreIn, coreIn, found, none]
  | some r =>
    obtain ⟨word, hw, fits⟩ := List.exists_of_findSome?_eq_some found
    obtain ⟨rest, h, rfl, left⟩ := beforeWord?_eq_some_iff.mp fits
    rw [core_eq, coreIn_of_ends order hw h left, coreIn_of_ends (List.Perm.refl _) hw h left]

theorem core_cases (name : List Char) : core name = lower (stem name) ∨
    ∃ word ∈ layerWords, ∃ joint, (joint = [] ∨ ∃ c ∈ joints, joint = [c]) ∧
      lower (stem name) = core name ++ joint ++ word ∧ core name ≠ [] := by
  cases found : layerWords.findSome? (beforeWord? (lower (stem name))) with
  | none =>
    left
    rw [core_eq, coreIn, found]
    rfl
  | some r =>
    obtain ⟨word, hw, fits⟩ := List.exists_of_findSome?_eq_some found
    obtain ⟨rest, h, rfl, left⟩ := beforeWord?_eq_some_iff.mp fits
    obtain ⟨joint, hj, whole⟩ := dropJoint_cases rest
    rw [core_eq, coreIn_of_ends (List.Perm.refl _) hw h left]
    exact .inr ⟨word, hw, joint, hj, by rw [← whole, h], left⟩

theorem core_ne_nil {name : List Char} (h : stem name ≠ []) : core name ≠ [] := by
  rcases core_cases name with same | ⟨-, -, -, -, -, left⟩
  · rw [same]
    exact lower_ne_nil h
  · exact left

theorem core_append {base word ext : List Char} {joint : Char} (hbase : base ≠ [])
    (ascii : ∀ c ∈ base, c.toNat < 128) (hj : joint ∈ joints) (hw : lower word ∈ layerWords)
    (hext : ext ∈ sourceExtensions) :
    core (base ++ joint :: word ++ '.' :: ext) = lower base := by
  -- decided by `all`, which goes through the letters of the words, not through all characters
  have asciiWord : ∀ w ∈ layerWords, ∀ c ∈ w, c.toNat < 128 := by
    simpa using (by decide : (layerWords.all fun w => w.all (·.toNat < 128)) = true)
  have asciiJoint : ∀ c ∈ joints, c.toNat < 128 ∧ lower [c] = [c] := by
    simpa using (by decide : (joints.all fun c => c.toNat < 128 ∧ lower [c] = [c]) = true)
  have plainWord : ∀ c ∈ word, IsPlain c := isPlain_of_lowerAfter (asciiWord _ hw)
  have plainBase : ∀ c ∈ base, IsPlain c := fun c hc => isPlain_of_ascii (ascii c hc)
  have plainJoint : ∀ c ∈ [joint], IsPlain c := by
    simpa using isPlain_of_ascii (asciiJoint joint hj).1
  have plainBoth : ∀ c ∈ base ++ [joint], IsPlain c := by
    intro c hc
    rcases List.mem_append.mp hc with hc | hc
    · exact plainBase c hc
    · exact plainJoint c hc
  have small : lower (stem (base ++ joint :: word ++ '.' :: ext)) =
      (lower base ++ [joint]) ++ lower word := by
    rw [stem_append hext, List.append_cons, lower_append plainBoth plainWord,
      lower_append plainBase plainJoint, (asciiJoint joint hj).2]
  have cut : dropJoint (lower base ++ [joint]) = lower base := dropJoint_append hj _
  have left : dropJoint (lower base ++ [joint]) ≠ [] := by
    rw [cut]
    exact lower_ne_nil hbase
  rw [core_eq, coreIn_of_ends (List.Perm.refl _) hw small left, cut]

/-- Of a file name the stem in small letters remains, or what stands in it before a layer word and
at most one joint, and of something never nothing; the order in which the words are tried does not
matter. A base in ASCII letters is what remains of every name made of it, a joint, a layer word in
any letter case and a source extension. -/
theorem names_of_one_base_have_one_core :
    (∀ name,
      ((∃ ext ∈ sourceExtensions, name = stem name ++ '.' :: ext) ∨
        stem name = name ∧ ∀ ext ∈ sourceExtensions, ∀ before, name ≠ before ++ '.' :: ext) ∧
      (core name = lower (stem name) ∨
        ∃ word ∈ layerWords, ∃ joint, (joint = [] ∨ ∃ c ∈ joints, joint = [c]) ∧
          lower (stem name) = core name ++ joint ++ word) ∧
      (stem name ≠ [] → core name ≠ []) ∧
      ∀ words, words.Perm layerWords → coreIn words name = core name) ∧
    ∀ base joint word ext, base ≠ [] → (∀ c ∈ base, c.toNat < 128) → joint ∈ joints →
      lower word ∈ layerWords → ext ∈ sourceExtensions →
      core (base ++ joint :: word ++ '.' :: ext) = lower base := by
  refine ⟨fun name => ⟨stem_cases name, ?_, core_ne_nil, fun words order => ?_⟩,
    fun base joint word ext => core_append⟩
  · exact (core_cases name).imp_right fun ⟨word, hw, joint, hj, whole, _⟩ =>
      ⟨word, hw, joint, hj, whole⟩
  · exact coreIn_eq_core order name

/-- The base ends with a layer word itself, and the word behind it holds a joint. -/
theorem one_layer_word_is_cut_off :
    let name := "User-Service.Use-Case.mts".toList
    core name = "user-service".toList ∧ coreIn layerWords.reverse name = "user-service".toList ∧
      core "service.ts".toList ≠ [] := by
  intro name
  obtain ⟨each, cut⟩ := names_of_one_base_have_one_core
  have left : core name = lower "User-Service".toList :=
    cut "User-Service".toList '.' "Use-Case".toList "mts".toList (by decide) (by simp) (by decide)
      (by decide) (by decide)
  have small : lower "User-Service".toList = "user-service".toList := by decide
  refine ⟨left.trans small, ?_, (each "service.ts".toList).2.2.1 (by decide)⟩
  rw [(each name).2.2.2 _ layerWords.reverse_perm, left, small]

end ArchLint.FileName
