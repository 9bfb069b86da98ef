/-!
Looking at the two ends of a text, and for a text inside another. Texts are lists of characters
here, so that every function is a recursion on the text.
-/

namespace ArchLint.Text

/-- The rest of `cs` after `head`, if `cs` starts with it. -/
def dropHead? : (head cs : List Char) → Option (List Char)
  | [], cs => some cs
  | _ :: _, [] => none
  | h :: hs, c :: cs => if h = c then dropHead? hs cs else none

/-- What stands before `tail` in `cs`, if `cs` ends with it. -/
def dropTail? (tail cs : List Char) : Option (List Char) :=
  (dropHead? tail.reverse cs.reverse).map List.reverse

/-- Does `part` occur in the text? -/
def occursIn (part : List Char) : List Char → Bool
  | [] => part.isEmpty
  | c :: cs => (dropHead? part (c :: cs)).isSome || occursIn part cs

/-- The text around its last `sep`. -/
def splitLast? (sep : Char) : List Char → Option (List Char × List Char)
  | [] => none
  | c :: cs =>
    match splitLast? sep cs with
    | some (before, after) => some (c :: before, after)
    | none => if c = sep then some ([], cs) else none

theorem dropHead?_eq_some_iff {head cs rest : List Char} :
    dropHead? head cs = some rest ↔ cs = head ++ rest := by
  induction head generalizing cs with
  | nil => simp [dropHead?]
  | cons h hs ih =>
    cases cs with
    | nil => simp [dropHead?]
    | cons c cs => by_cases hc : h = c <;> simp_all [dropHead?, eq_comm]

theorem dropTail?_eq_some_iff {tail cs before : List Char} :
    dropTail? tail cs = some before ↔ cs = before ++ tail := by
  rw [dropTail?, Option.map_eq_some_iff]
  constructor
  · rintro ⟨rest, h, rfl⟩
    have := congrArg List.reverse (dropHead?_eq_some_iff.1 h)
    simpa using this
  · rintro rfl
    exact ⟨before.reverse, dropHead?_eq_some_iff.2 (by simp), by simp⟩

theorem splitLast?_eq_none_iff {sep : Char} {cs : List Char} :
    splitLast? sep cs = none ↔ sep ∉ cs := by
  induction cs with
  | nil => simp [splitLast?]
  | cons c cs ih =>
    cases h : splitLast? sep cs with
    | none => simp [splitLast?, h, ih.1 h, eq_comm]
    | some found =>
      have used : sep ∈ cs := Decidable.not_not.1 fun free => by simp [ih.2 free] at h
      simp [splitLast?, h, used]

/-- The last `sep` is the one that none follows. -/
theorem splitLast?_eq_some_iff {sep : Char} {cs before after : List Char} :
    splitLast? sep cs = some (before, after) ↔ cs = before ++ sep :: after ∧ sep ∉ after := by
  constructor
  · intro h
    induction cs generalizing before with
    | nil => cases h
    | cons c cs ih =>
      unfold splitLast? at h
      split at h
      · rename_i rest found
        obtain ⟨rfl, rfl⟩ := Prod.mk.inj (Option.some.inj h)
        obtain ⟨rfl, last⟩ := ih found
        exact ⟨rfl, last⟩
      · rename_i none
        split at h
        · rename_i same
          obtain ⟨rfl, rfl⟩ := Prod.mk.inj (Option.some.inj h)
          exact ⟨same ▸ rfl, splitLast?_eq_none_iff.1 none⟩
        · cases h
  · rintro ⟨rfl, last⟩
    induction before with
    | nil => simp [splitLast?, splitLast?_eq_none_iff.2 last]
    | cons b before ih => simp [splitLast?, ih]

end ArchLint.Text
