import ArchLint.Naming.Thesaurus
import Mathlib.Algebra.Ring.Nat
import Mathlib.Data.List.Basic
import Mathlib.Tactic.FinCases

/-!
Patterns for whole words. An escaped text is read character by character, and each character becomes
a node that stands for it alone (`readAll?_escape`). So the pattern for a word is a sequence of these
between two edges (`readAll?_wordPattern`): it is not nested, and nothing but its room can be against
it, which goes by the length of the word (`Thesaurus.hasPattern_of_length_le`).
-/

namespace ArchLint.Pattern

/-! ### One step -/

/-- The term of a character that stands for itself. -/
def letterTerm (c : Char) : Term := { node := literalNode {} c }

/-- The term of a place where a word starts or ends. -/
def edgeTerm : Term := { node := .look (.boundary Property.word) }

/-- Behind a backslash a character that could mean something else stands for itself. -/
theorem escape?_of_mem_metaCharacters {c : Char} (h : c ∈ metaCharacters) (f : Flags)
    (cs : List Char) : escape? f (c :: cs) = some (.literal c, cs) := by
  fin_cases h <;> rfl

theorem readStep?_backslash (p : Progress) (cs : List Char) :
    readStep? p ('\\' :: cs) =
      (escape? p.flags cs).map fun (a, rest) => (p.push { node := atomNode p.flags a }, rest) :=
  rfl

section

variable {p : Progress} (usual : p.flags = {})
include usual

/-- A character in its notation is read as itself. -/
theorem readStep?_escaped (c : Char) (cs : List Char) :
    readStep? p (escaped c ++ cs) = some (p.push (letterTerm c), cs) := by
  rw [letterTerm, ← usual, escaped]
  split
  · rename_i special
    rw [List.cons_append, List.singleton_append, readStep?_backslash,
      escape?_of_mem_metaCharacters special]
    rfl
  · rename_i plain
    simp only [List.singleton_append, readStep?]
    split
    all_goals first | rfl | exact absurd (by decide) plain

/-- An edge is read where no brace behind it makes it something else. -/
theorem readStep?_edge {cs : List Char} (h : ∀ c ∈ cs.head?, c ≠ '{') :
    readStep? p ('\\' :: 'b' :: cs) = some (p.push edgeTerm, cs) := by
  have edge : escape? {} ('b' :: cs) = some (.look (.boundary Property.word), cs) := by
    change boundaryEscape? {} cs = _
    unfold boundaryEscape?
    split
    · exact absurd rfl (h '{' rfl)
    · rfl
  rw [readStep?_backslash, usual, edge]
  rfl

end

/-- The notation of a text does not start with a brace. -/
theorem ne_brace_of_mem_head?_escape {text cs : List Char} {c : Char}
    (h : c ∈ (escape text ++ '\\' :: cs).head?) : c ≠ '{' := by
  rintro rfl
  cases text with
  | nil => cases h
  | cons d text =>
    rw [escape, List.flatMap_cons, escaped] at h
    split at h
    · cases h
    · rename_i plain
      obtain rfl : d = '{' := by simpa using h
      exact plain (by decide)

theorem length_le_length_escape (text : List Char) : text.length ≤ (escape text).length := by
  induction text with
  | nil => exact Nat.le_refl 0
  | cons c text ih =>
    have some : 1 ≤ (escaped c).length := by unfold escaped; split <;> simp
    rw [escape, List.flatMap_cons, ← escape, List.length_append, List.length_cons]
    omega

/-! ### Reading to the end -/

/-- The progress with some terms more. -/
def Progress.pushAll (p : Progress) (ts : List Term) : Progress :=
  { p with terms := ts.reverse.map some ++ p.terms }

theorem Progress.pushAll_push (p : Progress) (t : Term) (ts : List Term) :
    (p.push t).pushAll ts = p.pushAll (t :: ts) := by
  simp [pushAll, push]

theorem Progress.push_pushAll (p : Progress) (t : Term) (ts : List Term) :
    (p.pushAll ts).push t = p.pushAll (ts ++ [t]) := by
  simp [pushAll, push]

/-- Several terms are joined to one, which is a level deeper. -/
theorem Progress.whole_pushAll {ts : List Term} (several : 2 ≤ ts.length) :
    (Progress.pushAll {} ts).whole =
      { node := Node.sequence (ts.map Term.node)
        depth := (ts.map Term.depth).foldl max 0 + 1 } := by
  match latest : ts.reverse with
  | [] | [_] =>
    have short := congrArg List.length latest
    rw [List.length_reverse] at short
    simp [short] at several
  | t :: u :: us =>
    have order : ts = (t :: u :: us).reverse := by rw [← latest, List.reverse_reverse]
    simp [whole, branch, pushAll, order, List.filterMap_map]

theorem readAll?_step {p q : Progress} (usual : p.flags = {}) {cs rest : List Char} (fuel : Nat)
    (step : readStep? p cs = some (q, rest)) :
    readAll? (fuel + 1) p cs = readAll? fuel q rest := by
  cases cs with
  | nil => cases step
  | cons c cs => simp [readAll?, Flags.skip, usual, step]

theorem readAll?_escape (text rest : List Char) (fuel : Nat) {p : Progress}
    (usual : p.flags = {}) :
    readAll? (fuel + text.length) p (escape text ++ rest) =
      readAll? fuel (p.pushAll (text.map letterTerm)) rest := by
  induction text generalizing p with
  | nil => rfl
  | cons c text ih =>
    have step := readStep?_escaped usual c (escape text ++ rest)
    rw [escape, List.flatMap_cons, ← escape, List.append_assoc, List.length_cons, ← Nat.add_assoc,
      readAll?_step usual _ step, ih (p := p.push _) usual, Progress.pushAll_push, List.map_cons]

/-! ### Room -/

theorem Node.room_sequence : ∀ {ns : List Node}, ns ≠ [] →
    (sequence ns).room = (ns.map room).sum
  | [n], _ => by simp [sequence]
  | n :: m :: ns, _ => by
    rw [sequence, room, Node.room_sequence (List.cons_ne_nil m ns), List.map_cons (l := m :: ns),
      List.sum_cons]
    · exact List.cons_ne_nil m ns

theorem room_letterTerm_le (c : Char) : (letterTerm c).node.room ≤ 60 := by
  change Node.setRoom (CharSet.singleton c) ≤ 60
  unfold Node.setRoom
  split <;> simp [CharSet.singleton, CharSet.range]

theorem sum_room_letterTerm_le (text : List Char) :
    (text.map fun c => (letterTerm c).node.room).sum ≤ 60 * text.length := by
  induction text with
  | nil => exact Nat.zero_le _
  | cons c text ih =>
    have letter := room_letterTerm_le c
    rw [List.map_cons, List.sum_cons, List.length_cons]
    omega

end ArchLint.Pattern

namespace ArchLint.Thesaurus

open Pattern

/-- What the pattern for a word is read as. -/
def wordTerms (word : List Char) : List Term := edgeTerm :: (word.map letterTerm ++ [edgeTerm])

theorem readAll?_wordPattern (word : List Char) (fuel : Nat) :
    readAll? (fuel + 3 + word.length) {} (wordPattern word).toList =
      some (Progress.pushAll {} (wordTerms word)) := by
  have opening : readStep? {} (wordPattern word).toList =
      some (Progress.push {} edgeTerm, escape word ++ ['\\', 'b']) := by
    rw [wordPattern, String.toList_ofList]
    exact readStep?_edge rfl fun c => ne_brace_of_mem_head?_escape
  have closing : readStep? (Progress.pushAll {} (edgeTerm :: word.map letterTerm)) ['\\', 'b'] =
      some (Progress.pushAll {} (wordTerms word), []) := by
    rw [readStep?_edge rfl (by simp), Progress.push_pushAll, wordTerms, List.cons_append]
  rw [Nat.add_right_comm, readAll?_step rfl _ opening, Nat.add_right_comm, readAll?_escape _ _ _ rfl,
    Progress.pushAll_push, readAll?_step rfl _ closing]
  rfl

theorem depth_wordTerms (word : List Char) :
    ((wordTerms word).map Term.depth).foldl max 0 = 0 := by
  have flat : (wordTerms word).map Term.depth = List.replicate (word.length + 2) 0 := by
    refine List.eq_replicate_iff.mpr ⟨by simp [wordTerms], List.forall_mem_map.mpr fun t ht => ?_⟩
    simp only [wordTerms, List.mem_cons, List.mem_append, List.mem_map, List.not_mem_nil,
      or_false] at ht
    rcases ht with rfl | ⟨c, -, rfl⟩ | rfl <;> rfl
  rw [flat]
  induction word.length + 2 with
  | zero => rfl
  | succ n ih => exact ih

theorem room_wordTerms_le (word : List Char) :
    (Node.sequence ((wordTerms word).map Term.node)).room ≤ 60 * word.length + 64 := by
  have letters := sum_room_letterTerm_le word
  have rooms : ((wordTerms word).map Term.node).map Node.room =
      32 :: ((word.map fun c => (letterTerm c).node.room) ++ [32]) := by
    simp [wordTerms, edgeTerm, Node.room]
  rw [Node.room_sequence (by simp [wordTerms]), rooms, List.sum_cons, List.sum_append,
    List.sum_singleton]
  omega

/-- A word that is not too long has a pattern. -/
theorem hasPattern_of_length_le {word : List Char} (short : 60 * word.length + 64 ≤ roomLimit) :
    hasPattern word = true := by
  have several : 2 ≤ (wordTerms word).length := by simp [wordTerms]
  obtain ⟨more, long⟩ := Nat.exists_eq_add_of_le (length_le_length_escape word)
  have fuel : (wordPattern word).length + 1 = more + 2 + 3 + word.length := by
    rw [wordPattern, String.length_ofList, List.length_cons, List.length_cons, List.length_append,
      long]
    simp only [List.length_cons, List.length_nil]
    omega
  unfold hasPattern isValid Node.ofText?
  rw [fuel, readAll?_wordPattern]
  simp only [Progress.whole_pushAll several, depth_wordTerms]
  rw [if_pos ⟨rfl, by decide, Nat.le_trans (room_wordTerms_le word) short⟩]
  rfl

end ArchLint.Thesaurus
