import ArchLint.Proofs.Distinct
import ArchLint.Violation
import Mathlib.Data.List.Induction

/-!
What is dropped as a repetition. A violation stays unless one before it has the same key
(`distinctBy_eq_firstsBy`). The key is one text that is joined of file, rule name and message; on a
list on which it tells apart what these three tell apart (`Violation.KeysApart`), a violation is
dropped just when all three have been there before, and on no other list. Keys are told apart
wherever no file and no rule name holds the separator (`keysApart_of_isPlain`).
-/

namespace ArchLint

/-! ### First occurrences by their places -/

section

variable {α κ κ' : Type} [DecidableEq κ] [DecidableEq κ'] {key : α → κ} {key' : α → κ'}

/-- The elements at places before which their key does not occur. -/
def firstsBy (key : α → κ) (xs : List α) : List α :=
  (xs.zipIdx.filter fun p => key p.1 ∉ (xs.take p.2).map key).map Prod.fst

theorem firstsBy_concat (key : α → κ) (xs : List α) (x : α) :
    firstsBy key (xs ++ [x]) = firstsBy key xs ++ if key x ∈ xs.map key then [] else [x] := by
  have before : ∀ p ∈ xs.zipIdx, decide (key p.1 ∉ ((xs ++ [x]).take p.2).map key) =
      decide (key p.1 ∉ (xs.take p.2).map key) := by
    intro p hp
    have inside : p.2 ≤ xs.length := Nat.le_of_lt (List.snd_lt_of_mem_zipIdx hp)
    rw [List.take_append_of_le_length inside]
  rw [firstsBy, List.zipIdx_append, List.filter_append, List.map_append, List.filter_congr before]
  refine congrArg (_ ++ ·) ?_
  by_cases h : key x ∈ xs.map key <;> simp [h]

/-- What the sifting keeps is what stands at its first place. -/
theorem distinctBy_eq_firstsBy (key : α → κ) (xs : List α) : distinctBy key xs = firstsBy key xs := by
  induction xs using List.reverseRecOn with
  | nil => rfl
  | append_singleton xs x ih =>
    rw [firstsBy_concat, ← ih, distinctBy, distinctBy, freshBy_append, List.append_nil]
    refine congrArg (freshBy key [] xs ++ ·) ?_
    by_cases h : key x ∈ xs.map key
    · rw [freshBy_cons_of_mem [] h, freshBy_nil, if_pos h]
    · rw [freshBy_cons_of_notMem [] h, freshBy_nil, if_neg h]

theorem distinctBy_append_left_subset (xs ys : List α) :
    distinctBy key xs ⊆ distinctBy key (xs ++ ys) := by
  rw [distinctBy, distinctBy, freshBy_append]
  exact List.subset_append_left _ _

/-- Only which keys are equal matters, not what they are. -/
theorem distinctBy_congr {xs : List α}
    (h : ∀ x ∈ xs, ∀ y ∈ xs, key x = key y ↔ key' x = key' y) :
    distinctBy key xs = distinctBy key' xs := by
  rw [distinctBy_eq_firstsBy, distinctBy_eq_firstsBy, firstsBy, firstsBy]
  refine congrArg _ (List.filter_congr fun p hp => decide_eq_decide.mpr (not_congr ?_))
  have hx : p.1 ∈ xs := List.fst_mem_of_mem_zipIdx hp
  simp only [List.mem_map]
  constructor
  · rintro ⟨y, hy, he⟩
    exact ⟨y, hy, (h y (List.mem_of_mem_take hy) p.1 hx).mp he⟩
  · rintro ⟨y, hy, he⟩
    exact ⟨y, hy, (h y (List.mem_of_mem_take hy) p.1 hx).mpr he⟩

/-- Where a coarser key keeps as much as a finer one, it is as fine. -/
theorem eq_of_distinctBy_eq {fine : α → κ'} {xs : List α}
    (hf : ∀ x y, fine x = fine y → key x = key y) (h : distinctBy key xs = distinctBy fine xs) :
    ∀ x ∈ xs, ∀ y ∈ xs, key x = key y → fine x = fine y := by
  have kept : ∀ x ∈ xs, ∃ x' ∈ distinctBy key xs, fine x' = fine x := by
    intro x hx
    have : fine x ∈ (distinctBy fine xs).map fine := mem_keys_distinctBy.mpr (List.mem_map_of_mem hx)
    rw [← h] at this
    exact List.mem_map.mp this
  intro x hx y hy hk
  obtain ⟨x', hx', ex⟩ := kept x hx
  obtain ⟨y', hy', ey⟩ := kept y hy
  have same : x' = y' := by
    refine List.inj_on_of_nodup_map (nodup_keys_distinctBy xs) hx' hy' ?_
    rw [hf x' x ex, hf y' y ey, hk]
  rw [← ex, ← ey, same]

end

/-! ### Keys of violations -/

namespace Violation

/-- File, rule name and message. -/
def triple (v : Violation) : String × String × String := (v.file, v.ruleName, v.message)

/-- On the list, equal keys come from equal files, rule names and messages. -/
def KeysApart (vs : List Violation) : Prop :=
  ∀ v ∈ vs, ∀ w ∈ vs, v.key = w.key → v.triple = w.triple

/-- Neither the file nor the rule name holds the separator of keys. -/
def IsPlain (v : Violation) : Prop :=
  '\u001f' ∉ v.file.toList ∧ '\u001f' ∉ v.ruleName.toList

theorem key_eq_of_triple_eq {v w : Violation} (h : v.triple = w.triple) : v.key = w.key := by
  simp only [triple, Prod.mk.injEq] at h
  rw [key, key, h.1, h.2.1, h.2.2]

theorem toList_key (v : Violation) :
    v.key.toList =
      v.file.toList ++ '\u001f' :: (v.ruleName.toList ++ '\u001f' :: v.message.toList) := by
  simp [key, separator]

/-- A mark that neither head holds cuts two equal texts at the same place. -/
theorem eq_of_append_cons_eq {c : Char} : ∀ {xs xs' ys ys' : List Char}, c ∉ xs → c ∉ xs' →
    xs ++ c :: ys = xs' ++ c :: ys' → xs = xs' ∧ ys = ys'
  | [], [], _, _, _, _, h => ⟨rfl, by simpa using h⟩
  | [], x' :: xs', _, _, _, hc', h => by
    have head : c = x' := by simpa using (List.cons.inj h).1
    exact absurd head (List.ne_of_not_mem_cons hc')
  | x :: xs, [], _, _, hc, _, h => by
    have head : x = c := by simpa using (List.cons.inj h).1
    exact absurd head.symm (List.ne_of_not_mem_cons hc)
  | x :: xs, x' :: xs', _, _, hc, hc', h => by
    obtain ⟨head, rest⟩ := List.cons.inj h
    obtain ⟨hxs, hys⟩ := eq_of_append_cons_eq (List.not_mem_of_not_mem_cons hc)
      (List.not_mem_of_not_mem_cons hc') rest
    exact ⟨by rw [head, hxs], hys⟩

theorem triple_eq_of_key_eq {v w : Violation} (hv : v.IsPlain) (hw : w.IsPlain)
    (h : v.key = w.key) : v.triple = w.triple := by
  have texts : v.key.toList = w.key.toList := congrArg String.toList h
  rw [toList_key, toList_key] at texts
  obtain ⟨file, rest⟩ := eq_of_append_cons_eq hv.1 hw.1 texts
  obtain ⟨ruleName, message⟩ := eq_of_append_cons_eq hv.2 hw.2 rest
  rw [triple, triple, String.toList_inj.mp file, String.toList_inj.mp ruleName,
    String.toList_inj.mp message]

theorem keysApart_of_isPlain {vs : List Violation} (h : ∀ v ∈ vs, v.IsPlain) : KeysApart vs :=
  fun v hv w hw => triple_eq_of_key_eq (h v hv) (h w hw)

theorem dedup_eq_firstsBy_triple {vs : List Violation} (h : KeysApart vs) :
    dedup vs = firstsBy triple vs := by
  rw [← distinctBy_eq_firstsBy]
  exact distinctBy_congr fun v hv w hw => ⟨h v hv w hw, key_eq_of_triple_eq⟩

/-- The first violation of each key stays. It is the first of each file, rule name and message just
when keys tell these apart, as they do where no file and no rule name holds the separator. -/
theorem dedup_keeps_first_of_each_key (vs : List Violation) :
    dedup vs = firstsBy key vs ∧
    (dedup vs = firstsBy triple vs ↔ KeysApart vs) ∧
    ((∀ v ∈ vs, v.IsPlain) → dedup vs = firstsBy triple vs) := by
  refine ⟨distinctBy_eq_firstsBy key vs, ⟨fun h => ?_, dedup_eq_firstsBy_triple⟩, fun h => ?_⟩
  · rw [← distinctBy_eq_firstsBy] at h
    exact eq_of_distinctBy_eq (fun _ _ => key_eq_of_triple_eq) h
  · exact dedup_eq_firstsBy_triple (keysApart_of_isPlain h)

/-- Of three violations the last repeats the first, whatever roles it names. -/
theorem dedup_keeps_first_of_three :
    let first : Violation := ⟨"layers", .error, "a.ts", "[layers] bad edge", some "A", none, none⟩
    let other : Violation := ⟨"layers", .error, "b.ts", "[layers] bad edge", some "A", none, none⟩
    let again : Violation := { first with sourceRole := some "B" }
    (∀ v ∈ [first, other, again], v.IsPlain) ∧
    dedup [first, other, again] = firstsBy triple [first, other, again] ∧
    firstsBy triple [first, other, again] = [first, other] := by
  intro first other again
  have plain : ∀ v ∈ [first, other, again], v.IsPlain := by
    simp [first, other, again, IsPlain]
  exact ⟨plain, (dedup_keeps_first_of_each_key _).2.2 plain, by decide⟩

/-- With separators in a file and a rule name, another file, rule name and message have the same
key, and their violation is dropped. -/
theorem dedup_drops_other_triple :
    let first : Violation := ⟨"b\u001fc", .error, "a", "m", none, none, none⟩
    let other : Violation := ⟨"c", .error, "a\u001fb", "m", none, none, none⟩
    first.triple ≠ other.triple ∧ dedup [first, other] = [first] ∧
      firstsBy triple [first, other] = [first, other] := by
  decide

end Violation

end ArchLint
