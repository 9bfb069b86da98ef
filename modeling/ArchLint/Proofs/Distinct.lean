import ArchLint.Distinct
import Mathlib.Data.List.Nodup
import Mathlib.Data.List.Perm.Basic

/-!
Laws of first occurrences. What a batch still contributes depends on the used up keys only as far
as the batch has them (`freshBy_congr`), a batch can be cut anywhere (`freshBy_append`), and sifting
commutes with whatever the keys settle: with a filter, with a map into another list that is sifted
itself, and up to order with a permutation.
-/

namespace ArchLint

variable {α β κ : Type} [DecidableEq κ] {key : α → κ}

/-- On a list, the key of an element settles the value of `f`. -/
def Determined (key : α → κ) (f : α → β) (xs : List α) : Prop :=
  ∀ x ∈ xs, ∀ y ∈ xs, key x = key y → f x = f y

omit [DecidableEq κ] in
theorem Determined.mono {f : α → β} {xs ys : List α} (h : Determined key f ys) (hs : xs ⊆ ys) :
    Determined key f xs :=
  fun x hx y hy => h x (hs hx) y (hs hy)

/-! ### What is kept -/

theorem freshBy_sublist : ∀ (seen : List κ) (xs : List α), (freshBy key seen xs).Sublist xs
  | _, [] => List.Sublist.refl _
  | seen, x :: xs => by
    by_cases h : key x ∈ seen
    · rw [freshBy_cons_of_mem xs h]; exact (freshBy_sublist seen xs).cons x
    · rw [freshBy_cons_of_notMem xs h]; exact (freshBy_sublist (key x :: seen) xs).cons_cons x

/-- The keys of what is kept are those that are not used up. -/
theorem mem_keys_freshBy {k : κ} : ∀ {seen : List κ} {xs : List α},
    k ∈ (freshBy key seen xs).map key ↔ k ∈ xs.map key ∧ k ∉ seen
  | seen, [] => by simp [freshBy]
  | seen, x :: xs => by
    by_cases h : key x ∈ seen
    · rw [freshBy_cons_of_mem xs h, mem_keys_freshBy, List.map_cons, List.mem_cons]
      constructor
      · rintro ⟨hk, hn⟩; exact ⟨Or.inr hk, hn⟩
      · rintro ⟨rfl | hk, hn⟩
        · exact absurd h hn
        · exact ⟨hk, hn⟩
    · rw [freshBy_cons_of_notMem xs h, List.map_cons, List.mem_cons, mem_keys_freshBy,
        List.map_cons, List.mem_cons, List.mem_cons]
      constructor
      · rintro (rfl | ⟨hk, hn⟩)
        · exact ⟨Or.inl rfl, h⟩
        · exact ⟨Or.inr hk, fun hs => hn (Or.inr hs)⟩
      · rintro ⟨hk, hn⟩
        rcases eq_or_ne k (key x) with hx | hx
        · exact Or.inl hx
        · exact Or.inr ⟨hk.resolve_left hx, fun hs => hs.elim hx hn⟩

theorem nodup_keys_freshBy : ∀ (seen : List κ) (xs : List α),
    ((freshBy key seen xs).map key).Nodup
  | _, [] => List.nodup_nil
  | seen, x :: xs => by
    by_cases h : key x ∈ seen
    · rw [freshBy_cons_of_mem xs h]; exact nodup_keys_freshBy seen xs
    · rw [freshBy_cons_of_notMem xs h, List.map_cons, List.nodup_cons]
      refine ⟨fun hx => ?_, nodup_keys_freshBy (key x :: seen) xs⟩
      exact (mem_keys_freshBy.mp hx).2 List.mem_cons_self

theorem nodup_keys_distinctBy (xs : List α) : ((distinctBy key xs).map key).Nodup :=
  nodup_keys_freshBy [] xs

/-- What is kept keeps the order in which the keys first stand in the list. -/
theorem pairwise_idxOf_keys_freshBy : ∀ (seen : List κ) (xs : List α),
    ((freshBy key seen xs).map key).Pairwise fun k l =>
      (xs.map key).idxOf k < (xs.map key).idxOf l
  | _, [] => List.Pairwise.nil
  | seen, x :: xs => by
    -- behind a key that is used up, all places move by one
    have behind : ∀ used : List κ, key x ∈ used →
        ((freshBy key used xs).map key).Pairwise fun k l =>
          ((x :: xs).map key).idxOf k < ((x :: xs).map key).idxOf l := by
      intro used hx
      refine (pairwise_idxOf_keys_freshBy used xs).imp_of_mem fun {k l} hk hl less => ?_
      have other : ∀ m ∈ (freshBy key used xs).map key, key x ≠ m := fun m hm he =>
        (mem_keys_freshBy.mp hm).2 (he ▸ hx)
      rw [List.map_cons, List.idxOf_cons_ne _ (other k hk), List.idxOf_cons_ne _ (other l hl)]
      exact Nat.succ_lt_succ less
    by_cases h : key x ∈ seen
    · rw [freshBy_cons_of_mem xs h]
      exact behind seen h
    · rw [freshBy_cons_of_notMem xs h, List.map_cons]
      refine List.Pairwise.cons (fun k hk => ?_) (behind _ List.mem_cons_self)
      have other : key x ≠ k := fun he => (mem_keys_freshBy.mp hk).2 (he ▸ List.mem_cons_self)
      rw [List.idxOf_cons_self, List.idxOf_cons_ne _ other]
      exact Nat.succ_pos _

theorem pairwise_idxOf_keys_distinctBy (xs : List α) :
    ((distinctBy key xs).map key).Pairwise fun k l =>
      (xs.map key).idxOf k < (xs.map key).idxOf l :=
  pairwise_idxOf_keys_freshBy [] xs

theorem pairwise_idxOf_distinct (xs : List κ) :
    (distinct xs).Pairwise fun k l => xs.idxOf k < xs.idxOf l := by
  have keys : ((distinct xs).map id).Pairwise fun k l =>
      (xs.map id).idxOf k < (xs.map id).idxOf l := pairwise_idxOf_keys_distinctBy xs
  rwa [List.map_id, List.map_id] at keys

theorem mem_of_mem_distinctBy {x : α} {xs : List α} (h : x ∈ distinctBy key xs) : x ∈ xs :=
  (freshBy_sublist [] xs).subset h

theorem mem_keys_distinctBy {k : κ} {xs : List α} :
    k ∈ (distinctBy key xs).map key ↔ k ∈ xs.map key := by
  rw [distinctBy, mem_keys_freshBy]; simp

theorem mem_distinct {x : κ} {xs : List κ} : x ∈ distinct xs ↔ x ∈ xs := by
  have keys : x ∈ (distinct xs).map id ↔ x ∈ xs.map id := mem_keys_distinctBy
  rwa [List.map_id, List.map_id] at keys

theorem nodup_distinct (xs : List κ) : (distinct xs).Nodup := by
  have keys : ((distinct xs).map id).Nodup := nodup_keys_distinctBy xs
  rwa [List.map_id] at keys

/-- What is kept is the first of its key. -/
theorem mem_freshBy_iff {x : α} : ∀ {seen : List κ} {xs : List α},
    x ∈ freshBy key seen xs ↔ key x ∉ seen ∧ xs.find? (fun y => key y = key x) = some x
  | seen, [] => by simp [freshBy]
  | seen, y :: ys => by
    by_cases hy : key y ∈ seen
    · rw [freshBy_cons_of_mem ys hy, mem_freshBy_iff]
      refine and_congr_right fun hx => ?_
      have other : key y ≠ key x := fun same => hx (same ▸ hy)
      rw [List.find?_cons_of_neg (by simpa using other)]
    · rw [freshBy_cons_of_notMem ys hy, List.mem_cons, mem_freshBy_iff, List.mem_cons, not_or]
      by_cases same : key y = key x
      · rw [List.find?_cons_of_pos (by simpa using same), Option.some_inj]
        constructor
        · rintro (rfl | ⟨⟨other, -⟩, -⟩)
          · exact ⟨hy, rfl⟩
          · exact absurd same.symm other
        · rintro ⟨-, rfl⟩
          exact Or.inl rfl
      · rw [List.find?_cons_of_neg (by simpa using same)]
        constructor
        · rintro (rfl | ⟨⟨-, hx⟩, found⟩)
          · exact absurd rfl same
          · exact ⟨hx, found⟩
        · rintro ⟨hx, found⟩
          exact Or.inr ⟨⟨fun h => same h.symm, hx⟩, found⟩

theorem mem_distinctBy_iff {x : α} {xs : List α} :
    x ∈ distinctBy key xs ↔ xs.find? (fun y => key y = key x) = some x := by
  rw [distinctBy, mem_freshBy_iff]
  exact and_iff_right List.not_mem_nil

/-- The keys of what is kept are the distinct keys. -/
theorem map_freshBy : ∀ (seen : List κ) (xs : List α),
    (freshBy key seen xs).map key = freshBy id seen (xs.map key)
  | _, [] => rfl
  | seen, x :: xs => by
    by_cases h : key x ∈ seen
    · have used : id (key x) ∈ seen := h
      rw [freshBy_cons_of_mem xs h, List.map_cons, freshBy_cons_of_mem _ used, map_freshBy]
    · have free : id (key x) ∉ seen := h
      rw [freshBy_cons_of_notMem xs h, List.map_cons, List.map_cons, freshBy_cons_of_notMem _ free,
        map_freshBy]
      rfl

theorem map_distinctBy (xs : List α) : (distinctBy key xs).map key = distinct (xs.map key) :=
  map_freshBy [] xs

/-! ### Used up keys -/

/-- Only the used up keys that the batch has itself matter. -/
theorem freshBy_congr : ∀ {xs : List α} {seen seen' : List κ},
    (∀ x ∈ xs, key x ∈ seen ↔ key x ∈ seen') → freshBy key seen xs = freshBy key seen' xs
  | [], _, _, _ => rfl
  | x :: xs, seen, seen', h => by
    have hx := h x List.mem_cons_self
    have hxs : ∀ y ∈ xs, key y ∈ seen ↔ key y ∈ seen' := fun y hy => h y (List.mem_cons_of_mem x hy)
    by_cases hs : key x ∈ seen
    · rw [freshBy_cons_of_mem xs hs, freshBy_cons_of_mem xs (hx.mp hs), freshBy_congr hxs]
    · rw [freshBy_cons_of_notMem xs hs, freshBy_cons_of_notMem xs (fun hs' => hs (hx.mpr hs'))]
      refine congrArg (x :: ·) (freshBy_congr fun y hy => ?_)
      rw [List.mem_cons, List.mem_cons, hxs y hy]

theorem freshBy_append : ∀ (seen : List κ) (xs ys : List α),
    freshBy key seen (xs ++ ys) = freshBy key seen xs ++ freshBy key (xs.map key ++ seen) ys
  | _, [], _ => rfl
  | seen, x :: xs, ys => by
    by_cases h : key x ∈ seen
    · rw [List.cons_append, freshBy_cons_of_mem _ h, freshBy_cons_of_mem _ h, freshBy_append seen]
      refine congrArg (_ ++ ·) (freshBy_congr fun y _ => ?_)
      simp only [List.map_cons, List.cons_append, List.mem_cons, List.mem_append]
      constructor
      · exact Or.inr
      · rintro (hy | hy)
        · exact Or.inr (hy ▸ h)
        · exact hy
    · rw [List.cons_append, freshBy_cons_of_notMem _ h, freshBy_cons_of_notMem _ h,
        freshBy_append (key x :: seen), List.cons_append]
      refine congrArg (fun zs => x :: (_ ++ zs)) (freshBy_congr fun y _ => ?_)
      simp only [List.map_cons, List.cons_append, List.mem_cons, List.mem_append]
      exact or_left_comm

theorem freshBy_eq_nil : ∀ {seen : List κ} {xs : List α}, (∀ x ∈ xs, key x ∈ seen) →
    freshBy key seen xs = []
  | _, [], _ => rfl
  | _, x :: xs, h => by
    rw [freshBy_cons_of_mem xs (h x List.mem_cons_self)]
    exact freshBy_eq_nil fun y hy => h y (List.mem_cons_of_mem x hy)

theorem freshBy_eq_self : ∀ {seen : List κ} {xs : List α}, (xs.map key).Nodup →
    (∀ x ∈ xs, key x ∉ seen) → freshBy key seen xs = xs
  | _, [], _, _ => rfl
  | seen, x :: xs, hn, h => by
    rw [List.map_cons, List.nodup_cons] at hn
    rw [freshBy_cons_of_notMem xs (h x List.mem_cons_self)]
    refine congrArg (x :: ·) (freshBy_eq_self hn.2 fun y hy hs => ?_)
    rcases List.mem_cons.mp hs with hk | hs
    · exact hn.1 (hk ▸ List.mem_map_of_mem hy)
    · exact h y (List.mem_cons_of_mem x hy) hs

/-- A list without repetitions is left alone. -/
theorem distinctBy_eq_self {xs : List α} (h : (xs.map key).Nodup) : distinctBy key xs = xs :=
  freshBy_eq_self h fun _ _ hs => absurd hs List.not_mem_nil

theorem distinctBy_distinctBy (xs : List α) :
    distinctBy key (distinctBy key xs) = distinctBy key xs :=
  distinctBy_eq_self (nodup_keys_distinctBy xs)

/-! ### What the keys settle -/

/-- A filter that goes by keys may be applied before or after. -/
theorem freshBy_filter {p : α → Bool} : ∀ {seen : List κ} {xs : List α}, Determined key p xs →
    freshBy key seen (xs.filter p) = (freshBy key seen xs).filter p
  | _, [], _ => rfl
  | seen, x :: xs, h => by
    have hxs : Determined key p xs := h.mono (List.subset_cons_self x xs)
    by_cases hs : key x ∈ seen
    · rw [freshBy_cons_of_mem xs hs, ← freshBy_filter hxs]
      cases hp : p x with
      | true => rw [List.filter_cons_of_pos hp, freshBy_cons_of_mem _ hs]
      | false => rw [List.filter_cons_of_neg (by simp [hp])]
    · rw [freshBy_cons_of_notMem xs hs]
      cases hp : p x with
      | true =>
        rw [List.filter_cons_of_pos hp, List.filter_cons_of_pos hp, freshBy_cons_of_notMem _ hs,
          freshBy_filter hxs]
      | false =>
        rw [List.filter_cons_of_neg (by simp [hp]), List.filter_cons_of_neg (by simp [hp]),
          ← freshBy_filter hxs]
        -- no later element with the key of `x` passes the filter
        refine freshBy_congr fun y hy => ?_
        obtain ⟨hy, hpy⟩ := List.mem_filter.mp hy
        have hne : key y ≠ key x := fun hk => by
          rw [h y (List.mem_cons_of_mem x hy) x List.mem_cons_self hk, hp] at hpy
          exact absurd hpy (by decide)
        rw [List.mem_cons, or_iff_right hne]

theorem distinctBy_filter {p : α → Bool} {xs : List α} (h : Determined key p xs) :
    distinctBy key (xs.filter p) = (distinctBy key xs).filter p :=
  freshBy_filter h

/-- A map that leaves the keys alone may be applied before or after. -/
theorem freshBy_map {f : α → α} (hf : ∀ x, key (f x) = key x) : ∀ (seen : List κ) (xs : List α),
    freshBy key seen (xs.map f) = (freshBy key seen xs).map f
  | _, [] => rfl
  | seen, x :: xs => by
    by_cases h : key x ∈ seen
    · rw [List.map_cons, freshBy_cons_of_mem _ ((hf x).symm ▸ h), freshBy_cons_of_mem xs h,
        freshBy_map hf]
    · rw [List.map_cons, freshBy_cons_of_notMem _ ((hf x).symm ▸ h), freshBy_cons_of_notMem xs h,
        List.map_cons, hf, freshBy_map hf]

/-- The representatives of two lists with the same elements say the same, up to order. -/
theorem map_distinctBy_perm {f : α → β} {xs ys : List α} (hp : xs.Perm ys)
    (hf : Determined key f xs) :
    ((distinctBy key xs).map f).Perm ((distinctBy key ys).map f) := by
  have hf' : Determined key f ys := hf.mono hp.symm.subset
  have nodup : ∀ zs : List α, ((distinctBy key zs).map fun x => (key x, f x)).Nodup := by
    intro zs
    have keys : ((distinctBy key zs).map key).Nodup := nodup_keys_distinctBy zs
    exact List.Nodup.of_map Prod.fst (by simpa [Function.comp_def] using keys)
  have mem : ∀ zs : List α, Determined key f zs →
      ∀ e, e ∈ (distinctBy key zs).map (fun x => (key x, f x)) ↔ ∃ x ∈ zs, (key x, f x) = e := by
    intro zs hz e
    rw [List.mem_map]
    constructor
    · rintro ⟨x, hx, he⟩; exact ⟨x, mem_of_mem_distinctBy hx, he⟩
    · rintro ⟨x, hx, he⟩
      have kept : key x ∈ (distinctBy key zs).map key :=
        mem_keys_distinctBy.mpr (List.mem_map_of_mem hx)
      obtain ⟨y, hy, hk⟩ := List.mem_map.mp kept
      exact ⟨y, hy, by rw [← he, hk, hz y (mem_of_mem_distinctBy hy) x hx hk]⟩
  have pairs := (List.perm_ext_iff_of_nodup (nodup xs) (nodup ys)).mpr fun e => by
    simp only [mem xs hf, mem ys hf', hp.mem_iff]
  simpa [Function.comp_def] using pairs.map Prod.snd

theorem flatMap_distinctBy_perm {f : α → List β} {xs ys : List α} (hp : xs.Perm ys)
    (hf : Determined key f xs) :
    ((distinctBy key xs).flatMap f).Perm ((distinctBy key ys).flatMap f) := by
  rw [List.flatMap_def, List.flatMap_def]
  exact (map_distinctBy_perm hp hf).flatten

/-! ### Lists that contribute the same -/

/-- Behind any batch, the one list leaves what the other leaves. -/
def Alike (key : α → κ) (xs ys : List α) : Prop :=
  ∀ seen, freshBy key seen xs = freshBy key seen ys

namespace Alike

theorem distinctBy_eq {xs ys : List α} (h : Alike key xs ys) :
    distinctBy key xs = distinctBy key ys :=
  h []

theorem refl (xs : List α) : Alike key xs xs := fun _ => rfl

theorem mem_keys {xs ys : List α} (h : Alike key xs ys) (k : κ) :
    k ∈ xs.map key ↔ k ∈ ys.map key := by
  rw [← mem_keys_distinctBy, h.distinctBy_eq, mem_keys_distinctBy]

theorem append {xs xs' ys ys' : List α} (hx : Alike key xs xs') (hy : Alike key ys ys') :
    Alike key (xs ++ ys) (xs' ++ ys') := by
  intro seen
  rw [freshBy_append, freshBy_append, hx seen, hy]
  refine congrArg (_ ++ ·) (freshBy_congr fun y _ => ?_)
  rw [List.mem_append, List.mem_append, hx.mem_keys]

theorem flatMap {ι : Type} {f g : ι → List α} : ∀ {is : List ι}, (∀ i ∈ is, Alike key (f i) (g i)) →
    Alike key (is.flatMap f) (is.flatMap g)
  | [], _ => refl _
  | i :: is, h => by
    rw [List.flatMap_cons, List.flatMap_cons]
    exact (h i List.mem_cons_self).append (flatMap fun j hj => h j (List.mem_cons_of_mem i hj))

end Alike

/-- An element of an old key, whose marks are all used up, may as well be dropped. -/
theorem freshBy_flatMap_freshBy {μ : Type} [DecidableEq μ] {mark : β → μ} {f : α → List β} :
    ∀ {done : List κ} {seen : List μ} {xs : List α}, Determined key f xs →
      (∀ x ∈ xs, key x ∈ done → ∀ y ∈ f x, mark y ∈ seen) →
      freshBy mark seen (xs.flatMap f) = freshBy mark seen ((freshBy key done xs).flatMap f)
  | _, _, [], _, _ => rfl
  | done, seen, x :: xs, h, hd => by
    have hxs : Determined key f xs := h.mono (List.subset_cons_self x xs)
    have hd' : ∀ y ∈ xs, key y ∈ done → ∀ z ∈ f y, mark z ∈ seen := fun y hy =>
      hd y (List.mem_cons_of_mem x hy)
    by_cases hk : key x ∈ done
    · have old : ∀ z ∈ f x, mark z ∈ seen := hd x List.mem_cons_self hk
      rw [freshBy_cons_of_mem xs hk, List.flatMap_cons, freshBy_append, freshBy_eq_nil old,
        List.nil_append, ← freshBy_flatMap_freshBy hxs hd']
      refine freshBy_congr fun z _ => ?_
      rw [List.mem_append, or_iff_right_of_imp]
      intro hz
      obtain ⟨w, hw, he⟩ := List.mem_map.mp hz
      exact he ▸ old w hw
    · rw [freshBy_cons_of_notMem xs hk, List.flatMap_cons, List.flatMap_cons, freshBy_append,
        freshBy_append]
      refine congrArg (_ ++ ·) (freshBy_flatMap_freshBy hxs fun y hy hy' z hz => ?_)
      rcases List.mem_cons.mp hy' with hy' | hy'
      · rw [h y (List.mem_cons_of_mem x hy) x List.mem_cons_self hy'] at hz
        exact List.mem_append_left _ (List.mem_map_of_mem hz)
      · exact List.mem_append_right _ (hd' y hy hy' z hz)

/-- Where the keys settle what an element brings, one element of each key stands for all. -/
theorem alike_flatMap_distinctBy {μ : Type} [DecidableEq μ] {mark : β → μ} {f : α → List β}
    {xs : List α} (h : Determined key f xs) :
    Alike mark (xs.flatMap f) ((distinctBy key xs).flatMap f) :=
  fun _ => freshBy_flatMap_freshBy h fun _ _ hk => absurd hk List.not_mem_nil

end ArchLint
