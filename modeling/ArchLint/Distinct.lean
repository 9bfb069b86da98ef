/-!
First occurrences. `distinctBy key xs` keeps of `xs`, in order, the first element of each key.
Violations, files and dependencies are all made unique this way; a batch that arrives later is
sifted by the keys already used up, which is what `freshBy` says.
-/

namespace ArchLint

variable {α κ : Type} [DecidableEq κ]

/-- What `xs` still contributes when the keys in `seen` are used up. -/
def freshBy (key : α → κ) : List κ → List α → List α
  | _, [] => []
  | seen, x :: xs =>
    if key x ∈ seen then freshBy key seen xs else x :: freshBy key (key x :: seen) xs

/-- The first element of each key, in order. -/
def distinctBy (key : α → κ) (xs : List α) : List α := freshBy key [] xs

/-- Each value once, where it first stands. -/
def distinct [DecidableEq α] (xs : List α) : List α := distinctBy id xs

theorem freshBy_nil (key : α → κ) (seen : List κ) : freshBy key seen [] = [] := rfl

theorem freshBy_cons_of_mem {key : α → κ} {seen : List κ} {x : α} (xs : List α)
    (h : key x ∈ seen) : freshBy key seen (x :: xs) = freshBy key seen xs := by
  simp [freshBy, h]

theorem freshBy_cons_of_notMem {key : α → κ} {seen : List κ} {x : α} (xs : List α)
    (h : key x ∉ seen) : freshBy key seen (x :: xs) = x :: freshBy key (key x :: seen) xs := by
  simp [freshBy, h]

end ArchLint
