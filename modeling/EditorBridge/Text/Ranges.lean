/-!
Sets of code points as sorted ranges. A list `[a, b, c, d, …]` stands for the numbers from `a` up to
but not including `b`, from `c` up to but not including `d`, and so on.
-/

namespace EditorBridge.Text

/-- Whether a number lies in one of the ranges. The ranges ascend, so the search ends at the first
range that begins past the number. -/
def inRanges (n : Nat) : List Nat → Bool
  | first :: past :: rest => if n < first then false else n < past || inRanges n rest
  | _ => false

@[simp] theorem inRanges_nil (n : Nat) : inRanges n [] = false := rfl

theorem inRanges_cons (n first past : Nat) (rest : List Nat) :
    inRanges n (first :: past :: rest) =
      if n < first then false else decide (n < past) || inRanges n rest := rfl

/-- Looks up a number in runs `(first, last, step, image)`: every `step`-th number from `first` to
`last` has an image, as far from `image` as the number is from `first`. -/
def imageInRuns (n : Nat) : List (Nat × Nat × Nat × Nat) → Option Nat
  | [] => none
  | (first, last, step, image) :: rest =>
    if n < first then none
    else if n ≤ last && (n - first) % step = 0 then some (image + (n - first))
    else imageInRuns n rest

end EditorBridge.Text
