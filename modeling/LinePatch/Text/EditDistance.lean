/-!
# Edit distance

The edit distance of two sequences is the least number of single-element insertions,
deletions and substitutions that turn one into the other. It is computed row by row:
row `i` holds the distances from the first `i` elements of the first sequence to every
head of the second.
-/

namespace LinePatch.Text

variable {α : Type} [DecidableEq α]

def nextRow (a : α) : List α → List Nat → Nat → List Nat
  | b :: bs, d :: e :: es, left =>
    let here := min (min (e + 1) (left + 1)) (d + if a = b then 0 else 1)
    here :: nextRow a bs (e :: es) here
  | _, _, _ => []

def lastRow (bs : List α) : List α → List Nat → List Nat
  | [], row => row
  | a :: as, row =>
    let first := row.headD 0 + 1
    lastRow bs as (first :: nextRow a bs row first)

def editDistance (xs ys : List α) : Nat :=
  (lastRow ys xs (List.range (ys.length + 1))).getLastD 0

example : editDistance "kitten".toList "sitting".toList = 3 := by decide

example : editDistance ([] : List Nat) [1, 2] = 2 ∧ editDistance [1, 2] ([] : List Nat) = 2 := by
  decide

end LinePatch.Text
