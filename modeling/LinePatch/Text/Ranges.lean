/-!
# Tables of code-point ranges

The character properties of this library are kept as tables of inclusive code-point
ranges, sorted and disjoint, one entry per range. A code point is looked up by binary
search over the half-open interval of entries that may still hold it; each step halves
the interval, so a lookup costs a dozen comparisons even in the largest table.
-/

namespace LinePatch.Text

def findRange {α : Type} (table : Array α) (bounds : α → Nat × Nat) (n : Nat) :
    Nat → Nat → Nat → Option α
  | 0, _, _ => none
  | fuel + 1, lo, hi =>
    if h : lo < hi ∧ hi ≤ table.size then
      let mid := (lo + hi) / 2
      have hmid : mid < table.size := by omega
      let e := table[mid]
      if n < (bounds e).1 then findRange table bounds n fuel lo mid
      else if (bounds e).2 < n then findRange table bounds n fuel (mid + 1) hi
      else some e
    else none

/-- The entry of `table` whose range holds `n`. -/
def lookupRange {α : Type} (table : Array α) (bounds : α → Nat × Nat) (n : Nat) : Option α :=
  findRange table bounds n (table.size + 1) 0 table.size

/-- Whether `n` lies in one of the ranges of `table`. -/
def inRanges (table : Array (Nat × Nat)) (n : Nat) : Bool :=
  (lookupRange table id n).isSome

example : inRanges #[(1, 3), (7, 9)] 8 = true ∧ inRanges #[(1, 3), (7, 9)] 5 = false := by
  decide

end LinePatch.Text
