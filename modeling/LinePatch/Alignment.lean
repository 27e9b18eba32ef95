/-!
# Alignments

An alignment pairs lines of a source with lines of a patch, each line with at most one
line of the other side. It is kept from both ends, source slot to patch slot and patch
slot to source slot, and `link` writes both ends at once, so that the two views always
agree on the pairs that `link` made.
-/

namespace LinePatch

/-- A partial one-to-one pairing of source slots with patch slots. -/
structure Alignment where
  ofSource : Array (Option Nat)
  ofPatch : Array (Option Nat)
  deriving DecidableEq, Repr, Inhabited

namespace Alignment

/-- No line paired, for `n` source lines and `m` patch lines. -/
def empty (n m : Nat) : Alignment :=
  ⟨Array.replicate n none, Array.replicate m none⟩

/-- The patch slot paired with a source slot. -/
def patchOf (a : Alignment) (i : Nat) : Option Nat := (a.ofSource[i]?).getD none

/-- The source slot paired with a patch slot. -/
def sourceOf (a : Alignment) (j : Nat) : Option Nat := (a.ofPatch[j]?).getD none

/-- Pairs source slot `i` with patch slot `j`. -/
def link (a : Alignment) (i j : Nat) : Alignment :=
  ⟨a.ofSource.setIfInBounds i (some j), a.ofPatch.setIfInBounds j (some i)⟩

/-- The source slot is still free. -/
def sourceFree (a : Alignment) (i : Nat) : Bool := (a.patchOf i).isNone

/-- The patch slot is still free. -/
def patchFree (a : Alignment) (j : Nat) : Bool := (a.sourceOf j).isNone

/-- The number of paired source slots. -/
def count (a : Alignment) : Nat := (a.ofSource.toList.filter Option.isSome).length

end Alignment

end LinePatch
