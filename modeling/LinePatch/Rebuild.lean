import LinePatch.Link

/-!
# Rebuilding a text from a linked patch

The new text is written source line by source line. A source line paired with a
deletion is left out, and the additions that follow the deletion take its place. A
source line paired with context is kept, with the free additions written before its
partner in front of it and those written after it behind it; when the two lines differ
beyond their normal forms, the patch's wording wins. A free source line is kept as it
is. When no source line is paired at all, the patch's additions are put at the end.
-/

namespace LinePatch

/-- The text written so far, the patch slots already written, and whether a source line
has been paired. -/
structure Rebuild where
  out : Array String
  used : Array Bool
  anchored : Bool := false
  deriving Inhabited

namespace Rebuild

/-- The patch slot has been written. -/
def isUsed (st : Rebuild) (j : Nat) : Bool := st.used[j]?.getD false

/-- Marks a patch slot written. -/
def markUsed (st : Rebuild) (j : Nat) : Rebuild := { st with used := st.used.setIfInBounds j true }

/-- Writes a line. -/
def emit (st : Rebuild) (t : String) : Rebuild := { st with out := st.out.push t }

end Rebuild

namespace Sides

/-- A patch slot that a forward walk steps over: a blank line, or free context. -/
def isFiller (s : Sides) (a : Alignment) (j : Nat) : Bool :=
  s.policy.isBlankLine (s.patch.textAt j) || (a.patchFree j && s.patch.kindAt j == .context)

/-- An addition not yet written. -/
def isFreshAdd (s : Sides) (st : Rebuild) (j : Nat) : Bool :=
  s.patch.kindAt j == .add && !st.isUsed j

/-- Writes the fresh additions that follow `cur` directly, one after the other. -/
def writeReplacements (s : Sides) : Nat → Rebuild → Option Nat → Rebuild
  | 0, st, _ => st
  | _ + 1, st, none => st
  | fuel + 1, st, some j =>
    if s.isFreshAdd st j then
      s.writeReplacements fuel ((st.emit (s.patch.textAt j)).markUsed j) (s.patch.after j)
    else st

/-- Writes the fresh additions after `cur`, stepping over fillers. -/
def writeAfter (s : Sides) (a : Alignment) : Nat → Rebuild → Option Nat → Rebuild
  | 0, st, _ => st
  | fuel + 1, st, cur =>
    match s.patch.walkOn (s.isFiller a) cur with
    | some j =>
      if s.isFreshAdd st j then
        s.writeAfter a fuel ((st.emit (s.patch.textAt j)).markUsed j) (s.patch.after j)
      else st
    | none => st

/-- The fresh additions directly before `cur`, nearest first, marked written. -/
def collectBefore (s : Sides) : Nat → Rebuild → Option Nat → Rebuild × List String
  | 0, st, _ => (st, [])
  | _ + 1, st, none => (st, [])
  | fuel + 1, st, some j =>
    if s.isFreshAdd st j then
      let (st', ts) := s.collectBefore fuel (st.markUsed j) (s.patch.before j)
      (st', s.patch.textAt j :: ts)
    else (st, [])

/-- Writes one source line with what its partner brings. -/
def rebuildLine (s : Sides) (a : Alignment) (st : Rebuild) (i : Nat) : Rebuild :=
  let fuel := s.patch.size + 1
  match a.patchOf i with
  | some j =>
    if s.patch.kindAt j == .delete then
      let st := s.writeReplacements fuel (st.markUsed j) (s.patch.after j)
      { s.writeAfter a fuel st (s.patch.after j) with anchored := true }
    else
      let (st, before) := s.collectBefore fuel st (s.patch.before j)
      let st := (before.reverse.foldl Rebuild.emit st).markUsed j
      let src := s.source.textAt i
      let pat := s.patch.textAt j
      let st := st.emit (if s.policy.normalize src = s.policy.normalize pat then src else pat)
      { s.writeAfter a fuel st (s.patch.after j) with anchored := true }
  | none => st.emit (s.source.textAt i)

/-- The lines of the new text. -/
def rebuild (s : Sides) (a : Alignment) : List String :=
  let st := (List.range s.source.size).foldl (s.rebuildLine a)
    { out := #[], used := Array.replicate s.patch.size false }
  let st :=
    if st.anchored then st
    else
      (s.patch.order.filter fun j => !s.policy.isBlankLine (s.patch.textAt j)).foldl
        (fun st j => if s.isFreshAdd st j then st.emit (s.patch.textAt j) else st) st
  st.out.toList

end Sides

end LinePatch
