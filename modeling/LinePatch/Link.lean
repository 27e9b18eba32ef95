import LinePatch.Alignment
import LinePatch.Strand
import LinePatch.Text.EditDistance

/-!
# Linking a source with a patch

Lines of a source are paired with lines of a patch in passes, most specific first:

1. unique: normal forms that occur equally often on both sides are paired in order;
2. adjacent: the nearest non-blank neighbours of a linked pair are paired when they
   match, exactly or, with fuzzy matching, within an edit budget; repeated while it
   finds pairs;
3. remaining: passes 1 and 2 again over the lines still free, for at most eleven
   rounds; under the whitespace policy a round that finds nothing falls back on lines
   that open brackets, paired in order whatever the group sizes.
-/

namespace LinePatch

def fuzzyMinLength : Nat := 5

/-- The rounds of the remaining-lines pass after the first. -/
def maxRounds : Nat := 10

/-- Two lines match when their normal forms are equal, or, with fuzzy matching, when
the longer normal form has more than five characters and the edit distance is at most a
quarter of its length. -/
def isMatch (p : Policy) (fuzzy : Bool) (a b : String) : Bool :=
  let l := p.normalize a
  let r := p.normalize b
  if l = r then true
  else
    let longest := max l.length r.length
    fuzzy && fuzzyMinLength < longest && Text.editDistance l.toList r.toList ≤ longest / 4

/-- Groups slots by a key, the groups in order of their first slot and each group in
the order of the slots. -/
def groupBy (key : Nat → String) (slots : List Nat) : List (String × List Nat) :=
  slots.foldl (fun gs i =>
    let k := key i
    if gs.any (·.1 == k) then gs.map fun g => if g.1 == k then (g.1, g.2 ++ [i]) else g
    else gs ++ [(k, [i])]) []

/-- The group of a key. -/
def lookupGroup (gs : List (String × List Nat)) (k : String) : Option (List Nat) :=
  (gs.find? (·.1 == k)).map (·.2)

/-- A source and a patch to be linked, with the policy and the kind of matching. -/
structure Sides where
  policy : Policy
  fuzzy : Bool
  source : Strand
  patch : Strand

namespace Sides

/-- The normal form of a source line. -/
def sourceKey (s : Sides) (i : Nat) : String := s.policy.normalize (s.source.textAt i)

/-- The normal form of a patch line. -/
def patchKey (s : Sides) (j : Nat) : String := s.policy.normalize (s.patch.textAt j)

/-- A source line that a pass may link: still free, and not a placeholder. -/
def sourceEligible (s : Sides) (a : Alignment) (i : Nat) : Bool :=
  a.sourceFree i && s.source.linkable i

/-- A patch line that a pass may link: still free, and not a placeholder. -/
def patchEligible (s : Sides) (a : Alignment) (j : Nat) : Bool :=
  a.patchFree j && s.patch.linkable j

/-- Links pairs of slots one after the other. -/
def linkAll (a : Alignment) (pairs : List (Nat × Nat)) : Alignment :=
  pairs.foldl (fun a (i, j) => a.link i j) a

/-- The unique pass over the given source and patch slots: a normal form that the free
source lines and the free patch lines other than additions hold equally often is paired
in order. Gives the alignment and the number of pairs made. -/
def linkUnique (s : Sides) (a : Alignment) (src pat : List Nat) : Alignment × Nat :=
  let sg := groupBy s.sourceKey (src.filter (s.sourceEligible a))
  let pg := groupBy s.patchKey (pat.filter fun j => s.patchEligible a j && s.patch.kindAt j != .add)
  sg.foldl (fun (a, n) (k, ss) =>
    match lookupGroup pg k with
    | some ps => if ps.length = ss.length then (linkAll a (ss.zip ps), n + ss.length) else (a, n)
    | none => (a, n)) (a, 0)

/-- A source line to be skipped by a neighbour walk: a blank one. -/
def skipSource (s : Sides) (i : Nat) : Bool := s.policy.isBlankLine (s.source.textAt i)

/-- A patch line to be skipped by a neighbour walk: an addition or a blank one. -/
def skipPatch (s : Sides) (j : Nat) : Bool :=
  s.patch.kindAt j == .add || s.policy.isBlankLine (s.patch.textAt j)

/-- Pairs two slots found by a walk when both are there, both eligible, and they match. -/
def tryLink (s : Sides) (a : Alignment) : Option Nat → Option Nat → Option Alignment
  | some i, some j =>
    if s.sourceEligible a i && s.patchEligible a j &&
        isMatch s.policy s.fuzzy (s.source.textAt i) (s.patch.textAt j) then
      some (a.link i j)
    else none
  | _, _ => none

/-- Tries a pair and counts it. -/
def tryCount (s : Sides) (a : Alignment) (i j : Option Nat) : Alignment × Nat :=
  match s.tryLink a i j with
  | some a' => (a', 1)
  | none => (a, 0)

/-- One sweep of the adjacent pass over the given source slots: for each linked source
line, its nearest neighbours before and after are tried against those of its partner. -/
def adjacentSweep (s : Sides) (a : Alignment) (src : List Nat) : Alignment × Nat :=
  src.foldl (fun (a, n) i =>
    match a.patchOf i with
    | none => (a, n)
    | some j =>
      let (a, m₁) := s.tryCount a (s.source.walkBack s.skipSource (s.source.before i))
        (s.patch.walkBack s.skipPatch (s.patch.before j))
      let (a, m₂) := s.tryCount a (s.source.walkOn s.skipSource (s.source.after i))
        (s.patch.walkOn s.skipPatch (s.patch.after j))
      (a, n + m₁ + m₂)) (a, 0)

/-- Sweeps until a sweep pairs nothing, for at most `fuel` sweeps. -/
def adjacentRepeat (s : Sides) (src : List Nat) : Nat → Alignment → Alignment × Nat
  | 0, a => (a, 0)
  | fuel + 1, a =>
    let (a', n) := s.adjacentSweep a src
    if n = 0 then (a', 0)
    else
      let (a'', m) := s.adjacentRepeat src fuel a'
      (a'', n + m)

/-- The adjacent pass. Each sweep but the last pairs a source line, so one sweep more
than there are source lines is enough. -/
def linkAdjacent (s : Sides) (a : Alignment) (src : List Nat) : Alignment × Nat :=
  s.adjacentRepeat src (s.source.size + 1) a

/-- Lines that open brackets, grouped by normal form and paired in order whatever the
group sizes; additions are left out. -/
def linkBrackets (s : Sides) (a : Alignment) (src pat : List Nat) : Alignment × Nat :=
  let sg := groupBy s.sourceKey
    (src.filter fun i => s.sourceEligible a i && Depth.opens (s.source.textAt i))
  let pg := groupBy s.patchKey (pat.filter fun j =>
    s.patch.kindAt j != .add && Depth.opens (s.patch.textAt j) && s.patchEligible a j)
  sg.foldl (fun (a, n) (k, ss) =>
    let pairs := ss.zip ((lookupGroup pg k).getD [])
    (linkAll a pairs, n + pairs.length)) (a, 0)

/-- One round of the remaining-lines pass over the lines still free. -/
def remainingRound (s : Sides) (a : Alignment) (src pat : List Nat) : Alignment × Nat :=
  let (a, n₁) := s.linkUnique a src pat
  let (a, n₂) := s.linkAdjacent a src
  if n₁ + n₂ = 0 && s.policy.usesBracketSignature then s.linkBrackets a src pat
  else (a, n₁ + n₂)

/-- Rounds of the remaining-lines pass, each over the lines that the rounds before left
free, until a side has no free line, a round pairs nothing, or the rounds run out. -/
def remainingRounds (s : Sides) : Nat → Alignment → List Nat → List Nat → Alignment × Nat
  | 0, a, _, _ => (a, 0)
  | rounds + 1, a, src, pat =>
    let src := src.filter a.sourceFree
    let pat := pat.filter a.patchFree
    if src.isEmpty || pat.isEmpty then (a, 0)
    else
      let (a', n) := s.remainingRound a src pat
      if n = 0 then (a', 0)
      else
        let (a'', m) := s.remainingRounds rounds a' src pat
        (a'', n + m)

/-- All passes, from no pairs: the alignment and the number of pairs made. -/
def align (s : Sides) : Alignment × Nat :=
  let src := List.range s.source.size
  let pat := s.patch.order
  let a := Alignment.empty s.source.size s.patch.size
  let (a, n₁) := s.linkUnique a src pat
  let (a, n₂) := s.linkAdjacent a src
  let (a, n₃) := s.remainingRounds (maxRounds + 1) a src pat
  (a, n₁ + n₂ + n₃)

end Sides

end LinePatch
