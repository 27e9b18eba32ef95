/-!
# Edits of sequences

An edit script turns one sequence into another: runs that are kept, deleted or
inserted, in order. The source of a script is what its kept and deleted runs spell, the
target what its kept and inserted runs spell. This module holds the script type and the
plain operations on it and on sequences that the differ, the matcher and the hunks share:
common heads, tails and overlaps, search, the edit distance of a script, and the
translation of a position in the source to a position in the target.
-/

namespace LinePatch.Chars

/-- What a run of a script does. -/
inductive Op where
  | delete
  | insert
  | equal
  deriving DecidableEq, Repr, Inhabited

/-- A run of a script. -/
structure Edit (α : Type) where
  op : Op
  items : List α
  deriving DecidableEq, Repr, Inhabited

variable {α : Type} [DecidableEq α]

/-- The length of the longest common head of two lists. -/
def commonHead : List α → List α → Nat
  | a :: as, b :: bs => if a = b then commonHead as bs + 1 else 0
  | _, _ => 0

/-- The length of the longest common tail of two lists. -/
def commonTail (as bs : List α) : Nat := commonHead as.reverse bs.reverse

def findFrom (hay needle : List α) (start : Nat) : Option Nat :=
  if start > hay.length then none
  else ((List.range (hay.length + 1 - start)).map (· + start)).find?
    fun i => needle.isPrefixOf (hay.drop i)

/-- The first position where `needle` occurs in `hay`. -/
def find (hay needle : List α) : Option Nat := findFrom hay needle 0

/-- The last position at or after `start` where `needle` occurs in `hay`. -/
def findLastFrom (hay needle : List α) (start : Nat) : Option Nat :=
  if start > hay.length then none
  else ((List.range (hay.length + 1 - start)).map (· + start)).reverse.find?
    fun i => needle.isPrefixOf (hay.drop i)

def overlapSearch (a b : List α) (n : Nat) : Nat → Nat → Nat → Nat
  | 0, best, _ => best
  | fuel + 1, best, length =>
    match find b (a.drop (n - length)) with
    | none => best
    | some found =>
      let length := length + found
      if found = 0 || a.drop (n - length) == b.take length then
        overlapSearch a b n fuel length (length + 1)
      else overlapSearch a b n fuel best length

/-- The length of the longest tail of `a` that is a head of `b`. -/
def overlap (a b : List α) : Nat :=
  if a.isEmpty || b.isEmpty then 0
  else
    let n := min a.length b.length
    let a := a.drop (a.length - n)
    let b := b.take n
    if a == b then n else overlapSearch a b n (n + 2) 0 1

/-- What the kept and deleted runs spell. -/
def source (es : List (Edit α)) : List α :=
  es.flatMap fun e => if e.op = .insert then [] else e.items

/-- What the kept and inserted runs spell. -/
def target (es : List (Edit α)) : List α :=
  es.flatMap fun e => if e.op = .delete then [] else e.items

/-- The number of single-item edits a script stands for: between two kept runs, the
larger of what is inserted and what is deleted. -/
def distance (es : List (Edit α)) : Nat :=
  let (total, ins, del) := es.foldl (fun (total, ins, del) e =>
    match e.op with
    | .insert => (total, ins + e.items.length, del)
    | .delete => (total, ins, del + e.items.length)
    | .equal => (total + max ins del, 0, 0)) (0, 0, 0)
  total + max ins del

def translate (es : List (Edit α)) (loc : Nat) : Nat :=
  let rec go : List (Edit α) → Nat → Nat → Nat
    | [], c1, c2 => c2 + (loc - c1)
    | [e], c1, c2 =>
      let n1 := if e.op = .insert then c1 else c1 + e.items.length
      let n2 := if e.op = .delete then c2 else c2 + e.items.length
      if n1 > loc then (if e.op = .delete then c2 else c2 + (loc - c1))
      else if e.op = .delete then n2 else n2 + (loc - n1)
    | e :: rest, c1, c2 =>
      let n1 := if e.op = .insert then c1 else c1 + e.items.length
      let n2 := if e.op = .delete then c2 else c2 + e.items.length
      if n1 > loc then (if e.op = .delete then c2 else c2 + (loc - c1))
      else go rest n1 n2
  go es 0 0

end LinePatch.Chars
