import LinePatch.Line

/-!
# Strands

A strand is the lines of one side in their current order, where each line remembers the
line written before it and the line written after it. The lines sit in slots, numbered
in the order they were written; neighbours are named by slot.
-/

namespace LinePatch

/-- A line in a strand with the slots of its remembered neighbours. -/
structure Entry where
  line : Line
  before : Option Nat
  after : Option Nat
  deriving DecidableEq, Repr, Inhabited

/-- The lines of one side: entries by slot, and the slots in their current order. -/
structure Strand where
  entries : Array Entry
  order : List Nat
  deriving Repr, Inhabited

namespace Strand

/-- The strand of a list of lines, each line's neighbours being those beside it. -/
def ofLines (ls : List Line) : Strand where
  entries := (ls.zipIdx.map fun (l, i) =>
    { line := l
      before := if i = 0 then none else some (i - 1)
      after := if i + 1 < ls.length then some (i + 1) else none }).toArray
  order := List.range ls.length

/-- The number of lines. -/
def size (s : Strand) : Nat := s.entries.size

/-- The line in a slot. -/
def line? (s : Strand) (i : Nat) : Option Line := (s.entries[i]?).map (·.line)

/-- The remembered neighbour before the line in a slot. -/
def before (s : Strand) (i : Nat) : Option Nat := (s.entries[i]?).bind (·.before)

/-- The remembered neighbour after the line in a slot. -/
def after (s : Strand) (i : Nat) : Option Nat := (s.entries[i]?).bind (·.after)

/-- The kind of the line in a slot (context when the slot is empty). -/
def kindAt (s : Strand) (i : Nat) : LineKind := ((s.line? i).map (·.kind)).getD .context

/-- The text of the line in a slot (empty when the slot is empty). -/
def textAt (s : Strand) (i : Nat) : String := ((s.line? i).map (·.text)).getD ""

/-- The slot holds a line that may be linked: a placeholder, numbered `-1`, never is. -/
def linkable (s : Strand) (i : Nat) : Bool := (s.line? i).any (·.index != -1)

/-- The lines in their current order. -/
def lines (s : Strand) : List Line := s.order.filterMap s.line?

def positionOf (s : Strand) (i : Nat) : Option Nat := s.order.idxOf? i

def depths (s : Strand) : List Depth := Line.runningDepths s.lines

/-- Follows `step` from `start` while `skip` holds of the slot reached, for at most
`fuel` steps; the first slot where `skip` fails, or `none` when the walk runs out. -/
def walk (step : Nat → Option Nat) (skip : Nat → Bool) : Nat → Option Nat → Option Nat
  | 0, _ => none
  | _ + 1, none => none
  | fuel + 1, some i => if skip i then walk step skip fuel (step i) else some i

/-- Walks backwards through remembered neighbours from `start`, past the slots where
`skip` holds. Remembered neighbours never run in a circle, so a walk of one step more
than the strand has lines always ends. -/
def walkBack (s : Strand) (skip : Nat → Bool) (start : Option Nat) : Option Nat :=
  walk s.before skip (s.size + 1) start

/-- Walks forwards through remembered neighbours from `start`, past the slots where
`skip` holds. -/
def walkOn (s : Strand) (skip : Nat → Bool) (start : Option Nat) : Option Nat :=
  walk s.after skip (s.size + 1) start

/-- Exchanges the addition in slot `a` with the deletion in slot `d` that follows it:
the deletion takes the addition's earlier neighbour and the addition the deletion's
later one; no other line changes. -/
def swapLinks (es : Array Entry) (a d : Nat) : Array Entry :=
  let earlier := (es[a]?).bind (·.before)
  let later := (es[d]?).bind (·.after)
  (es.modify d fun e => { e with before := earlier, after := some a }).modify a
    fun e => { e with before := some d, after := later }

/-- An addition directly followed by a deletion is out of order. -/
def outOfOrder (es : Array Entry) (a d : Nat) : Bool :=
  ((es[a]?).map (·.line.kind)) == some .add && ((es[d]?).map (·.line.kind)) == some .delete

/-- One sweep from left to right: `carry` is the line at the current position, which an
addition keeps while it moves past deletions. Gives the entries, the new order of
`carry :: rest` and the number of swaps. -/
def sweep (es : Array Entry) (carry : Nat) : List Nat → Array Entry × List Nat × Nat
  | [] => (es, [carry], 0)
  | b :: rest =>
    if outOfOrder es carry b then
      let (es', out, n) := sweep (swapLinks es carry b) carry rest
      (es', b :: out, n + 1)
    else
      let (es', out, n) := sweep es b rest
      (es', carry :: out, n)

/-- One sweep over the whole strand, with its number of swaps. -/
def sweepAll (s : Strand) : Strand × Nat :=
  match s.order with
  | [] => (s, 0)
  | a :: rest =>
    let (es, order, n) := sweep s.entries a rest
    ({ entries := es, order := order }, n)

/-- Sweeps until a sweep swaps nothing, for at most `fuel` sweeps, adding up the swaps. -/
def sweepUntilStill : Nat → Strand → Strand × Nat
  | 0, s => (s, 0)
  | fuel + 1, s =>
    let (s', n) := s.sweepAll
    if n = 0 then (s', 0)
    else
      let (s'', m) := sweepUntilStill fuel s'
      (s'', n + m)

/-- Moves every deletion in front of the additions directly before it, and counts the
swaps. A deletion moves one place per sweep, so one sweep more than the strand has lines
is always enough. -/
def reorder (s : Strand) : Strand × Nat :=
  sweepUntilStill (s.order.length + 1) s

end Strand

/-- Puts a list of lines in order, as `Strand.reorder` does, and counts the swaps. -/
def Line.reorder (ls : List Line) : List Line × Nat :=
  let (s, n) := (Strand.ofLines ls).reorder
  (s.lines, n)

end LinePatch
