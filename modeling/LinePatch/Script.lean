import LinePatch.Link
import LinePatch.Text.Lines

/-!
# Generated patches

A patch is generated from an old and a new text by linking their lines exactly. A linked
pair that goes against the order of the pairs after it is a moved line, written as a
deletion and an addition. The script then lists the new lines, as context where linked
and as additions where not, with the runs of unlinked old lines as deletions in front of
the context that follows them. Context far from any change is cut down to three lines on
each side, with a placeholder between; deletions are put before the additions next to
them; a deletion and an addition of the same line within one change cancel out.
-/

namespace LinePatch

namespace Script

/-- The lines of context kept on each side of a change. -/
def contextSize : Nat := 3

/-- The placeholder that stands for context left out. -/
def placeholder : Line := { index := -1, text := "...", kind := .context }

/-- The moved lines, as old slots: going through the linked old lines from the last,
one is moved when a later old line is linked to an earlier new line. -/
def movedLines (a : Alignment) (oldSize : Nat) : List Nat :=
  let linked := (List.range oldSize).filter fun i => (a.patchOf i).isSome
  (linked.reverse.foldl (fun (moved, earliest) i =>
    let target := (a.patchOf i).getD 0
    let moved := match earliest with
      | some e => if e < target then i :: moved else moved
      | none => moved
    let earliest := match earliest with
      | some e => some (min e target)
      | none => some target
    (moved, earliest)) (([] : List Nat), (none : Option Nat))).1

/-- The run of deleted old lines that ends at `start`, in order: the lines from `start`
back to the nearest old line that is linked and not moved. -/
def deletedRun (old : List String) (deleted : Nat → Bool) : Nat → Option Nat → List Line
  | 0, _ => []
  | _ + 1, none => []
  | fuel + 1, some i =>
    if deleted i then
      deletedRun old deleted fuel (if i = 0 then none else some (i - 1)) ++
        [{ index := i, text := old.getD i "", kind := .delete }]
    else []

/-- The script of two linked texts, before context is cut. -/
def ofAlignment (old new : List String) (a : Alignment) : List Line :=
  let moved := movedLines a old.length
  let deleted := fun i => (a.patchOf i).isNone || moved.contains i
  let run := deletedRun old deleted (old.length + 1)
  let body := new.zipIdx.flatMap fun (t, j) =>
    match a.sourceOf j with
    | some i =>
      if moved.contains i then [{ index := j, text := t, kind := .add }]
      else run (if i = 0 then none else some (i - 1)) ++ [{ index := j, text := t, kind := .context }]
    | none => [{ index := j, text := t, kind := .add }]
  body ++ run (if old.length = 0 then none else some (old.length - 1))

/-- The first `k` lines of a buffer; for a negative `k`, all but the last `-k`. -/
def leading (k : Int) (buf : List Line) : List Line :=
  if 0 ≤ k then buf.take k.toNat else buf.take (buf.length - k.natAbs)

/-- The last `k` lines of a buffer; for `k` zero or negative, all but the first `-k`. -/
def trailing (k : Int) (buf : List Line) : List Line :=
  if 0 < k then buf.drop (buf.length - k.toNat) else buf.drop k.natAbs

/-- Cuts runs of context down to `k` lines on each side of a change. A run between two
changes that is longer than `2 * k` keeps its first and last `k` lines with the
placeholder between; a run before the first change keeps its last `k` lines, and a run
after the last change its first `k`. A script without changes becomes empty. -/
def truncate (k : Int) (diff : List Line) : List Line :=
  let (out, buf) := diff.foldl (fun (out, buf) (l : Line) =>
    if l.kind = .context then (out, buf ++ [l])
    else
      let kept :=
        if (buf.length : Int) > k * 2 then
          (if out.isEmpty then [] else leading k buf ++ [placeholder]) ++ trailing k buf
        else buf
      (out ++ kept ++ [l], [])) (([] : List Line), ([] : List Line))
  if out.isEmpty then [] else out ++ leading k buf

/-- Finds the additions that cancel deletions: for each deletion, the first addition
after it, before the next context line, that no earlier deletion took and that has the
same normal form. Gives the pairs of positions. -/
def cancelPairs (p : Policy) (diff : List Line) : List (Nat × Nat) :=
  let arr := diff.toArray
  (List.range arr.size).foldl (fun pairs i =>
    match arr[i]? with
    | some l =>
      if l.kind = .delete && l.index != -1 then
        let key := p.normalize l.text
        let later := (List.range arr.size).filter (i < ·)
        let stop := (later.find? fun j => (arr[j]?.map (·.kind)) == some .context).getD arr.size
        let taken := pairs.map (·.2)
        match later.find? (fun j => j < stop && match arr[j]? with
            | some o => o.kind == .add && !taken.contains j && o.index != -1 &&
                p.normalize o.text == key
            | none => false) with
        | some j => pairs ++ [(i, j)]
        | none => pairs
      else pairs
    | none => pairs) []

/-- Drops the deletion and addition pairs that cancel out, and counts the pairs. -/
def annihilate (p : Policy) (diff : List Line) : List Line × Nat :=
  let pairs := cancelPairs p diff
  let gone := pairs.flatMap fun (i, j) => [i, j]
  ((diff.zipIdx.filter fun (_, i) => !gone.contains i).map (·.1), pairs.length)

/-- The lead of a line of each kind. -/
def lead : LineKind → String
  | .context => "  "
  | .add => "+ "
  | .delete => "- "

/-- Writes a script, one line each, without blanks at the end. -/
def render (diff : List Line) : String :=
  Text.dropTrailingBlanks (Text.joinLines (diff.map fun l => lead l.kind ++ l.text))

/-- The script from an old text to a new one: the two texts linked exactly, context cut
down around the changes, deletions put before the additions next to them, and the pairs
that cancel dropped. -/
def build (p : Policy) (oldText newText : String) : List Line :=
  let old := Text.splitLines oldText
  let new := Text.splitLines newText
  let s : Sides :=
    { policy := p, fuzzy := false, source := Strand.ofLines (Line.ofText old),
      patch := Strand.ofLines (Line.ofText new) }
  let diff := truncate contextSize (ofAlignment old new s.align.1)
  (annihilate p (Line.reorder diff).1).1

end Script

/-- Generates the patch from an old text to a new one. -/
def generate (p : Policy) (oldText newText : String) : String :=
  Script.render (Script.build p oldText newText)

end LinePatch
