import LinePatch.Chars.Merge
import LinePatch.Text.Alnum
import LinePatch.Text.Blank

/-!
# Cleaning up a script for people

A script found by the shortest edit path is exact but often hard to read: it keeps
short chance equalities in the middle of a change. The semantic cleanup turns a kept run
into a deletion and an insertion when it is no longer than the edits on both of its
sides, then slides each edit between two kept runs to the best boundary (a blank line
beats a line break, which beats a space after punctuation, then any blank, then any
other non-letter), and last splits off a kept run where a deletion and the insertion
after it overlap by at least half of one of them. The efficiency cleanup removes kept
runs shorter than the cost of an edit (four) when edits of both kinds surround them, or
shorter than half of it with three of the four kinds around.
-/

namespace LinePatch.Chars

def runAtInt {α : Type} (ds : Array (Edit α)) (i : Int) : Edit α :=
  if i ≥ 0 then ds.getD i.toNat ⟨.equal, []⟩ else ds.getD (i + ds.size).toNat ⟨.equal, []⟩

def wrapIndex (size : Nat) (i : Int) : Nat :=
  if i ≥ 0 then i.toNat else (i + size).toNat

def splitEquality {α : Type} (ds : Array (Edit α)) (i : Nat) : Array (Edit α) :=
  let items := (runAt ds i).items
  (ds.insertIdxIfInBounds i ⟨.delete, items⟩).modify (i + 1) fun e => ⟨.insert, e.items⟩

/-- The state of the first semantic pass: the script, the positions of the kept runs
seen (the last first), the last kept run, the cursor, and the lengths of insertions and
deletions before and after that kept run. -/
structure SemanticWalk where
  ds : Array (Edit Char)
  kept : List Nat
  lastKept : Option (List Char)
  ptr : Int
  ins1 : Nat
  del1 : Nat
  ins2 : Nat
  del2 : Nat
  changed : Bool

/-- The first semantic pass: kept runs no longer than the edits on both sides become
edits. -/
def SemanticWalk.run : Nat → SemanticWalk → SemanticWalk
  | 0, w => w
  | fuel + 1, w =>
    if w.ptr < w.ds.size then
      let e := runAtInt w.ds w.ptr
      let w :=
        if e.op == .equal then
          { w with
            kept := w.ptr.toNat :: w.kept, ins1 := w.ins2, ins2 := 0, del1 := w.del2, del2 := 0,
            lastKept := some e.items }
        else
          let w := if e.op == .insert then { w with ins2 := w.ins2 + e.items.length }
            else { w with del2 := w.del2 + e.items.length }
          match w.lastKept, w.kept with
          | some q, top :: rest =>
            if !q.isEmpty && q.length ≤ max w.ins1 w.del1 && q.length ≤ max w.ins2 w.del2 then
              let ds := splitEquality w.ds top
              let kept := rest.drop 1
              { ds := ds, kept := kept, lastKept := none,
                ptr := (match kept with
                  | k :: _ => (k : Int)
                  | [] => -1),
                ins1 := 0, del1 := 0, ins2 := 0, del2 := 0, changed := true }
            else w
          | _, _ => w
      SemanticWalk.run fuel { w with ptr := w.ptr + 1 }
    else w

def boundaryScore (one two : List Char) : Nat :=
  match one.getLast?, two.head? with
  | some c1, some c2 =>
    let other1 := !Text.isAlnum c1
    let other2 := !Text.isAlnum c2
    let blank1 := other1 && Text.isBlank c1
    let blank2 := other2 && Text.isBlank c2
    let break1 := blank1 && (c1 == '\r' || c1 == '\n')
    let break2 := blank2 && (c2 == '\r' || c2 == '\n')
    let blankLine1 := break1 && ("\n\n".toList.isSuffixOf one || "\n\r\n".toList.isSuffixOf one)
    let blankLine2 := break2 && ("\n\n".toList.isPrefixOf two || "\n\r\n".toList.isPrefixOf two ||
      "\r\n\n".toList.isPrefixOf two || "\r\n\r\n".toList.isPrefixOf two)
    if blankLine1 || blankLine2 then 5
    else if break1 || break2 then 4
    else if other1 && !blank1 && blank2 then 3
    else if blank1 || blank2 then 2
    else if other1 || other2 then 1
    else 0
  | _, _ => 6

def slideRight : Nat → List Char × List Char × List Char → Nat → List Char × List Char × List Char →
    List Char × List Char × List Char
  | 0, _, _, best => best
  | fuel + 1, (eq1, edit, eq2), bestScore, best =>
    match edit, eq2 with
    | c :: editRest, d :: eq2Rest =>
      if c = d then
        let eq1 := eq1 ++ [c]
        let edit := editRest ++ [d]
        let score := boundaryScore eq1 edit + boundaryScore edit eq2Rest
        if score ≥ bestScore then slideRight fuel (eq1, edit, eq2Rest) score (eq1, edit, eq2Rest)
        else slideRight fuel (eq1, edit, eq2Rest) bestScore best
      else best
    | _, _ => best

def losslessRun : Nat → Array (Edit Char) → Int → Array (Edit Char)
  | 0, ds, _ => ds
  | fuel + 1, ds, ptr =>
    if ptr < (ds.size : Int) - 1 then
      let prev := runAtInt ds (ptr - 1)
      let next := runAtInt ds (ptr + 1)
      if prev.op == .equal && next.op == .equal then
        let eq1 := prev.items
        let edit := (runAtInt ds ptr).items
        let eq2 := next.items
        let c := commonTail eq1 edit
        let (eq1, edit, eq2) :=
          if c != 0 then
            let common := edit.drop (edit.length - c)
            (eq1.take (eq1.length - c), common ++ edit.take (edit.length - c), common ++ eq2)
          else (eq1, edit, eq2)
        let (b1, bEdit, b2) := slideRight (eq2.length + 1) (eq1, edit, eq2)
          (boundaryScore eq1 edit + boundaryScore edit eq2) (eq1, edit, eq2)
        if prev.items != b1 then
          let (ds, ptr) :=
            if !b1.isEmpty then (setItems ds (wrapIndex ds.size (ptr - 1)) b1, ptr)
            else (ds.eraseIdxIfInBounds (wrapIndex ds.size (ptr - 1)), ptr - 1)
          let ds := setItems ds (wrapIndex ds.size ptr) bEdit
          let (ds, ptr) :=
            if !b2.isEmpty then (setItems ds (wrapIndex ds.size (ptr + 1)) b2, ptr)
            else (ds.eraseIdxIfInBounds (wrapIndex ds.size (ptr + 1)), ptr - 1)
          losslessRun fuel ds (ptr + 1)
        else losslessRun fuel ds (ptr + 1)
      else losslessRun fuel ds (ptr + 1)
    else ds

def cleanupLossless (ds : Array (Edit Char)) : Array (Edit Char) :=
  losslessRun (ds.size + 3) ds 1

def overlapRun : Nat → Array (Edit Char) → Nat → Array (Edit Char)
  | 0, ds, _ => ds
  | fuel + 1, ds, ptr =>
    if ptr < ds.size then
      let prev := runAt ds (ptr - 1)
      let cur := runAt ds ptr
      if prev.op == .delete && cur.op == .insert then
        let del := prev.items
        let ins := cur.items
        let o1 := overlap del ins
        let o2 := overlap ins del
        if o1 ≥ o2 then
          if 2 * o1 ≥ del.length || 2 * o1 ≥ ins.length then
            let ds := ds.insertIdxIfInBounds ptr ⟨.equal, ins.take o1⟩
            let ds := ds.setIfInBounds (ptr - 1) ⟨.delete, del.take (del.length - o1)⟩
            let ds := ds.setIfInBounds (ptr + 1) ⟨.insert, ins.drop o1⟩
            overlapRun fuel ds (ptr + 3)
          else overlapRun fuel ds (ptr + 2)
        else
          if 2 * o2 ≥ del.length || 2 * o2 ≥ ins.length then
            let ds := ds.insertIdxIfInBounds ptr ⟨.equal, del.take o2⟩
            let ds := ds.setIfInBounds (ptr - 1) ⟨.insert, ins.take (ins.length - o2)⟩
            let ds := ds.setIfInBounds (ptr + 1) ⟨.delete, del.drop o2⟩
            overlapRun fuel ds (ptr + 3)
          else overlapRun fuel ds (ptr + 2)
      else overlapRun fuel ds (ptr + 1)
    else ds

/-- The semantic cleanup. -/
def cleanupSemantic (ds : Array (Edit Char)) : Array (Edit Char) :=
  let n := ds.size
  let w := SemanticWalk.run ((n + 2) * (2 * n + 3))
    { ds := ds, kept := [], lastKept := none, ptr := 0, ins1 := 0, del1 := 0, ins2 := 0,
      del2 := 0, changed := false }
  let ds := if w.changed then merge w.ds else w.ds
  let ds := cleanupLossless ds
  overlapRun (2 * ds.size + 4) ds 1

/-- The state of the efficiency pass: the script, the positions of the short kept runs
seen (the last first), the last of them, the cursor, and which kinds of edit stand
before and after it. -/
structure EfficiencyWalk where
  ds : Array (Edit Char)
  kept : List Nat
  lastKept : Option (List Char)
  ptr : Int
  preIns : Bool
  preDel : Bool
  postIns : Bool
  postDel : Bool
  changed : Bool

def editCost : Nat := 4

/-- The efficiency pass. -/
def EfficiencyWalk.run : Nat → EfficiencyWalk → EfficiencyWalk
  | 0, w => w
  | fuel + 1, w =>
    if w.ptr < w.ds.size then
      let e := runAtInt w.ds w.ptr
      let w :=
        if e.op == .equal then
          if e.items.length < editCost && (w.postIns || w.postDel) then
            { w with
              kept := w.ptr.toNat :: w.kept, preIns := w.postIns, preDel := w.postDel,
              lastKept := some e.items, postIns := false, postDel := false }
          else { w with kept := [], lastKept := none, postIns := false, postDel := false }
        else
          let w := if e.op == .delete then { w with postDel := true } else { w with postIns := true }
          let count := [w.preIns, w.preDel, w.postIns, w.postDel].count true
          match w.lastKept, w.kept with
          | some q, top :: rest =>
            if !q.isEmpty && ((w.preIns && w.preDel && w.postIns && w.postDel) ||
                (2 * q.length < editCost && count = 3)) then
              let ds := splitEquality w.ds top
              if w.preIns && w.preDel then
                { w with
                  ds := ds, kept := [], lastKept := none, postIns := true, postDel := true,
                  changed := true }
              else
                let kept := rest.drop 1
                { w with
                  ds := ds, kept := kept, lastKept := none,
                  ptr := (match kept with
                    | k :: _ => (k : Int)
                    | [] => -1),
                  postIns := false, postDel := false, changed := true }
            else w
          | _, _ => w
      EfficiencyWalk.run fuel { w with ptr := w.ptr + 1 }
    else w

def cleanupEfficiency (ds : Array (Edit Char)) : Array (Edit Char) :=
  let n := ds.size
  let w := EfficiencyWalk.run ((n + 2) * (2 * n + 3))
    { ds := ds, kept := [], lastKept := none, ptr := 0, preIns := false, preDel := false,
      postIns := false, postDel := false, changed := false }
  if w.changed then merge w.ds else w.ds

end LinePatch.Chars
