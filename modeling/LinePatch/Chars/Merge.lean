import LinePatch.Chars.Edit

/-!
# Merging the runs of a script

Merging tidies a script without changing its source or target. Runs of deletions and
insertions between two kept runs become at most one deletion and one insertion, with
what they have in common at their head moved into the kept run before and what they
have in common at their tail moved into the kept run after. Kept runs that touch are
joined. Then an edit between two kept runs is slid to the left or right when one kept
run can be absorbed that way; after such a slide the whole merge runs again.
-/

namespace LinePatch.Chars

variable {α : Type} [DecidableEq α]

/-- The run at a position, or an empty kept run past the end. -/
def runAt (ds : Array (Edit α)) (i : Nat) : Edit α := ds.getD i ⟨.equal, []⟩

def appendAt (ds : Array (Edit α)) (i : Nat) (xs : List α) : Array (Edit α) :=
  ds.modify i fun e => { e with items := e.items ++ xs }

def prependAt (ds : Array (Edit α)) (i : Nat) (xs : List α) : Array (Edit α) :=
  ds.modify i fun e => { e with items := xs ++ e.items }

def setItems (ds : Array (Edit α)) (i : Nat) (xs : List α) : Array (Edit α) :=
  ds.modify i fun e => { e with items := xs }

def gatherEdits : Nat → Array (Edit α) → Nat → Nat → Nat → List α → List α → Array (Edit α)
  | 0, ds, _, _, _, _, _ => ds
  | fuel + 1, ds, ptr, nDel, nIns, del, ins =>
    if ptr < ds.size then
      let e := runAt ds ptr
      match e.op with
      | .insert => gatherEdits fuel ds (ptr + 1) nDel (nIns + 1) del (ins ++ e.items)
      | .delete => gatherEdits fuel ds (ptr + 1) (nDel + 1) nIns (del ++ e.items) ins
      | .equal =>
        if nDel + nIns > 1 then
          -- Common heads go into the kept run before, common tails into this one.
          let (ds, ptr, del, ins) :=
            if nDel != 0 && nIns != 0 then
              let c := commonHead ins del
              let (ds, ptr, del, ins) :=
                if c != 0 then
                  let head := ins.take c
                  let x := ptr - nDel - nIns
                  if x ≥ 1 && (runAt ds (x - 1)).op == .equal then
                    (appendAt ds (x - 1) head, ptr, del.drop c, ins.drop c)
                  else (ds.insertIdxIfInBounds 0 ⟨.equal, head⟩, ptr + 1, del.drop c, ins.drop c)
                else (ds, ptr, del, ins)
              let c := commonTail ins del
              if c != 0 then
                (prependAt ds ptr (ins.drop (ins.length - c)), ptr, del.take (del.length - c),
                  ins.take (ins.length - c))
              else (ds, ptr, del, ins)
            else (ds, ptr, del, ins)
          let fresh : List (Edit α) :=
            (if del.isEmpty then [] else [⟨.delete, del⟩]) ++
              (if ins.isEmpty then [] else [⟨.insert, ins⟩])
          let start := ptr - nDel - nIns
          let ds := ds.extract 0 start ++ fresh.toArray ++ ds.extract ptr ds.size
          gatherEdits fuel ds (start + fresh.length + 1) 0 0 [] []
        else if ptr != 0 && (runAt ds (ptr - 1)).op == .equal then
          let ds := (appendAt ds (ptr - 1) e.items).eraseIdxIfInBounds ptr
          gatherEdits fuel ds ptr 0 0 [] []
        else gatherEdits fuel ds (ptr + 1) 0 0 [] []
    else ds

def slideEdits : Nat → Array (Edit α) → Nat → Bool → Array (Edit α) × Bool
  | 0, ds, _, changed => (ds, changed)
  | fuel + 1, ds, ptr, changed =>
    if ptr + 1 < ds.size then
      let prev := runAt ds (ptr - 1)
      let cur := runAt ds ptr
      let next := runAt ds (ptr + 1)
      if prev.op == .equal && next.op == .equal then
        if prev.items.isSuffixOf cur.items then
          if !prev.items.isEmpty then
            let ds := setItems ds ptr (prev.items ++ cur.items.take (cur.items.length - prev.items.length))
            let ds := setItems ds (ptr + 1) (prev.items ++ next.items)
            slideEdits fuel (ds.eraseIdxIfInBounds (ptr - 1)) (ptr + 1) true
          else slideEdits fuel ds (ptr + 1) changed
        else if next.items.isPrefixOf cur.items then
          let ds := setItems ds (ptr - 1) (prev.items ++ next.items)
          let ds := setItems ds ptr (cur.items.drop next.items.length ++ next.items)
          slideEdits fuel (ds.eraseIdxIfInBounds (ptr + 1)) (ptr + 1) true
        else slideEdits fuel ds (ptr + 1) changed
      else slideEdits fuel ds (ptr + 1) changed
    else (ds, changed)

def mergeRounds : Nat → Array (Edit α) → Array (Edit α)
  | 0, ds => ds
  | rounds + 1, ds =>
    let ds := gatherEdits (ds.size + 3) (ds.push ⟨.equal, []⟩) 0 0 0 [] []
    let ds := match ds.back? with
      | some e => if e.items.isEmpty then ds.pop else ds
      | none => ds
    let (ds, changed) := slideEdits (ds.size + 2) ds 1 false
    if changed then mergeRounds rounds ds else ds

/-- Merges a script. A round that slides an edit removes a run, so there are at most as
many rounds as runs. -/
def merge (ds : Array (Edit α)) : Array (Edit α) :=
  mergeRounds (ds.size + 1) ds

end LinePatch.Chars
