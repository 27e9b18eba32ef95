import LinePatch.Chars.Cleanup
import LinePatch.Chars.Diff

/-!
# Line-first differences of texts

Two long texts are first compared line by line: each distinct line becomes one token,
the token sequences are compared, the script is mapped back to text and cleaned up
semantically, and then each stretch of deleted and inserted lines is compared again
character by character. This finds a good script quickly when whole lines change.
-/

namespace LinePatch.Chars

def linesFrom (cur : List Char) : List Char → List (List Char)
  | [] => if cur.isEmpty then [] else [cur]
  | c :: r => if c = '\n' then (cur ++ ['\n']) :: linesFrom [] r else linesFrom (cur ++ [c]) r

def linesOf (cs : List Char) : List (List Char) := linesFrom [] cs

def tokenize (table : Array (List Char)) (cs : List Char) : List Nat × Array (List Char) :=
  (linesOf cs).foldl (fun (toks, table) line =>
    match table.toList.idxOf? line with
    | some i => (toks ++ [i], table)
    | none => (toks ++ [table.size], table.push line)) ([], table)

/-- Replaces a stretch of deletions and insertions ending before `ptr` by the script of
its texts, for each stretch between kept runs. -/
def refine (rediff : List Char → List Char → List (Edit Char)) :
    Nat → Array (Edit Char) → Nat → Nat → Nat → List Char → List Char → Array (Edit Char)
  | 0, ds, _, _, _, _, _ => ds
  | fuel + 1, ds, ptr, nDel, nIns, del, ins =>
    if ptr < ds.size then
      let e := runAt ds ptr
      match e.op with
      | .insert => refine rediff fuel ds (ptr + 1) nDel (nIns + 1) del (ins ++ e.items)
      | .delete => refine rediff fuel ds (ptr + 1) (nDel + 1) nIns (del ++ e.items) ins
      | .equal =>
        if nDel ≥ 1 && nIns ≥ 1 then
          let sub := rediff del ins
          let start := ptr - nDel - nIns
          let ds := ds.extract 0 start ++ sub.toArray ++ ds.extract ptr ds.size
          refine rediff fuel ds (start + sub.length + 1) 0 0 [] []
        else refine rediff fuel ds (ptr + 1) 0 0 [] []
    else ds

def lineFirst (a b : List Char) : List (Edit Char) :=
  let (t1, table) := tokenize #[[]] a
  let (t2, table) := tokenize table b
  let ds := (diffPlain t1 t2).map fun e =>
    (⟨e.op, e.items.flatMap fun i => table.getD i []⟩ : Edit Char)
  let ds := cleanupSemantic ds.toArray
  let rediff := fun x y => diffPlain x y
  let ds := refine rediff (2 * ds.size + 4) (ds.push ⟨.equal, []⟩) 0 0 0 [] []
  ds.pop.toList

def diffText (checkLines : Bool) (a b : List Char) : List (Edit Char) :=
  diffWith lineFirst (a.length + b.length + 1) checkLines a b

end LinePatch.Chars
