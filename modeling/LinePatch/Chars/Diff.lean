import LinePatch.Chars.Merge

/-!
# Differences of sequences

The script between two sequences: their common head and tail are kept, and what lies
between is split by the cheapest rule that fits. An empty side is a single insertion
or deletion; a side found whole in the other is kept with the rest inserted or deleted
around it; a common middle of at least half the longer side splits the problem in two
(the half match); two long texts may be compared line by line first; otherwise the
middle snake of the shortest edit path, found by searching from both ends at once,
splits it. The result is merged.
-/

namespace LinePatch.Chars

variable {α : Type} [DecidableEq α]

def itemAt (xs : Array α) (i : Int) : Option α :=
  if i ≥ 0 then xs[i.toNat]? else xs[(i + xs.size).toNat]?

def frontAt (v : Array Int) (i : Int) : Int := ((itemAt v i).getD (-1))

def setFront (v : Array Int) (i : Int) (x : Int) : Array Int :=
  if i ≥ 0 then v.setIfInBounds i.toNat x else v.setIfInBounds (i + v.size).toNat x

def snakeOn (a b : Array α) : Nat → Int → Int → Int × Int
  | 0, x, y => (x, y)
  | fuel + 1, x, y =>
    if x < a.size && y < b.size && itemAt a x == itemAt b y then snakeOn a b fuel (x + 1) (y + 1)
    else (x, y)

def snakeBack (a b : Array α) : Nat → Int → Int → Int × Int
  | 0, x, y => (x, y)
  | fuel + 1, x, y =>
    if x < a.size && y < b.size && itemAt a (-x - 1) == itemAt b (-y - 1) then
      snakeBack a b fuel (x + 1) (y + 1)
    else (x, y)

/-- The two search fronts and how far the diagonals at their edges are ruled out. -/
structure Fronts where
  forward : Array Int
  backward : Array Int
  k1start : Int
  k1end : Int
  k2start : Int
  k2end : Int

def everyOther (lo hi : Int) : List Int :=
  (List.range (if hi > lo then ((hi - lo + 1) / 2).toNat else 0)).map fun (i : Nat) => lo + 2 * (i : Int)

/-- The fixed quantities of a search: the two sequences, the offset of diagonal zero,
the number of diagonals, the difference of the lengths, and whether the forward front
checks for overlap. -/
structure Search (α : Type) where
  a : Array α
  b : Array α
  offset : Int
  width : Int
  delta : Int
  front : Bool

def Search.forwardStep (s : Search α) (d : Int) : List Int → Fronts → Sum (Nat × Nat) Fronts
  | [], st => .inr st
  | k :: ks, st =>
    let off := s.offset + k
    let x := if k == -d || (k != d && frontAt st.forward (off - 1) < frontAt st.forward (off + 1))
      then frontAt st.forward (off + 1) else frontAt st.forward (off - 1) + 1
    let (x, y) := snakeOn s.a s.b (s.a.size + s.b.size + 1) x (x - k)
    let st := { st with forward := setFront st.forward off x }
    if x > s.a.size then s.forwardStep d ks { st with k1end := st.k1end + 2 }
    else if y > s.b.size then s.forwardStep d ks { st with k1start := st.k1start + 2 }
    else if s.front then
      let off2 := s.offset + s.delta - k
      if 0 ≤ off2 && off2 < s.width && frontAt st.backward off2 != -1 &&
          x ≥ s.a.size - frontAt st.backward off2 then
        .inl (x.toNat, y.toNat)
      else s.forwardStep d ks st
    else s.forwardStep d ks st

def Search.backwardStep (s : Search α) (d : Int) : List Int → Fronts → Sum (Nat × Nat) Fronts
  | [], st => .inr st
  | k :: ks, st =>
    let off := s.offset + k
    let x := if k == -d || (k != d && frontAt st.backward (off - 1) < frontAt st.backward (off + 1))
      then frontAt st.backward (off + 1) else frontAt st.backward (off - 1) + 1
    let (x, y) := snakeBack s.a s.b (s.a.size + s.b.size + 1) x (x - k)
    let st := { st with backward := setFront st.backward off x }
    if x > s.a.size then s.backwardStep d ks { st with k2end := st.k2end + 2 }
    else if y > s.b.size then s.backwardStep d ks { st with k2start := st.k2start + 2 }
    else if !s.front then
      let off1 := s.offset + s.delta - k
      if 0 ≤ off1 && off1 < s.width && frontAt st.forward off1 != -1 then
        let x1 := frontAt st.forward off1
        let y1 := s.offset + x1 - off1
        if x1 ≥ s.a.size - x then .inl (x1.toNat, y1.toNat) else s.backwardStep d ks st
      else s.backwardStep d ks st
    else s.backwardStep d ks st

/-- The steps of the search from `d` on; the diagonals of each half-step are fixed when
the half-step starts. -/
def Search.steps (s : Search α) : Nat → Int → Fronts → Option (Nat × Nat)
  | 0, _, _ => none
  | fuel + 1, d, st =>
    if d ≥ s.offset then none
    else
      match s.forwardStep d (everyOther (-d + st.k1start) (d + 1 - st.k1end)) st with
      | .inl p => some p
      | .inr st =>
        match s.backwardStep d (everyOther (-d + st.k2start) (d + 1 - st.k2end)) st with
        | .inl p => some p
        | .inr st => s.steps fuel (d + 1) st

def middleSnake (a b : List α) : Option (Nat × Nat) :=
  let n : Int := a.length
  let m : Int := b.length
  let maxD := (n + m + 1) / 2
  let v := setFront (Array.replicate (2 * maxD).toNat (-1 : Int)) (maxD + 1) 0
  let s : Search α :=
    { a := a.toArray, b := b.toArray, offset := maxD, width := 2 * maxD, delta := n - m,
      front := (n - m) % 2 != 0 }
  s.steps (maxD.toNat + 1) 0 ⟨v, v, 0, 0, 0, 0⟩

def halfMatchAt (long short : List α) (i : Nat) : Option (List α × List α × List α × List α × List α) :=
  let seed := (long.drop i).take (long.length / 4)
  let spots := (List.range (short.length + 1)).filter fun j => seed.isPrefixOf (short.drop j)
  let best := spots.foldl (fun (best : Option (List α × List α × List α × List α × List α)) j =>
    let pre := commonHead (long.drop i) (short.drop j)
    let suf := commonTail (long.take i) (short.take j)
    let held := match best with
      | some (_, _, _, _, c) => c.length
      | none => 0
    if held < suf + pre then
      some (long.take (i - suf), long.drop (i + pre), short.take (j - suf), short.drop (j + pre),
        (short.take j).drop (j - suf) ++ (short.drop j).take pre)
    else best) none
  match best with
  | some r@(_, _, _, _, c) => if c.length * 2 ≥ long.length then some r else none
  | none => none

def halfMatch (a b : List α) : Option (List α × List α × List α × List α × List α) :=
  let (long, short) := if a.length > b.length then (a, b) else (b, a)
  if long.length < 4 || short.length * 2 < long.length then none
  else
    let hm1 := halfMatchAt long short ((long.length + 3) / 4)
    let hm2 := halfMatchAt long short ((long.length + 1) / 2)
    let hm := match hm1, hm2 with
      | none, none => none
      | some h, none => some h
      | none, some h => some h
      | some h1, some h2 => if h1.2.2.2.2.length > h2.2.2.2.2.length then some h1 else some h2
    hm.map fun (la, lb, sa, sb, c) =>
      if a.length > b.length then (la, lb, sa, sb, c) else (sa, sb, la, lb, c)

def diffWith (lineMode : List α → List α → List (Edit α)) : Nat → Bool → List α → List α → List (Edit α)
  | 0, _, a, b => [⟨.delete, a⟩, ⟨.insert, b⟩]
  | fuel + 1, checkLines, a, b =>
    if a == b then (if a.isEmpty then [] else [⟨.equal, a⟩])
    else
      let h := commonHead a b
      let pre := a.take h
      let a := a.drop h
      let b := b.drop h
      let t := commonTail a b
      let suf := a.drop (a.length - t)
      let a := a.take (a.length - t)
      let b := b.take (b.length - t)
      let mid : List (Edit α) :=
        if a.isEmpty then [⟨.insert, b⟩]
        else if b.isEmpty then [⟨.delete, a⟩]
        else
          let (long, short) := if a.length > b.length then (a, b) else (b, a)
          let outer : Op := if a.length > b.length then .delete else .insert
          match find long short with
          | some i =>
            [⟨outer, long.take i⟩, ⟨.equal, short⟩, ⟨outer, long.drop (i + short.length)⟩]
          | none =>
            if short.length = 1 then [⟨.delete, a⟩, ⟨.insert, b⟩]
            else
              match halfMatch a b with
              | some (a1, a2, b1, b2, common) =>
                diffWith lineMode fuel checkLines a1 b1 ++ [⟨.equal, common⟩] ++
                  diffWith lineMode fuel checkLines a2 b2
              | none =>
                if checkLines && a.length > 100 && b.length > 100 then lineMode a b
                else
                  match middleSnake a b with
                  | some (x, y) =>
                    diffWith lineMode fuel false (a.take x) (b.take y) ++
                      diffWith lineMode fuel false (a.drop x) (b.drop y)
                  | none => [⟨.delete, a⟩, ⟨.insert, b⟩]
      let whole := (if pre.isEmpty then [] else [⟨.equal, pre⟩]) ++ mid ++
        (if suf.isEmpty then [] else [⟨.equal, suf⟩])
      (merge whole.toArray).toList

def diffPlain (a b : List α) : List (Edit α) :=
  diffWith (fun a b => [⟨.delete, a⟩, ⟨.insert, b⟩]) (a.length + b.length + 1) false a b

end LinePatch.Chars
