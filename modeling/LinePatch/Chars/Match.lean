import LinePatch.Chars.Edit

/-!
# Fuzzy location of a pattern

A pattern is looked for near an expected position of a text, allowing errors. A
candidate at position `x` with `e` errors scores `e / |pattern| + |x - expected| /
distance` (with distance zero, any candidate away from the expected position scores 1);
the best candidate at or below the threshold wins. The search runs the bit-parallel
shift-and matcher with one more allowed error per round, and narrows the window of each
round by a binary search on the score.
-/

namespace LinePatch.Chars

/-- The settings of the fuzzy search: the worst score accepted, and how far from the
expected position a match may drift for each unit of score. -/
structure Matcher where
  threshold : Float
  distance : Int

def lesser (a b : Float) : Float := if b < a then b else a

def alphabet (pattern : List Char) : List (Char × Nat) :=
  pattern.zipIdx.foldl (fun acc (c, i) =>
    let bit := 1 <<< (pattern.length - i - 1)
    if acc.any (·.1 == c) then acc.map fun (d, m) => if d == c then (d, m ||| bit) else (d, m)
    else acc ++ [(c, bit)]) []

/-- The fixed quantities of one search. -/
structure Bitap where
  m : Matcher
  text : Array Char
  pattern : List Char
  loc : Int
  masks : List (Char × Nat)

namespace Bitap

/-- The score of a candidate with `e` errors at position `x`. -/
def score (b : Bitap) (e : Nat) (x : Int) : Float :=
  let accuracy := Float.ofNat e / Float.ofNat b.pattern.length
  let proximity := (b.loc - x).natAbs
  if b.m.distance == 0 then (if proximity != 0 then 1.0 else accuracy)
  else
    let dist : Float := if b.m.distance < 0 then -(Float.ofNat b.m.distance.natAbs)
      else Float.ofNat b.m.distance.natAbs
    accuracy + Float.ofNat proximity / dist

def maskAt (b : Bitap) (j : Int) : Nat :=
  if (b.text.size : Int) ≤ j - 1 then 0
  else
    match b.text[(j - 1).toNat]? with
    | some c => ((b.masks.find? (·.1 == c)).map (·.2)).getD 0
    | none => 0

def narrow (b : Bitap) (d : Nat) (threshold : Float) : Nat → Int → Int → Int → Int × Int
  | 0, _, binMid, binMax => (binMid, binMax)
  | fuel + 1, binMin, binMid, binMax =>
    if binMin < binMid then
      let (binMin, binMax) :=
        if b.score d (b.loc + binMid) ≤ threshold then (binMid, binMax) else (binMin, binMid)
      narrow b d threshold fuel binMin ((binMax - binMin) / 2 + binMin) binMax
    else (binMid, binMax)

/-- The state of one round: the bit vectors so far, the threshold and the best
position. -/
structure Round where
  rd : Array Nat
  threshold : Float
  best : Int

/-- Scans one round from position `j` down to `start`, stopping at a match at or
before the expected position. -/
def scan (b : Bitap) (d : Nat) (last : Array Nat) (start : Int) : Nat → Int → Round → Round
  | 0, _, r => r
  | fuel + 1, j, r =>
    if j < start then r
    else
      let i := j.toNat
      let next := r.rd.getD (i + 1) 0
      let charMatch := b.maskAt j
      let v :=
        if d = 0 then ((next <<< 1) ||| 1) &&& charMatch
        else (((next <<< 1) ||| 1) &&& charMatch) |||
          (((last.getD (i + 1) 0 ||| last.getD i 0) <<< 1) ||| 1) ||| last.getD (i + 1) 0
      let r := { r with rd := r.rd.setIfInBounds i v }
      if v &&& (1 <<< (b.pattern.length - 1)) != 0 then
        let sc := b.score d (j - 1)
        if sc ≤ r.threshold then
          let r := { r with threshold := sc, best := j - 1 }
          if j - 1 > b.loc then scan b d last start fuel (j - 1) r else r
        else scan b d last start fuel (j - 1) r
      else scan b d last start fuel (j - 1) r

/-- The rounds from `d` errors on. -/
def rounds (b : Bitap) : Nat → Nat → Int → Array Nat → Float → Int → Int
  | 0, _, _, _, _, best => best
  | fuel + 1, d, binMax, last, threshold, best =>
    if d ≥ b.pattern.length then best
    else
      let (binMid, _) := b.narrow d threshold 200 0 binMax binMax
      let start := max 1 (b.loc - binMid + 1)
      let finish := min (b.loc + binMid) b.text.size + b.pattern.length
      let rd := (Array.replicate (finish + 2).toNat 0).setIfInBounds (finish + 1).toNat ((1 <<< d) - 1)
      let r := b.scan d last start ((finish - start + 1).toNat + 1) finish ⟨rd, threshold, best⟩
      if b.score (d + 1) b.loc > r.threshold then r.best
      else b.rounds fuel (d + 1) binMid r.rd r.threshold r.best

end Bitap

def Matcher.bitap (m : Matcher) (text pattern : List Char) (loc : Int) : Int :=
  let b : Bitap :=
    { m := m, text := text.toArray, pattern := pattern, loc := loc, masks := alphabet pattern }
  let start := loc.toNat
  let threshold :=
    match findFrom text pattern start with
    | some i =>
      let t := lesser (b.score 0 i) m.threshold
      match findLastFrom text pattern (start + pattern.length) with
      | some j => lesser (b.score 0 j) t
      | none => t
    | none => m.threshold
  b.rounds (pattern.length + 1) 0 (pattern.length + text.length) #[] threshold (-1)

/-- A fuzzy search that cannot score its candidates: their drift is divided by the
distance, which is not zero and too large to be a real number. -/
structure DistanceTooLarge where
  distance : Int

def Matcher.scorable (m : Matcher) : Bool :=
  m.distance == 0 || !(Float.ofNat m.distance.natAbs).isInf

def Matcher.locate (m : Matcher) (text pattern : List Char) (loc : Int) :
    Except DistanceTooLarge (Option Nat) :=
  let loc := max 0 (min loc text.length)
  if text == pattern then .ok (some 0)
  else if text.isEmpty then .ok none
  else if (text.drop loc.toNat).take pattern.length == pattern then .ok (some loc.toNat)
  else if !m.scorable then .error ⟨m.distance⟩
  else
    let r := m.bitap text pattern loc
    .ok (if r < 0 then none else some r.toNat)

end LinePatch.Chars
