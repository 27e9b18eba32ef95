import LinePatch.Chars.Lines
import LinePatch.Text.Digit
import LinePatch.Chars.Match
import LinePatch.Text.Percent
import LinePatch.Text.Lines
import LinePatch.Number.Reading

/-!
# Hunks of a character patch

A character patch is a list of hunks. A hunk holds a script with some kept text around
its edits, and where its source and target stretches start and how long they are. A
patch is made from the cleaned-up script of two texts, a hunk ending wherever eight or
more characters are kept; each hunk then takes on context until its source stretch is
unique in the text (or long enough) plus four characters more on each side.
-/

namespace LinePatch.Chars

def margin : Nat := 4

def maxBits : Nat := 32

/-- A hunk: where its source and target stretches start, their lengths, and its
script. -/
structure Hunk where
  start1 : Int := 0
  start2 : Int := 0
  length1 : Nat := 0
  length2 : Nat := 0
  edits : List (Edit Char) := []
  deriving Inhabited

def slice (xs : List Char) (a b : Nat) : List Char := (xs.drop a).take (b - a)

def Hunk.addContext (h : Hunk) (text : List Char) : Hunk :=
  if text.isEmpty then h
  else
    let s2 := h.start2.toNat
    let rec widen : Nat → Nat → Nat
      | 0, padding => padding
      | fuel + 1, padding =>
        let pattern := slice text (s2 - padding) (s2 + h.length1 + padding)
        if find text pattern != findLastFrom text pattern 0 &&
            pattern.length < maxBits - margin - margin then
          widen fuel (padding + margin)
        else padding
    let padding := widen (text.length + 2) 0 + margin
    let pre := slice text (s2 - padding) s2
    let post := slice text (s2 + h.length1) (s2 + h.length1 + padding)
    { start1 := h.start1 - pre.length, start2 := h.start2 - pre.length,
      length1 := h.length1 + pre.length + post.length,
      length2 := h.length2 + pre.length + post.length,
      edits := (if pre.isEmpty then [] else [⟨.equal, pre⟩]) ++ h.edits ++
        (if post.isEmpty then [] else [⟨.equal, post⟩]) }

/-- The state of making hunks: the hunks made, the hunk being made, the positions in the
source and target, and the texts before and after the hunks so far. -/
structure Making where
  done : List Hunk
  cur : Hunk
  count1 : Nat
  count2 : Nat
  pre : List Char
  post : List Char

/-- Takes one run of the script, the `x`-th of `n`, into the hunks. -/
def Making.step (n : Nat) (st : Making) (x : Nat) (e : Edit Char) : Making :=
  let len := e.items.length
  let cur := if st.cur.edits.isEmpty && e.op != .equal then
      { st.cur with start1 := st.count1, start2 := st.count2 } else st.cur
  let (cur, post) :=
    match e.op with
    | .insert =>
      ({ cur with edits := cur.edits ++ [e], length2 := cur.length2 + len },
        st.post.take st.count2 ++ e.items ++ st.post.drop st.count2)
    | .delete =>
      ({ cur with edits := cur.edits ++ [e], length1 := cur.length1 + len },
        st.post.take st.count2 ++ st.post.drop (st.count2 + len))
    | .equal =>
      if len ≤ 2 * margin && !cur.edits.isEmpty && x + 1 != n then
        let grown := { cur with edits := cur.edits ++ [e], length1 := cur.length1 + len }
        ({ grown with length2 := grown.length2 + len }, st.post)
      else (cur, st.post)
  let st := { st with cur := cur, post := post }
  let st :=
    if e.op == .equal && len ≥ 2 * margin && !st.cur.edits.isEmpty then
      { st with
        done := st.done ++ [st.cur.addContext st.pre]
        cur := {}
        pre := st.post
        count1 := st.count2 }
    else st
  { st with
    count1 := if e.op != .insert then st.count1 + len else st.count1
    count2 := if e.op != .delete then st.count2 + len else st.count2 }

/-- The hunks that turn one text into another. -/
def Hunk.make (a b : List Char) : List Hunk :=
  let ds := diffText true a b
  let ds := if ds.length > 2 then (cleanupEfficiency (cleanupSemantic ds.toArray)).toList else ds
  if ds.isEmpty then []
  else
    let start : Making := { done := [], cur := {}, count1 := 0, count2 := 0, pre := a, post := a }
    let st := ds.zipIdx.foldl (fun (st : Making) (e, x) => st.step ds.length x e) start
    if st.cur.edits.isEmpty then st.done else st.done ++ [st.cur.addContext st.pre]

def coords (start : Int) (len : Nat) : String :=
  if len = 0 then toString start ++ ",0"
  else if len = 1 then toString (start + 1)
  else toString (start + 1) ++ "," ++ toString len

/-- The mark of a run in hunk text. -/
def Op.mark : Op → String
  | .insert => "+"
  | .delete => "-"
  | .equal => " "

section Rendering

variable [Text.Surrogates]

/-- A hunk as text, or the first run of codes that a run of it cannot encode, placed
within that run. -/
def Hunk.render (h : Hunk) : Except Text.Unencodable String := do
  let lines ← h.edits.mapM fun e => do
    pure (e.op.mark ++ (← Text.percentEncodeChecked (String.ofList e.items)) ++ "\n")
  pure ("@@ -" ++ coords h.start1 h.length1 ++ " +" ++ coords h.start2 h.length2 ++ " @@\n" ++
    String.join lines)

def renderHunks (hs : List Hunk) : Except Text.Unencodable String := do
  pure (String.join (← hs.mapM Hunk.render))

end Rendering

def isDigitChar (c : Char) : Bool := (Text.decimalValue c).isSome

def digitsHead (cs : List Char) : List Char × List Char :=
  (cs.takeWhile isDigitChar, cs.dropWhile isDigitChar)

/-- The value of decimal digits of any script. -/
def digitsValue (ds : List Char) : Nat :=
  ds.foldl (fun n c => 10 * n + (Text.decimalValue c).getD 0) 0

def coordDigits (cs : List Char) : Option (List Char × List Char × List Char) :=
  let (a, r) := digitsHead cs
  if a.isEmpty then none
  else
    let r := match r with
      | ',' :: r' => r'
      | _ => r
    let (b, r) := digitsHead r
    some (a, b, r)

def digitsChecked (ds : List Char) : Except String Nat :=
  if ds.length > Number.maxDigits then .error (Number.tooLongMessage ds.length)
  else .ok (digitsValue ds)

def coordsOf (a b : List Char) : Except String (Int × Nat) := do
  let start : Int := ← digitsChecked a
  if b.isEmpty then pure (start - 1, 1)
  else if b == ['0'] then pure (start, 0)
  else pure (start - 1, ← digitsChecked b)

def headerDigits (line : String) : Option ((List Char × List Char) × (List Char × List Char)) :=
  match line.toList with
  | '@' :: '@' :: ' ' :: '-' :: r =>
    (coordDigits r).bind fun (a1, b1, r) =>
      match r with
      | ' ' :: '+' :: r =>
        (coordDigits r).bind fun (a2, b2, r) =>
          if r == " @@".toList then some ((a1, b1), (a2, b2)) else none
      | _ => none
  | _ => none

def readHeader (line : String) : Option (Except String Hunk) :=
  (headerDigits line).map fun ((a1, b1), (a2, b2)) => do
    let (s1, l1) ← coordsOf a1 b1
    let (s2, l2) ← coordsOf a2 b2
    pure { start1 := s1, start2 := s2, length1 := l1, length2 := l2 }

def readRuns (h : Hunk) : List String → Except String (Hunk × List String)
  | [] => .ok (h, [])
  | line :: rest =>
    match line.toList with
    | [] => readRuns h rest
    | c :: body =>
      let items := (Text.percentDecode (String.ofList body)).toList
      if c = '+' then readRuns { h with edits := h.edits ++ [⟨.insert, items⟩] } rest
      else if c = '-' then readRuns { h with edits := h.edits ++ [⟨.delete, items⟩] } rest
      else if c = ' ' then readRuns { h with edits := h.edits ++ [⟨.equal, items⟩] } rest
      else if c = '@' then .ok (h, line :: rest)
      else .error ("Invalid patch mode: '" ++ c.toString ++ "'\n" ++ String.ofList items)

def readHunks : Nat → List String → Except String (List Hunk)
  | 0, _ => .ok []
  | _ + 1, [] => .ok []
  | fuel + 1, line :: rest =>
    match readHeader line with
    | none => .error ("Invalid patch string: " ++ line)
    | some h => do
      let (h, rest) ← readRuns (← h) rest
      let hs ← readHunks fuel rest
      pure (h :: hs)

def parseHunks (text : String) : Except String (List Hunk) :=
  if text.isEmpty then .ok []
  else
    let lines := (Text.cutAt '\n' text.toList).map String.ofList
    readHunks (lines.length + 1) lines

def padding : List Char := (List.range margin).map fun i => Char.ofNat (i + 1)

def addPadding (hs : List Hunk) : List Hunk :=
  let hs := hs.map fun h => { h with start1 := h.start1 + margin, start2 := h.start2 + margin }
  let padFirst (h : Hunk) : Hunk :=
    match h.edits with
    | e :: rest =>
      if e.op != .equal then
        { h with
          edits := ⟨.equal, padding⟩ :: e :: rest
          start1 := h.start1 - margin
          start2 := h.start2 - margin
          length1 := h.length1 + margin
          length2 := h.length2 + margin }
      else if margin > e.items.length then
        let extra := margin - e.items.length
        { h with
          edits := ⟨.equal, padding.drop e.items.length ++ e.items⟩ :: rest
          start1 := h.start1 - extra
          start2 := h.start2 - extra
          length1 := h.length1 + extra
          length2 := h.length2 + extra }
      else h
    | [] =>
      { h with
        edits := [⟨.equal, padding⟩]
        start1 := h.start1 - margin
        start2 := h.start2 - margin
        length1 := h.length1 + margin
        length2 := h.length2 + margin }
  let padLast (h : Hunk) : Hunk :=
    match h.edits.getLast? with
    | some e =>
      if e.op != .equal then
        { h with
          edits := h.edits ++ [⟨.equal, padding⟩]
          length1 := h.length1 + margin
          length2 := h.length2 + margin }
      else if margin > e.items.length then
        let extra := margin - e.items.length
        { h with
          edits := h.edits.dropLast ++ [⟨.equal, e.items ++ padding.take extra⟩]
          length1 := h.length1 + extra
          length2 := h.length2 + extra }
      else h
    | none =>
      { h with
        edits := [⟨.equal, padding⟩]
        length1 := h.length1 + margin
        length2 := h.length2 + margin }
  match hs with
  | [] => []
  | first :: rest =>
    let hs := padFirst first :: rest
    hs.dropLast ++ (hs.getLast?.map padLast).toList

/-- The state of cutting a piece off a long hunk. -/
structure Piece where
  hunk : Hunk
  empty : Bool
  start1 : Int
  start2 : Int
  rest : List (Edit Char)

def Piece.fill : Nat → Piece → Piece
  | 0, p => p
  | fuel + 1, p =>
    match p.rest with
    | [] => p
    | e :: more =>
      if p.hunk.length1 < maxBits - margin then
        let len := e.items.length
        if e.op == .insert then
          Piece.fill fuel { p with
            hunk := { p.hunk with length2 := p.hunk.length2 + len, edits := p.hunk.edits ++ [e] },
            start2 := p.start2 + len, empty := false, rest := more }
        else if e.op == .delete && p.hunk.edits.length == 1 &&
            (p.hunk.edits.head?.map (·.op)) == some .equal && len > 2 * maxBits then
          Piece.fill fuel { p with
            hunk := { p.hunk with length1 := p.hunk.length1 + len, edits := p.hunk.edits ++ [e] },
            start1 := p.start1 + len, empty := false, rest := more }
        else
          let cut := e.items.take (maxBits - p.hunk.length1 - margin)
          let n := cut.length
          let hunk := { p.hunk with length1 := p.hunk.length1 + n, edits := p.hunk.edits ++ [⟨e.op, cut⟩] }
          let (hunk, start2, empty) :=
            if e.op == .equal then ({ hunk with length2 := hunk.length2 + n }, p.start2 + n, p.empty)
            else (hunk, p.start2, false)
          let rest := if cut == e.items then more else ⟨e.op, e.items.drop n⟩ :: more
          Piece.fill fuel
            { hunk := hunk, empty := empty, start1 := p.start1 + n, start2 := start2, rest := rest }
      else p

def cutPieces : Nat → List Char → Int → Int → List (Edit Char) → List Hunk
  | 0, _, _, _, _ => []
  | _ + 1, _, _, _, [] => []
  | fuel + 1, pre, start1, start2, edits =>
    let h : Hunk :=
      { start1 := start1 - pre.length
        start2 := start2 - pre.length
        length1 := pre.length
        length2 := pre.length
        edits := if pre.isEmpty then [] else [⟨.equal, pre⟩] }
    let p := Piece.fill (edits.length + (source edits).length + 2)
      { hunk := h, empty := true, start1 := start1, start2 := start2, rest := edits }
    let target2 := target p.hunk.edits
    let pre := target2.drop (target2.length - margin)
    let post := (source p.rest).take margin
    let hunk :=
      if post.isEmpty then p.hunk
      else
        let hk := { p.hunk with
          length1 := p.hunk.length1 + post.length
          length2 := p.hunk.length2 + post.length }
        match hk.edits.getLast? with
        | some last =>
          if last.op == .equal then { hk with edits := hk.edits.dropLast ++ [⟨.equal, last.items ++ post⟩] }
          else { hk with edits := hk.edits ++ [⟨.equal, post⟩] }
        | none => { hk with edits := hk.edits ++ [⟨.equal, post⟩] }
    (if p.empty then [] else [hunk]) ++ cutPieces fuel pre p.start1 p.start2 p.rest

/-- The pieces a long hunk is cut into. -/
def Hunk.pieces (h : Hunk) : List Hunk :=
  cutPieces (h.edits.length + (source h.edits).length + 2) [] h.start1 h.start2 h.edits

def splitFrom : Nat → Nat → List Hunk → Option (List Hunk)
  | 0, _, hs => some hs
  | count + 1, x, hs =>
    match hs[x]? with
    | none => none
    | some h =>
      if h.length1 ≤ maxBits then splitFrom count (x + 1) hs
      else splitFrom count (x + 1) (hs.take x ++ h.pieces ++ hs.drop (x + 1))

def splitLong (hs : List Hunk) : Option (List Hunk) :=
  splitFrom hs.length 0 hs

def deleteThreshold : Float := 0.5

/-- The state of applying hunks: the text, how far the text has moved from where the
hunks expect it, and which hunks were placed. -/
structure Placing where
  text : List Char
  delta : Int
  results : List Bool

def fitEdits (ds : List (Edit Char)) (startLoc : Nat) (edits : List (Edit Char)) (text : List Char) :
    List Char :=
  (edits.foldl (fun (text, index1) e =>
    let text :=
      match e.op with
      | .insert =>
        let pos := startLoc + translate ds index1
        text.take pos ++ e.items ++ text.drop pos
      | .delete =>
        let pos := startLoc + translate ds index1
        text.take pos ++ text.drop (startLoc + translate ds (index1 + e.items.length))
      | .equal => text
    (text, if e.op != .delete then index1 + e.items.length else index1)) (text, 0)).1

/-- Where a hunk's source starts in the text, and where its last piece starts when the
source is longer than the matcher takes. -/
def Matcher.find (m : Matcher) (text t1 : List Char) (expected : Int) :
    Except DistanceTooLarge (Option Nat × Option Nat) := do
  if t1.length > maxBits then
    match ← m.locate text (t1.take maxBits) expected with
    | some s =>
      match ← m.locate text (t1.drop (t1.length - maxBits)) (expected + t1.length - maxBits) with
      | some e => pure (if s ≥ e then (none, some e) else (some s, some e))
      | none => pure (none, none)
    | none => pure (none, none)
  else pure (← m.locate text t1 expected, none)

/-- Places one hunk. -/
def Matcher.place (m : Matcher) (st : Placing) (h : Hunk) : Except DistanceTooLarge Placing := do
  let expected := h.start2 + st.delta
  let t1 := source h.edits
  let (startLoc, endLoc) ← m.find st.text t1 expected
  match startLoc with
  | none =>
    pure { st with
      results := st.results ++ [false]
      delta := st.delta - ((h.length2 : Int) - h.length1) }
  | some s =>
    let st := { st with results := st.results ++ [true], delta := s - expected }
    let t2 := match endLoc with
      | some e => slice st.text s (e + maxBits)
      | none => slice st.text s (s + t1.length)
    if t1 == t2 then
      pure { st with text := st.text.take s ++ target h.edits ++ st.text.drop (s + t1.length) }
    else
      let ds := diffText false t1 t2
      if t1.length > maxBits &&
          Float.ofNat (Chars.distance ds) / Float.ofNat t1.length > deleteThreshold then
        pure { st with results := st.results.dropLast ++ [false] }
      else
        let ds := (cleanupLossless ds.toArray).toList
        pure { st with text := fitEdits ds s h.edits st.text }

/-- Why hunks could not be applied at all. -/
inductive ApplyStop where
  /-- Splitting the long hunks reached past the end of the list. -/
  | splitPastEnd
  /-- A fuzzy search could not score its candidates. -/
  | unscorable (why : DistanceTooLarge)

def Matcher.applyHunks (m : Matcher) (hs : List Hunk) (text : List Char) :
    Except ApplyStop (List Char × List Bool) :=
  if hs.isEmpty then .ok (text, [])
  else
    match splitLong (addPadding hs) with
    | none => .error .splitPastEnd
    | some hs =>
      match hs.foldlM m.place { text := padding ++ text ++ padding, delta := 0, results := [] } with
      | .error why => .error (.unscorable why)
      | .ok st =>
        let n := st.text.length
        .ok ((st.text.drop margin).take (n - 2 * margin), st.results)

end LinePatch.Chars
