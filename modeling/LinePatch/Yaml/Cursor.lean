import LinePatch.Yaml.Token

/-!
# The scanner's state

The scanner walks the characters of a document, keeping its offset, line and column; a
line ends at a line feed, a carriage return not followed by a line feed, U+0085, U+2028
or U+2029, and a byte order mark takes no column. Past the last character it sees
U+0000, which stands for the end of the document.
-/

namespace LinePatch.Yaml

/-- A place where a simple key may have started. -/
structure SimpleKey where
  tokenNumber : Nat
  required : Bool
  index : Nat
  line : Nat
  column : Nat
  mark : Mark
  deriving Inhabited, Repr

/-- The state of the scanner. -/
structure Scanner where
  text : Array Char
  name : String
  index : Nat := 0
  line : Nat := 0
  column : Nat := 0
  done : Bool := false
  flowLevel : Int := 0
  tokens : List Token := []
  taken : Nat := 0
  indent : Int := -1
  indents : List Int := []
  allowSimpleKey : Bool := true
  simpleKeys : List (Int × SimpleKey) := []
  deriving Inhabited

/-- Scanning steps: they change the scanner's state and may fail. -/
abbrev ScanM := StateT Scanner (Except Failure)

namespace Scanner

/-- The character `k` places ahead, U+0000 past the end. -/
def look (s : Scanner) (k : Nat) : Char := s.text.getD (s.index + k) '\x00'

/-- The position of the scanner. -/
def mark (s : Scanner) : Mark :=
  { name := s.name, index := s.index, line := s.line, column := s.column }

/-- The scanner after one character. -/
def step (s : Scanner) : Scanner :=
  if s.index ≥ s.text.size then s
  else
    let ch := s.look 0
    let s' := { s with index := s.index + 1 }
    if ch = '\n' || ch = '\x85' || ch = '\u2028' || ch = '\u2029' ||
        (ch = '\r' && s.look 1 != '\n') then
      { s' with line := s.line + 1, column := 0 }
    else if ch != '\uFEFF' then { s' with column := s.column + 1 }
    else s'

def advance : Nat → Scanner → Scanner
  | 0, s => s
  | n + 1, s => advance n s.step

/-- The number of characters left. -/
def left (s : Scanner) : Nat := s.text.size - s.index

end Scanner

def isBreak (c : Char) : Bool :=
  c = '\r' || c = '\n' || c = '\x85' || c = '\u2028' || c = '\u2029'

/-- A line break or the end. -/
def isBreakOrEnd (c : Char) : Bool := c = '\x00' || isBreak c

def isSpaceOrEnd (c : Char) : Bool := c = ' ' || isBreakOrEnd c

/-- A space, a tab, a line break or the end. -/
def isBlankOrEnd (c : Char) : Bool := c = ' ' || c = '\t' || isBreakOrEnd c

def isWordChar (c : Char) : Bool :=
  ('0' ≤ c && c ≤ '9') || ('A' ≤ c && c ≤ 'Z') || ('a' ≤ c && c ≤ 'z') || c = '-' || c = '_'

def isHexChar (c : Char) : Bool :=
  ('0' ≤ c && c ≤ '9') || ('A' ≤ c && c ≤ 'F') || ('a' ≤ c && c ≤ 'f')

/-- The value of hexadecimal digits. -/
def hexValue (cs : List Char) : Nat :=
  cs.foldl (fun n c =>
    let d := if '0' ≤ c ∧ c ≤ '9' then c.toNat - 48
      else if 'a' ≤ c ∧ c ≤ 'f' then c.toNat - 87
      else c.toNat - 55
    16 * n + d) 0

def peekAt (k : Nat) : ScanM Char := return (← get).look k

/-- The character under the scanner. -/
def peek : ScanM Char := peekAt 0

/-- The next `n` characters, fewer at the end. -/
def ahead (n : Nat) : ScanM (List Char) := do
  let s ← get
  return ((List.range n).filter (fun k => s.index + k < s.text.size)).map s.look

/-- Moves over `n` characters. -/
def forward (n : Nat := 1) : ScanM Unit := modify (Scanner.advance n)

/-- The position of the scanner. -/
def here : ScanM Mark := return (← get).mark

/-- Fails with a problem at the scanner's position. -/
def fail {α : Type} (context : Option String) (contextMark : Option Mark) (problem : String) :
    ScanM α := do
  throw (Problem.fail
    { context := context, contextMark := contextMark, problem := problem, problemMark := some (← here) })

def Scanner.runEnd (s : Scanner) (p : Char → Bool) (k : Nat) : Nat → Nat
  | 0 => k
  | fuel + 1 => if p (s.look k) then s.runEnd p (k + 1) fuel else k

def runFrom (k : Nat) (p : Char → Bool) : ScanM Nat := do
  let s ← get
  return s.runEnd p k (s.left + 1) - k

def countWhile (p : Char → Bool) : ScanM Nat := runFrom 0 p

/-- Moves over the characters that satisfy `p`. -/
def skipWhile (p : Char → Bool) : ScanM Unit := do
  forward (← countWhile p)

/-- Reads a line break: a carriage return with a line feed, a carriage return, a line
feed or U+0085 read as a line feed, U+2028 and U+2029 as themselves; nothing when no
line break is here. -/
def lineBreak : ScanM String := do
  let ch ← peek
  if ch = '\r' || ch = '\n' || ch = '\x85' then
    if ch = '\r' && (← peekAt 1) = '\n' then forward 2 else forward 1
    return "\n"
  else if ch = '\u2028' || ch = '\u2029' then
    forward 1
    return ch.toString
  else return ""

/-- Adds a token at the end of the queue. -/
def emit (t : Token) : ScanM Unit := modify fun s => { s with tokens := s.tokens ++ [t] }

/-! ## Simple keys -/

def nextSimpleKey (s : Scanner) : Option Nat :=
  s.simpleKeys.foldl (fun m (_, k) =>
    match m with
    | some n => some (min n k.tokenNumber)
    | none => some k.tokenNumber) none

def keyWithoutValue {α : Type} (key : SimpleKey) : ScanM α :=
  fail (some "while scanning a simple key") (some key.mark) "could not find expected ':'"

def staleSimpleKeys : ScanM Unit := do
  let s ← get
  let stale := fun (k : SimpleKey) => k.line != s.line || s.index - k.index > 1024
  match s.simpleKeys.find? (fun (_, k) => stale k && k.required) with
  | some (_, k) => keyWithoutValue k
  | none => set { s with simpleKeys := s.simpleKeys.filter fun (_, k) => !stale k }

def removeSimpleKey : ScanM Unit := do
  let s ← get
  match s.simpleKeys.lookup s.flowLevel with
  | some k =>
    if k.required then keyWithoutValue k
    else set { s with simpleKeys := s.simpleKeys.filter (fun (e : Int × SimpleKey) => e.1 != s.flowLevel) }
  | none => pure ()

def saveSimpleKey : ScanM Unit := do
  let s ← get
  let required := s.flowLevel = 0 && s.indent = s.column
  if s.allowSimpleKey then
    removeSimpleKey
    let s ← get
    let key : SimpleKey :=
      { tokenNumber := s.taken + s.tokens.length, required := required, index := s.index,
        line := s.line, column := s.column, mark := s.mark }
    set { s with simpleKeys := s.simpleKeys.filter (fun (e : Int × SimpleKey) => e.1 != s.flowLevel) ++ [(s.flowLevel, key)] }

/-! ## Indentation -/

def unwindIndent (column : Int) : ScanM Unit := do
  let s ← get
  if s.flowLevel != 0 then return
  let closing := s.indents.length
  let rec close : Nat → ScanM Unit
    | 0 => pure ()
    | n + 1 => do
      let s ← get
      if s.indent > column then
        match s.indents with
        | i :: rest =>
          set { s with indent := i, indents := rest }
          emit { kind := .blockEnd, start := s.mark, stop := s.mark }
          close n
        | [] => pure ()
  close closing

def addIndent (column : Int) : ScanM Bool := do
  let s ← get
  if s.indent < column then
    set { s with indents := s.indent :: s.indents, indent := column }
    return true
  else return false

end LinePatch.Yaml
