import LinePatch.Policy

/-!
# Lines and their kinds

A line of a source, of a patch or of a new version has a kind (kept context, added or
deleted), its text and the number it had in the text it was read from. Bracket depth
counters describe how deep a line sits in `()`, `[]` and `{}` nesting; a close never
takes a counter below zero. A scan may start from any counters, even negative ones.
-/

namespace LinePatch

/-- What a line of a patch does to the text it is applied to. -/
inductive LineKind where
  | context
  | add
  | delete
  deriving DecidableEq, Repr, Inhabited

namespace LineKind

/-- The name a kind is written with. -/
def name : LineKind → String
  | context => "context"
  | add => "add"
  | delete => "delete"

/-- Reads a kind from its name. -/
def ofName? : String → Option LineKind
  | "context" => some context
  | "add" => some add
  | "delete" => some delete
  | _ => none

/-- The one-character mark of a kind in a line's description. -/
def mark : LineKind → String
  | context => " "
  | add => "+"
  | delete => "-"

end LineKind

/-- Nesting depth in round, square and curly brackets. -/
structure Depth where
  paren : Int := 0
  square : Int := 0
  curly : Int := 0
  deriving DecidableEq, Repr, Inhabited

namespace Depth

/-- A counter after a close: one less, but never below zero. -/
def close (n : Int) : Int := max 0 (n - 1)

/-- The depth after one more character: an open adds one, a close takes one away and
stops at zero. -/
def step (d : Depth) (c : Char) : Depth :=
  if c = '(' then { d with paren := d.paren + 1 }
  else if c = ')' then { d with paren := close d.paren }
  else if c = '[' then { d with square := d.square + 1 }
  else if c = ']' then { d with square := close d.square }
  else if c = '\x7b' then { d with curly := d.curly + 1 }
  else if c = '\x7d' then { d with curly := close d.curly }
  else d

/-- The depth after a whole text, scanned from left to right. -/
def scan (d : Depth) (s : String) : Depth :=
  s.toList.foldl step d

def isTrivial (d : Depth) : Bool :=
  d.paren == 0 && d.square == 0 && d.curly == 0

/-- A text opens brackets when its own scan, from zero, leaves a counter above zero. -/
def opens (s : String) : Bool :=
  !(scan {} s).isTrivial

end Depth

/-- A line with its kind and the number it had in the text it was read from. The number
`-1` marks a placeholder line that stands for context left out. -/
structure Line where
  index : Int
  text : String
  kind : LineKind := .context
  deriving DecidableEq, Repr, Inhabited

namespace Line

def runningDepths (ls : List Line) : List Depth :=
  (ls.foldl (fun (acc : Depth × List Depth) l =>
    let d := acc.1.scan l.text
    (d, d :: acc.2)) ({}, [])).2.reverse

/-- The lines of a text, numbered from zero, all of kind context. -/
def ofText (lines : List String) : List Line :=
  (lines.zipIdx).map fun (t, i) => { index := i, text := t }

def padLeft (width : Nat) (s : String) : String :=
  String.ofList (List.replicate (width - s.length) ' ') ++ s

def describeParts (index : Int) (kind : LineKind) (text : Option String) (d : Depth) : String :=
  padLeft 5 (toString index) ++ ": " ++ kind.mark ++ " " ++ text.getD "None" ++
    " (" ++ toString d.paren ++ ")[" ++ toString d.square ++ "]\x7b" ++ toString d.curly ++ "\x7d"

def describe (l : Line) (d : Depth) : String :=
  describeParts l.index l.kind (some l.text) d

end Line

end LinePatch
