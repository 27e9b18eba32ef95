import LinePatch.Text.Blank
import LinePatch.Text.Case
import LinePatch.Text.Lines

/-!
# Comparison policies

A policy says when two lines count as the same line. Under `whitespace` every blank is
ignored, which suits languages whose blocks are delimited by brackets; under
`indentation` only trailing blanks are ignored, so that leading indentation takes part
in equality and in edit distance. A file's suffix chooses the policy when none is given.
-/

namespace LinePatch

/-- How two lines are compared. -/
inductive Policy where
  | whitespace
  | indentation
  deriving DecidableEq, Repr, Inhabited

namespace Policy

/-- The normal form of a line: equal normal forms mean equal lines. -/
def normalize : Policy → String → String
  | whitespace, s => Text.dropBlanks s
  | indentation, s => Text.dropTrailingBlanks s

/-- A line is blank under a policy when its normal form is empty. -/
def isBlankLine (p : Policy) (s : String) : Bool :=
  (p.normalize s).isEmpty

/-- The name a policy is written with. -/
def name : Policy → String
  | whitespace => "whitespace"
  | indentation => "indentation"

def usesBracketSignature : Policy → Bool
  | whitespace => true
  | indentation => false

/-- Reads a policy name, ignoring case and surrounding blanks. -/
def ofName? (s : String) : Option Policy :=
  match Text.toLower (Text.trimBlanks s) with
  | "whitespace" => some whitespace
  | "indentation" => some indentation
  | _ => none

def finalComponent (path : String) : List Char :=
  ((Text.cutAt '/' path.toList).filter (fun c => c ≠ [] ∧ c ≠ ['.'])).getLastD []

def pathSuffix (path : String) : String :=
  let name := finalComponent path
  let dots := (List.range name.length).filter (fun i => name[i]? = some '.')
  match dots.getLast? with
  | some i => if 0 < i ∧ i + 1 < name.length then String.ofList (name.drop i) else ""
  | none => ""

def indentedSuffixes : List String := [".py", ".pyi", ".yaml", ".yml"]

def ofPath (path : String) : Policy :=
  if indentedSuffixes.contains (Text.toLower (pathSuffix path)) then indentation
  else whitespace

set_option maxRecDepth 20000 in
example : ofPath "a/b.PY" = indentation ∧ ofPath "a.py." = whitespace ∧ ofPath ".py" = whitespace := by
  decide

end Policy

end LinePatch
