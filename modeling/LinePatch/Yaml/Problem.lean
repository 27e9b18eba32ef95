import LinePatch.Text.Quoted

/-!
# Positions and problems in a document

A mark is a position in a document: its offset, line and column, counted from zero,
and the name of the file it was read from.

Reading a document can fail in two ways. The document may not be well-formed: then a
report says what was found wrong and where, optionally with the construct being read
and where that started. Or a well-formed document may hold a value that cannot be
built, such as a date with a month of thirteen; then the failure has a kind and a
message of its own.
-/

namespace LinePatch.Yaml

variable [Text.Surrogates]

/-- A position in a document. -/
structure Mark where
  name : String
  index : Nat
  line : Nat
  column : Nat
  deriving Inhabited, DecidableEq, Repr

/-- A position as reports give it, counting lines and columns from one. -/
def Mark.render (m : Mark) : String :=
  "  in \"" ++ m.name ++ "\", line " ++ toString (m.line + 1) ++ ", column " ++
    toString (m.column + 1)

/-- Something wrong in a document: the construct being read and where it started,
when known, and the problem and where it lies. -/
structure Problem where
  context : Option String := none
  contextMark : Option Mark := none
  problem : String
  problemMark : Option Mark := none
  deriving Inhabited, Repr

/-- The report of a problem, one item per line: the construct, its position unless
the problem lies at the same place, the problem and its position. -/
def Problem.render (p : Problem) : String :=
  let contextAt :=
    match p.contextMark, p.problemMark with
    | some c, some m =>
      if c.name == m.name && c.line == m.line && c.column == m.column then [] else [c.render]
    | some c, none => [c.render]
    | none, _ => []
  "\n".intercalate (p.context.toList ++ contextAt ++ [p.problem] ++ p.problemMark.toList.map Mark.render)

/-- The kinds of failure of building a value. -/
inductive BuildFailure where
  /-- A text that is no value of its type. -/
  | value
  /-- A name that is not among the known ones. -/
  | key
  /-- A position past the end of a text. -/
  | index
  /-- An operation asked of nothing. -/
  | attribute
  /-- A number too large for a real number. -/
  | overflow
  /-- An operation given a value of the wrong type. -/
  | type
  /-- A value defined by itself without end. -/
  | recursion
  deriving DecidableEq, Repr, Inhabited

/-- Why a document could not be read. -/
inductive Failure where
  /-- The document is not well-formed, with the report of why. -/
  | malformed (report : String)
  /-- A value of the document cannot be built. -/
  | unbuildable (kind : BuildFailure) (message : String)
  deriving Inhabited, Repr

/-- The failure of a problem. -/
def Problem.fail (p : Problem) : Failure := .malformed p.render

/-- The written form of a character in a report. -/
def shown (c : Char) : String := Text.quoted c.toString

end LinePatch.Yaml
