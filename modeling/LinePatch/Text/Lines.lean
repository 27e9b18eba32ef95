import LinePatch.Text.Blank

/-!
# Lines of a text

A text is read as lines after two clean-ups: a run of byte order marks at its start is
dropped, and every line break (`\r\n`, a lone `\r` or `\n`) becomes `\n`. Splitting then
cuts at each `\n`, so a text of `k` breaks has `k + 1` lines and the empty text has one.
-/

namespace LinePatch.Text

/-- The byte order mark, which some editors put at the start of a file. -/
def byteOrderMark : Char := '\uFEFF'

/-- Turns each `\r\n` and each lone `\r` into `\n`. -/
def unifyBreaks : List Char → List Char
  | [] => []
  | '\r' :: '\n' :: r => '\n' :: unifyBreaks r
  | c :: r => (if c = '\r' then '\n' else c) :: unifyBreaks r

/-- The text with its leading byte order marks dropped and its line breaks unified. -/
def prepare (t : String) : String :=
  String.ofList (unifyBreaks (t.toList.dropWhile (· == byteOrderMark)))

/-- Cuts a list of characters at each occurrence of `sep`; the separators are not kept. -/
def cutAt (sep : Char) : List Char → List (List Char)
  | [] => [[]]
  | c :: r =>
    match cutAt sep r with
    | [] => [[c]]
    | l :: ls => if c = sep then [] :: l :: ls else (c :: l) :: ls

theorem cutAt_ne_nil (sep : Char) (cs : List Char) : cutAt sep cs ≠ [] := by
  cases cs with
  | nil => simp [cutAt]
  | cons c r =>
    simp only [cutAt]
    split <;> (try split) <;> simp

/-- The lines of a text. -/
def splitLines (t : String) : List String :=
  (cutAt '\n' (prepare t).toList).map String.ofList

/-- Joins lines with `\n` between them. -/
def joinLines (ls : List String) : String :=
  "\n".intercalate ls

/-- Drops the lines that hold only blanks at both ends of a list of lines. -/
def trimBlankLines (ls : List String) : List String :=
  ((ls.dropWhile isAllBlank).reverse.dropWhile isAllBlank).reverse

/-- A text holds an edit marker when one of its lines, leading blanks dropped, starts
with `+` or `-`. -/
def hasEditMarkers (t : String) : Bool :=
  (splitLines t).any fun l =>
    match (l.toList.dropWhile isBlank) with
    | '+' :: _ => true
    | '-' :: _ => true
    | _ => false

end LinePatch.Text
