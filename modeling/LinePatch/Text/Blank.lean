/-!
# Blank characters

The blank characters are the Unicode white-space characters together with the four
information separators U+001C to U+001F. Patches are compared, trimmed and split on
this one set everywhere, so it lives in a single table with its trimming operations.
-/

namespace LinePatch.Text

/-- A character is blank when it is a Unicode white-space character or one of the
information separators U+001C to U+001F. -/
def isBlank (c : Char) : Bool :=
  let n := c.toNat
  (0x09 ≤ n && n ≤ 0x0D) || (0x1C ≤ n && n ≤ 0x20) || n == 0x85 || n == 0xA0 ||
    n == 0x1680 || (0x2000 ≤ n && n ≤ 0x200A) || n == 0x2028 || n == 0x2029 ||
    n == 0x202F || n == 0x205F || n == 0x3000

def dropLeadingBlanks (s : String) : String :=
  String.ofList (s.toList.dropWhile isBlank)

/-- Drops the blank characters at the end. -/
def dropTrailingBlanks (s : String) : String :=
  String.ofList (s.toList.reverse.dropWhile isBlank).reverse

/-- Drops the blank characters at both ends. -/
def trimBlanks (s : String) : String :=
  dropTrailingBlanks (dropLeadingBlanks s)

def dropBlanks (s : String) : String :=
  String.ofList (s.toList.filter (fun c => !isBlank c))

/-- A text is empty after trimming exactly when all its characters are blank. -/
def isAllBlank (s : String) : Bool :=
  s.toList.all isBlank

example : isBlank '\x1c' = true ∧ isBlank '\u200B' = false ∧ isBlank '\uFEFF' = false := by
  decide

end LinePatch.Text
