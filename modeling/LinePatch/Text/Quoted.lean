import LinePatch.Text.Printable
import LinePatch.Text.Surrogate

/-!
# Quoted text

The quoted form of a text, as messages show a value the user gave: the text between
single quotes, or between double quotes when it holds a single quote and no double
quote. Backslashes and the chosen quote are escaped, tab, line feed and carriage return
by their letters, and every other character that does not print by its code in hex:
`\xhh` up to U+00FF, `\uhhhh` up to U+FFFF and `\Uhhhhhhhh` above. A lone surrogate
code is written `\uhhhh` with its own code.
-/

namespace LinePatch.Text

section Escapes

variable [Surrogates]

/-- The lower-case hex digits of `n`, at least `width` of them. -/
def hexDigits (width n : Nat) : List Char :=
  let ds := Nat.toDigits 16 n
  List.replicate (width - ds.length) '0' ++ ds

def escapeChar (q c : Char) : List Char :=
  if c = '\\' then ['\\', '\\']
  else if c = q then ['\\', c]
  else if c = '\t' then ['\\', 't']
  else if c = '\n' then ['\\', 'n']
  else if c = '\r' then ['\\', 'r']
  else if let some code := surrogateCode? c then '\\' :: 'u' :: hexDigits 4 code
  else if isUnprintable c then
    if c.toNat ≤ 0xFF then '\\' :: 'x' :: hexDigits 2 c.toNat
    else if c.toNat ≤ 0xFFFF then '\\' :: 'u' :: hexDigits 4 c.toNat
    else '\\' :: 'U' :: hexDigits 8 c.toNat
  else [c]

/-- The quoted form of a text. -/
def quoted (s : String) : String :=
  let cs := s.toList
  let q := if cs.contains '\'' && !cs.contains '"' then '"' else '\''
  String.ofList (q :: cs.flatMap (escapeChar q) ++ [q])

end Escapes

set_option maxRecDepth 20000 in
example : @quoted ⟨0xF0000⟩ "abc" = "'abc'" ∧ @quoted ⟨0xF0000⟩ "it's" = "\"it's\"" ∧
    @quoted ⟨0xF0000⟩ "a\nb" = "'a\\nb'" ∧ @quoted ⟨0xF0000⟩ (String.ofList [Char.ofNat 0xF0001]) = "'\\ud801'" := by
  decide

end LinePatch.Text
