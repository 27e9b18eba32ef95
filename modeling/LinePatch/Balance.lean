/-!
# Balance of brackets and quotes

A text is balanced in a pair of brackets when, read from left to right, no close comes
before its open and every open is closed at the end. It is balanced in a quote when it
holds an even number of quotes that are not escaped; a backslash escapes what follows
it, and two backslashes escape nothing.
-/

namespace LinePatch

/-- The balances that are checked, in the order they are reported. -/
inductive Balance where
  | curly
  | square
  | parenthesis
  | quote
  | singleQuote
  deriving DecidableEq, Repr, Inhabited

namespace Balance

/-- Every balance, in check order. -/
def all : List Balance := [curly, square, parenthesis, quote, singleQuote]

/-- The name of a balance in reports. -/
def name : Balance → String
  | curly => "curly"
  | square => "square"
  | parenthesis => "parenthesis"
  | quote => "quote"
  | singleQuote => "single_quote"

/-- What is said when a balance fails. -/
def message : Balance → String
  | curly => "Curly braces are not balanced"
  | square => "Square brackets are not balanced"
  | parenthesis => "Parentheses are not balanced"
  | quote => "Quotes are not balanced"
  | singleQuote => "Single quotes are not balanced"

/-- The characters read so far never close more than they opened (`depth` counts the
opens still waiting), and at the end none waits. -/
def pairsClose (opener closer : Char) (depth : Nat) : List Char → Bool
  | [] => depth == 0
  | c :: r =>
    if c = opener then pairsClose opener closer (depth + 1) r
    else if c = closer then
      match depth with
      | 0 => false
      | d + 1 => pairsClose opener closer d r
    else pairsClose opener closer depth r

/-- The quotes that are not escaped come out even. `odd` says whether an odd number of
them has been read, `escaped` whether the next character is escaped. -/
def quotesEven (q : Char) (odd escaped : Bool) : List Char → Bool
  | [] => !odd
  | c :: r =>
    if c = '\\' then quotesEven q odd (!escaped) r
    else if c = q && !escaped then quotesEven q (!odd) escaped r
    else quotesEven q odd false r

/-- Whether a text keeps a balance. -/
def holds (b : Balance) (code : String) : Bool :=
  match b with
  | curly => pairsClose '\x7b' '\x7d' 0 code.toList
  | square => pairsClose '[' ']' 0 code.toList
  | parenthesis => pairsClose '(' ')' 0 code.toList
  | quote => quotesEven '"' false false code.toList
  | singleQuote => quotesEven '\'' false false code.toList

/-- Whether a text keeps each balance, by name, in check order. -/
def report (code : String) : List (String × Bool) :=
  all.map fun b => (b.name, b.holds code)

/-- The balances a text breaks, in check order. -/
def failing (code : String) : List Balance :=
  all.filter fun b => !b.holds code

/-- The balances that held before and fail after, in check order. -/
def regressions (before after : String) : List Balance :=
  all.filter fun b => b.holds before && !b.holds after

end Balance

end LinePatch
