/-!
# Typing plain scalars

A plain scalar without a tag gets its tag from its text, by the YAML 1.1 patterns: the
first pattern that matches the whole text, among those for the text's first character,
names the type. The patterns are written here as small matchers that give every way a
pattern can consume the start of a text, so that a pattern matches when one of the
ways leaves nothing, or only a final line feed.
-/

namespace LinePatch.Yaml

/-- The prefix of the tags of the YAML types. -/
def yamlTag (name : String) : String := "tag:yaml.org,2002:" ++ name

/-- A matcher: every rest of a text that a pattern may leave after consuming its start. -/
abbrev Matcher := List Char → List (List Char)

namespace Matcher

/-- One character satisfying `p`. -/
def one (p : Char → Bool) : Matcher
  | c :: r => if p c then [r] else []
  | [] => []

/-- A fixed text. -/
def word (w : String) : Matcher := fun cs =>
  if w.toList.isPrefixOf cs then [cs.drop w.length] else []

def andThen (a b : Matcher) : Matcher := fun cs => (a cs).flatMap b

def orElse (a b : Matcher) : Matcher := fun cs => a cs ++ b cs

/-- A pattern or nothing. -/
def optional (a : Matcher) : Matcher := fun cs => a cs ++ [cs]

def repeatFuel (a : Matcher) : Nat → Matcher
  | 0 => fun cs => [cs]
  | fuel + 1 => fun cs =>
    ((a cs).filter (fun r => r.length < cs.length)).flatMap (repeatFuel a fuel) ++ [cs]

/-- A pattern any number of times. -/
def many (a : Matcher) : Matcher := fun cs => repeatFuel a (cs.length + 1) cs

def many1 (a : Matcher) : Matcher := andThen a (many a)

def spanFrom (p : Char → Bool) : List Char → List (List Char) → List (List Char)
  | c :: r, acc => if p c then spanFrom p r (r :: acc) else acc
  | [], acc => acc

def span (p : Char → Bool) : Matcher := fun cs => spanFrom p cs [cs]

def full (a : Matcher) (cs : List Char) : Bool :=
  (a cs).any fun r => r.isEmpty || r == ['\n']

/-- Patterns in sequence. -/
def all : List Matcher → Matcher
  | [] => fun cs => [cs]
  | a :: rest => andThen a (all rest)

/-- Any of the patterns. -/
def any : List Matcher → Matcher
  | [] => fun _ => []
  | a :: rest => orElse a (any rest)

end Matcher

open Matcher

/-- A decimal digit. -/
def digit : Matcher := one fun c => '0' ≤ c && c ≤ '9'

def oneOf (chars : String) : Matcher := one fun c => chars.toList.contains c

def manyOf (chars : String) : Matcher := span fun c => chars.toList.contains c

def someOf (chars : String) : Matcher := andThen (oneOf chars) (manyOf chars)

/-- An optional sign. -/
def sign : Matcher := optional (oneOf "-+")

def digitsFrom (first : Matcher) : Matcher := andThen first (manyOf "0123456789_")

/-- An exponent: `e` or `E`, a sign and digits. -/
def exponent : Matcher := all [oneOf "eE", oneOf "-+", someOf "0123456789"]

def sixtieth : Matcher := all [word ":", optional (oneOf "012345"), digit]

def realPattern : Matcher :=
  any [all [sign, digitsFrom digit, word ".", manyOf "0123456789_", optional exponent],
    all [word ".", digitsFrom digit, optional exponent],
    all [sign, digitsFrom digit, many1 sixtieth, word ".", manyOf "0123456789_"],
    all [sign, word ".", any [word "inf", word "Inf", word "INF"]],
    all [word ".", any [word "nan", word "NaN", word "NAN"]]]

def wholePattern : Matcher :=
  any [all [sign, word "0b", someOf "01_"],
    all [sign, word "0", someOf "01234567_"],
    all [sign, any [word "0", digitsFrom (oneOf "123456789")]],
    all [sign, word "0x", someOf "0123456789abcdefABCDEF_"],
    all [sign, digitsFrom (oneOf "123456789"), many1 sixtieth]]

def boolPattern : Matcher :=
  any (["yes", "Yes", "YES", "no", "No", "NO", "true", "True", "TRUE", "false", "False",
    "FALSE", "on", "On", "ON", "off", "Off", "OFF"].map word)

def nullPattern : Matcher := any [word "~", word "null", word "Null", word "NULL", word ""]

def digits12 : Matcher := andThen digit (optional digit)

def timestampPattern : Matcher :=
  any [all [digit, digit, digit, digit, word "-", digit, digit, word "-", digit, digit],
    all [digit, digit, digit, digit, word "-", digits12, word "-", digits12,
      orElse (oneOf "Tt") (someOf " \t"), digits12, word ":", digit, digit, word ":",
      digit, digit, optional (andThen (word ".") (manyOf "0123456789")),
      optional (andThen (manyOf " \t")
        (orElse (word "Z") (all [oneOf "-+", digits12, optional (all [word ":", digit, digit])])))]]

/-- The tags a plain scalar's first character may lead to, in the order they are
tried, with their patterns. -/
def candidates (first : Option Char) : List (String × Matcher) :=
  let has := fun (chars : String) => match first with
    | some c => chars.toList.contains c
    | none => false
  (if has "yYnNtTfFoO" then [(yamlTag "bool", boolPattern)] else []) ++
  (if has "-+0123456789." then [(yamlTag "float", realPattern)] else []) ++
  (if has "-+0123456789" then [(yamlTag "int", wholePattern)] else []) ++
  (if has "<" then [(yamlTag "merge", word "<<")] else []) ++
  (if first.isNone || has "~nN" then [(yamlTag "null", nullPattern)] else []) ++
  (if has "0123456789" then [(yamlTag "timestamp", timestampPattern)] else []) ++
  (if has "=" then [(yamlTag "value", word "=")] else []) ++
  (if has "!&*" then [(yamlTag "yaml", any [word "!", word "&", word "*"])] else [])

def scalarTag (value : String) (implicit : Bool) : String :=
  if implicit then
    let cs := value.toList
    match (candidates cs.head?).find? (fun (_, m) => full m cs) with
    | some (tag, _) => tag
    | none => yamlTag "str"
  else yamlTag "str"

end LinePatch.Yaml
