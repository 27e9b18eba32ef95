import LinePatch.Text.Utf8
import LinePatch.Text.Surrogate

/-!
# Percent encoding

Hunk text writes each character that is not safe as the `%XX` codes of its UTF-8
bytes, in upper-case hex. Safe are the ASCII letters and digits, `_.-~`, and the
characters `!~*'();/?:@&=+$,#` and the space.
-/

namespace LinePatch.Text

def isSafe (c : Char) : Bool :=
  ('A' ≤ c && c ≤ 'Z') || ('a' ≤ c && c ≤ 'z') || ('0' ≤ c && c ≤ '9') ||
    "_.-~!*'();/?:@&=+$,# ".toList.contains c

def hexUpper (n : Nat) : Char :=
  if n < 10 then Char.ofNat (48 + n) else Char.ofNat (55 + n)

def percentEncode (s : String) : String :=
  String.ofList (s.toList.flatMap fun c =>
    if isSafe c then [c]
    else (utf8Bytes c).flatMap fun b => ['%', hexUpper (b / 16), hexUpper (b % 16)])

/-- A run of lone surrogate codes that UTF-8 cannot encode: where it starts in its text,
and its codes. -/
structure Unencodable where
  start : Nat
  codes : List Nat

section Encoding

variable [Surrogates]

def firstSurrogates : Nat → List Char → Option Unencodable
  | _, [] => none
  | pos, c :: rest =>
    match surrogateCode? c with
    | some code =>
      some ⟨pos, code :: (rest.takeWhile fun d => (surrogateCode? d).isSome).filterMap surrogateCode?⟩
    | none => firstSurrogates (pos + 1) rest

def percentEncodeChecked (s : String) : Except Unencodable String :=
  match firstSurrogates 0 s.toList with
  | some u => .error u
  | none => .ok (percentEncode s)

end Encoding

/-- The value of a hex digit of either case. -/
def hexValue (c : Char) : Option Nat :=
  if '0' ≤ c && c ≤ '9' then some (c.toNat - 48)
  else if 'a' ≤ c && c ≤ 'f' then some (c.toNat - 87)
  else if 'A' ≤ c && c ≤ 'F' then some (c.toNat - 55)
  else none

def percentBytes : List Char → List Nat
  | '%' :: a :: b :: r =>
    match hexValue a, hexValue b with
    | some x, some y => (16 * x + y) :: percentBytes r
    | _, _ => '%'.toNat :: percentBytes (a :: b :: r)
  | c :: r => c.toNat :: percentBytes r
  | [] => []

def asciiRun (cs : List Char) : List Char × List Char :=
  (cs.takeWhile (·.toNat < 0x80), cs.dropWhile (·.toNat < 0x80))

def percentDecodeChars : Nat → List Char → List Char
  | 0, _ => []
  | _ + 1, [] => []
  | fuel + 1, c :: r =>
    if c.toNat < 0x80 then
      let (run, rest) := asciiRun (c :: r)
      ofUtf8 (percentBytes run) ++ percentDecodeChars fuel rest
    else c :: percentDecodeChars fuel r

def percentDecode (s : String) : String :=
  if s.toList.contains '%' then String.ofList (percentDecodeChars (s.length + 1) s.toList) else s

example : percentEncode "café %20 +" = "caf%C3%A9 %2520 +" := by decide

end LinePatch.Text
