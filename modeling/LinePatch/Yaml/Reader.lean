import LinePatch.Yaml.Problem

/-!
# Reading a document's characters

A configuration file is read as text: a carriage return, alone or before a line feed,
becomes a line feed. Every character must then be printable in the YAML sense: tab,
line feed, carriage return, the printable ASCII characters, the next line character
U+0085, and everything from U+00A0 up except the surrogates, U+FFFE and U+FFFF. The
first character that is not is refused, with its offset.
-/

namespace LinePatch.Yaml

def textModeChars : List Char → List Char
  | [] => []
  | '\r' :: '\n' :: rest => '\n' :: textModeChars rest
  | '\r' :: rest => '\n' :: textModeChars rest
  | c :: rest => c :: textModeChars rest

def isPrintable (c : Char) : Bool :=
  let n := c.toNat
  n = 0x09 || n = 0x0A || n = 0x0D || (0x20 ≤ n && n ≤ 0x7E) || n = 0x85 ||
    (0xA0 ≤ n && n ≤ 0xD7FF) || (0xE000 ≤ n && n ≤ 0xFFFD) || 0x10000 ≤ n

def firstUnprintable (cs : List Char) : Option (Nat × Char) :=
  (cs.zipIdx.find? fun (c, _) => !isPrintable c).map fun (c, i) => (i, c)

def unprintableReport (name : String) (pos : Nat) (c : Char) : String :=
  "unacceptable character #x" ++ String.ofList (Text.hexDigits 4 c.toNat) ++
    ": special characters are not allowed\n  in \"" ++ name ++ "\", position " ++ toString pos

def readChars (name text : String) : Except Failure (Array Char) :=
  let cs := textModeChars text.toList
  match firstUnprintable cs with
  | some (pos, c) => .error (.malformed (unprintableReport name pos c))
  | none => .ok cs.toArray

end LinePatch.Yaml
