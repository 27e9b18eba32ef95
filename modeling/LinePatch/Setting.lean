import LinePatch.Number.Reading
import LinePatch.Number.Shortest
import LinePatch.Text.Quoted
import LinePatch.Timestamp

/-!
# Settings

A setting is a value of a configuration document: nothing, a truth value, a whole or a
real number, a text, a list or a mapping, and the rarer values a document may hold:
bytes, timestamps, sets, and the pairs of an ordered mapping. Mappings keep their keys
in the order they were written. A list or mapping that holds itself is written out
only once: where it turns up again inside itself a placeholder stands.
-/

namespace LinePatch

/-- A value of a configuration document. -/
inductive Setting where
  | none
  | bool (b : Bool)
  | int (n : Int)
  | float (x : Float)
  | str (s : String)
  | list (xs : List Setting)
  | map (kvs : List (Setting × Setting))
  | bytes (data : List Nat)
  | stamp (t : Timestamp)
  | set (xs : List Setting)
  | tuple (xs : List Setting)
  /-- A list (or, when `isMap`, a mapping) met again inside itself. -/
  | recurring (isMap : Bool)
  deriving Inhabited

namespace Setting

variable [Text.Surrogates]

def floatStyle : Number.FloatStyle where
  minPositional := -4
  maxPositional := 15
  pointZero := true
  exponentMark := "e"
  exponentWidth := 2
  exponentPlus := true
  nanText := "nan"
  infText := "inf"

def escapeByte (q : Char) (b : Nat) : String :=
  if b = 92 then "\\\\"
  else if b = q.toNat then "\\" ++ q.toString
  else if b = 9 then "\\t"
  else if b = 10 then "\\n"
  else if b = 13 then "\\r"
  else if b < 32 || b ≥ 127 then "\\x" ++ String.ofList (Text.hexDigits 2 b)
  else (Char.ofNat b).toString

def bytesWritten (data : List Nat) : String :=
  let q := if data.contains 39 && !data.contains 34 then '"' else '\''
  "b" ++ q.toString ++ String.join (data.map (escapeByte q)) ++ q.toString

mutual

/-- The written form of a setting. -/
def written : Setting → String
  | .none => "None"
  | .bool b => if b then "True" else "False"
  | .int n => toString n
  | .float x => floatStyle.render x
  | .str s => Text.quoted s
  | .list xs => "[" ++ writtenItems xs ++ "]"
  | .map kvs => "\x7b" ++ writtenPairs kvs ++ "\x7d"
  | .bytes data => bytesWritten data
  | .stamp t => t.written
  | .set xs => if xs.isEmpty then "set()" else "\x7b" ++ writtenItems xs ++ "\x7d"
  | .tuple [x] => "(" ++ written x ++ ",)"
  | .tuple xs => "(" ++ writtenItems xs ++ ")"
  | .recurring isMap => if isMap then "\x7b...\x7d" else "[...]"

def writtenItems : List Setting → String
  | [] => ""
  | [x] => written x
  | x :: xs => written x ++ ", " ++ writtenItems xs

def writtenPairs : List (Setting × Setting) → String
  | [] => ""
  | [(k, v)] => written k ++ ": " ++ written v
  | (k, v) :: kvs => written k ++ ": " ++ written v ++ ", " ++ writtenPairs kvs

end

mutual

/-- The setting holds a whole number too long to write in decimal, of more than
`Number.maxDigits` digits; writing such a setting fails. -/
def unwritable : Setting → Bool
  | .int n => Nat.pow 10 Number.maxDigits ≤ n.natAbs
  | .list xs => anyUnwritable xs
  | .set xs => anyUnwritable xs
  | .tuple xs => anyUnwritable xs
  | .map kvs => pairsUnwritable kvs
  | _ => false

def anyUnwritable : List Setting → Bool
  | [] => false
  | x :: xs => unwritable x || anyUnwritable xs

def pairsUnwritable : List (Setting × Setting) → Bool
  | [] => false
  | (k, v) :: kvs => unwritable k || unwritable v || pairsUnwritable kvs

end

/-- The text of a setting: a text is itself, a timestamp its ISO text, anything else its
written form. -/
def text : Setting → String
  | .str s => s
  | .stamp t => t.text
  | s => s.written

/-- The name of a setting's type, as messages about a wrong type give it. -/
def typeName : Setting → String
  | .none => "NoneType"
  | .bool _ => "bool"
  | .int _ => "int"
  | .float _ => "float"
  | .str _ => "str"
  | .list _ => "list"
  | .map _ => "dict"
  | .bytes _ => "bytes"
  | .stamp t => t.typeName
  | .set _ => "set"
  | .tuple _ => "tuple"
  | .recurring isMap => if isMap then "dict" else "list"

/-- Whether a setting counts as true: nothing, false, zero and empty values do not. -/
def truthy : Setting → Bool
  | .none => false
  | .bool b => b
  | .int n => n != 0
  | .float x => x != 0
  | .str s => !s.isEmpty
  | .list xs => !xs.isEmpty
  | .map kvs => !kvs.isEmpty
  | .bytes data => !data.isEmpty
  | .stamp _ => true
  | .set xs => !xs.isEmpty
  | .tuple xs => !xs.isEmpty
  | .recurring _ => true

def realIsWhole (x : Float) (n : Int) : Bool :=
  if x.isNaN || x.isInf then false
  else
    let b := Number.Binary.ofBits x.toBits
    let unit := Nat.pow 2 (-b.q).toNat
    let whole := b.q ≥ 0 || b.m % unit = 0
    let mag : Nat := if b.q < 0 then b.m / unit else b.m * Nat.pow 2 b.q.toNat
    whole && (if x.toBits ≥ 0x8000000000000000 then -(mag : Int) else mag) == n

/-- Two settings are the same key: equal texts, equal numbers (a truth value counting as
zero or one, a real number and a whole number compared exactly), or both nothing. -/
def sameKey : Setting → Setting → Bool
  | .str a, .str b => a == b
  | .none, .none => true
  | .bool a, .bool b => a == b
  | .int a, .int b => a == b
  | .bool a, .int b => (if a then 1 else 0) == b
  | .int a, .bool b => a == (if b then 1 else 0)
  | .float a, .float b => a == b
  | .float a, .int b => realIsWhole a b
  | .int a, .float b => realIsWhole b a
  | .bool a, .float b => (if a then 1 else 0) == b
  | .float a, .bool b => a == (if b then 1 else 0)
  | .bytes a, .bytes b => a == b
  | .stamp a, .stamp b => a.same b
  | _, _ => false

/-- The value of a key in a mapping; the last entry of a key wins. -/
def lookup (kvs : List (Setting × Setting)) (key : String) : Option Setting :=
  (kvs.reverse.find? (fun kv => kv.1.sameKey (.str key))).map (·.2)

def ofString (s : String) : Setting := .str s

end Setting

end LinePatch
