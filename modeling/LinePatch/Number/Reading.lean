import LinePatch.Text.Blank
import LinePatch.Text.Case
import LinePatch.Text.Digit

/-!
# Reading numbers from text

Numbers in option values are read in two steps.

First the text is brought to its plain form: characters below U+007F stay, every other
blank becomes a space and every other decimal digit the plain digit of its value, so
that digits of any script read. The first character that is none of these ends the
plain form with a `?`, which no grammar accepts.
-/

namespace LinePatch.Number

/-- The longest run of decimal digits a whole number may have. -/
def maxDigits : Nat := 4300

/-- Why a run of `digits` decimal digits, more than `maxDigits`, is not read. -/
def tooLongMessage (digits : Nat) : String :=
  "Exceeds the limit (" ++ toString maxDigits ++
    s!" digits) for integer string conversion: value has {digits} digits; " ++
    "use sys.set_int_max_str_digits() to increase the limit"

def isPlainBlank (c : Char) : Bool :=
  c = ' ' || ('\t' ≤ c && c ≤ '\r')

def plainForm : List Char → List Char
  | [] => []
  | c :: r =>
    if c.toNat < 127 then c :: plainForm r
    else if Text.isBlank c then ' ' :: plainForm r
    else
      match Text.decimalValue c with
      | some d => Char.ofNat (48 + d) :: plainForm r
      | none => ['?']

/-- Characters without the blanks around them. -/
def trimmed (cs : List Char) : List Char :=
  ((cs.dropWhile isPlainBlank).reverse.dropWhile isPlainBlank).reverse

def digitValue (c : Char) : Option Nat :=
  if '0' ≤ c ∧ c ≤ '9' then some (c.toNat - '0'.toNat) else none

def digitIn (base : Nat) (c : Char) : Option Nat :=
  let v :=
    if '0' ≤ c ∧ c ≤ '9' then c.toNat - '0'.toNat
    else if 'a' ≤ c ∧ c ≤ 'z' then c.toNat - 'a'.toNat + 10
    else if 'A' ≤ c ∧ c ≤ 'Z' then c.toNat - 'A'.toNat + 10
    else base
  if v < base then some v else none

def runAfterDigit : List Char → List Char × List Char
  | '_' :: d :: r =>
    if (digitValue d).isSome then
      let (ds, rest) := runAfterDigit r
      (d :: ds, rest)
    else ([], '_' :: d :: r)
  | d :: r =>
    if (digitValue d).isSome then
      let (ds, rest) := runAfterDigit r
      (d :: ds, rest)
    else ([], d :: r)
  | [] => ([], [])

def digitRun : List Char → List Char × List Char
  | c :: r =>
    if (digitValue c).isSome then
      let (ds, rest) := runAfterDigit r
      (c :: ds, rest)
    else ([], c :: r)
  | [] => ([], [])

/-- The value of a list of digits. -/
def digitsValue (ds : List Char) : Nat :=
  ds.foldl (fun n c => 10 * n + (digitValue c).getD 0) 0

def readSign : List Char → Bool × List Char
  | '-' :: r => (true, r)
  | '+' :: r => (false, r)
  | cs => (false, cs)

/-- Why a text is not a whole number. -/
inductive WholeError where
  /-- The text is no whole number. -/
  | malformed
  /-- The text has a decimal run of this many digits, more than `maxDigits`. -/
  | tooLong (digits : Nat)
  deriving DecidableEq, Repr

def baseRun (base : Nat) : List Char → Except WholeError (List Nat × List Char)
  | [] => .ok ([], [])
  | '_' :: r =>
    match r with
    | c :: r' =>
      match digitIn base c with
      | some d => (baseRun base r').map fun (ds, rest) => (d :: ds, rest)
      | none => .error .malformed
    | [] => .error .malformed
  | c :: r =>
    match digitIn base c with
    | some d => (baseRun base r).map fun (ds, rest) => (d :: ds, rest)
    | none => .ok ([], c :: r)

def dropBasePrefix (base : Nat) : List Char → List Char
  | '0' :: m :: r =>
    let named :=
      (base = 16 ∧ (m = 'x' ∨ m = 'X')) ∨ (base = 8 ∧ (m = 'o' ∨ m = 'O')) ∨
        (base = 2 ∧ (m = 'b' ∨ m = 'B'))
    if named then
      match r with
      | '_' :: r' => r'
      | _ => r
    else '0' :: m :: r
  | cs => cs

def readWholeChars (base : Nat) (cs : List Char) : Except WholeError Int := do
  let cs := cs.dropWhile isPlainBlank
  let (neg, cs) := readSign cs
  let cs := dropBasePrefix base cs
  match cs with
  | '_' :: _ => .error .malformed
  | _ =>
    let (ds, rest) ← baseRun base cs
    if base = 10 ∧ ds.length > maxDigits then .error (.tooLong ds.length)
    else if ds.isEmpty then .error .malformed
    else if !(rest.all isPlainBlank) then .error .malformed
    else
      let n : Nat := ds.foldl (fun n d => base * n + d) 0
      .ok (if neg then -(n : Int) else n)

def readWholeIn (base : Nat) (s : String) : Except WholeError Int :=
  readWholeChars base (plainForm s.toList)

def readWhole (s : String) : Except WholeError Int :=
  readWholeIn 10 s

def readInt? (s : String) : Option Int :=
  match readWhole s with
  | .ok n => some n
  | .error _ => none

def nearestDouble (neg : Bool) (digits : Nat) (exp : Int) : Float :=
  let mag : Float :=
    if digits = 0 then 0
    else
      let width : Int := (Nat.toDigits 10 digits).length
      if width + exp > 400 then 1.0 / 0.0
      else if width + exp < -400 then 0
      else if exp < 0 then Float.ofScientific digits true exp.natAbs
      else Float.ofScientific digits false exp.natAbs
  if neg then -mag else mag

def readExponent : List Char → Option Int
  | [] => some 0
  | c :: r =>
    if c = 'e' ∨ c = 'E' then
      let (neg, r) := readSign r
      match digitRun r with
      | (ds@(_ :: _), []) => some (if neg then -(digitsValue ds : Int) else digitsValue ds)
      | _ => none
    else none

def readRealChars (cs : List Char) : Option Float :=
  let (neg, r) := readSign (trimmed cs)
  match Text.toLower (String.ofList r) with
  | "inf" => some (if neg then -(1.0 / 0.0) else 1.0 / 0.0)
  | "infinity" => some (if neg then -(1.0 / 0.0) else 1.0 / 0.0)
  | "nan" => some (0.0 / 0.0)
  | _ =>
    let (whole, r) := digitRun r
    let (frac, r) := match r with
      | '.' :: r' => digitRun r'
      | _ => ([], r)
    let pointOk := match r with
      | '.' :: _ => false
      | _ => true
    if whole.isEmpty && frac.isEmpty then none
    else if !pointOk then none
    else
      (readExponent r).map fun e =>
        nearestDouble neg (digitsValue (whole ++ frac)) (e - frac.length)

/-- Reads a real number from a text. -/
def readFloat? (s : String) : Option Float :=
  readRealChars (plainForm s.toList)

example : readInt? " 1_000 " = some 1000 ∧ readInt? "5\x1f" = none ∧
    readInt? "-٧" = some (-7) := by decide

example : (readWholeIn 16 "0x_ff").toOption = some 255 ∧ (readWholeIn 2 "").toOption = none := by
  decide

end LinePatch.Number
