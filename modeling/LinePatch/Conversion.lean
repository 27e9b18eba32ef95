import LinePatch.Fault
import LinePatch.Number.Reading
import LinePatch.Policy

/-!
# Settings as numbers and policies

A setting is read as a whole number, a real number or a policy by the rules of option
values: a truth value counts as zero or one, a real number loses its fraction on the way
to a whole number, and a text is read by the number grammars; any other type is refused.
-/

namespace LinePatch

variable [Text.Surrogates]

namespace Number

/-- The whole part of a finite double, rounded toward zero. -/
def truncate (x : Float) : Int :=
  let b := Binary.ofBits x.toBits
  let mag : Nat := if b.q < 0 then b.m / Nat.pow 2 (-b.q).toNat else b.m * Nat.pow 2 b.q.toNat
  if x.toBits ≥ 0x8000000000000000 then -(mag : Int) else mag

def byteChars (data : List Nat) : List Char :=
  data.map fun b => if b < 128 then Char.ofNat b else '?'

def ofWhole (n : Int) : Float :=
  if n < 0 then -(Float.ofNat n.natAbs) else Float.ofNat n.natAbs

end Number

namespace Setting

/-- The setting as a whole number. -/
def toWhole : Setting → Except Fault Int
  | .bool b => .ok (if b then 1 else 0)
  | .int n => .ok n
  | .float x =>
    if x.isNaN then .error .wholeOfNaN
    else if x.isInf then .error .wholeOfInfinity
    else .ok (Number.truncate x)
  | .str s =>
    match Number.readWhole s with
    | .ok n => .ok n
    | .error .malformed => .error (.notAWhole 10 s)
    | .error (.tooLong digits) => .error (.wholeTooLong digits)
  | .bytes data =>
    match Number.readWholeChars 10 (Number.byteChars data) with
    | .ok n => .ok n
    | .error _ => .error (.notAWhole 10 (Setting.bytes data).written)
  | s => .error (.wholeOfType s.typeName)

/-- The setting as a real number. -/
def toReal : Setting → Except Fault Float
  | .bool b => .ok (if b then 1 else 0)
  | .int n =>
    let x := Number.ofWhole n
    if x.isInf then .error .realTooLarge else .ok x
  | .float x => .ok x
  | .str s =>
    match Number.readFloat? s with
    | some x => .ok x
    | Option.none => .error (.notAReal s)
  | .bytes data =>
    match Number.readRealChars (Number.byteChars data) with
    | some x => .ok x
    | Option.none => .error (.notAReal (Setting.bytes data).written)
  | s => .error (.realOfType s.typeName)

end Setting

/-- The policy a setting names: nothing names `whitespace`, and a policy name is read
from the setting's text, ignoring case and surrounding blanks. -/
def Policy.ofSetting : Setting → Except Fault Policy
  | .none => .ok .whitespace
  | v =>
    if v.unwritable then .error .wholeTooLongToWrite else
    match Policy.ofName? v.text with
    | some p => .ok p
    | none => .error (.unknownPolicy v)

end LinePatch
