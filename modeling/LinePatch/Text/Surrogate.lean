/-!
# Lone surrogate codes

A text may hold a code between U+D800 and U+DFFF on its own, as the escape `\ud800` of
a double-quoted scalar gives it. Such a code is no character, so a text keeps it as a
stand-in: a window of 2048 code points is set aside for a run, and the code
`0xD800 + k` is kept as the character at `base + k`. Escaped forms write a stand-in back
as `\uXXXX` with the code it stands for, and encoding one as UTF-8 fails.
-/

namespace LinePatch.Text

/-- Where a run keeps the lone surrogate codes of its texts: the code `0xD800 + k`
stands at the character `base + k`. -/
class Surrogates where
  base : Nat

def surrogateCount : Nat := 0x800

def ofSurrogate [w : Surrogates] (code : Nat) : Char :=
  Char.ofNat (w.base + (code - 0xD800) % surrogateCount)

/-- The surrogate code a character stands in for, if it is a stand-in. -/
def surrogateCode? [w : Surrogates] (c : Char) : Option Nat :=
  if w.base ≤ c.toNat && c.toNat < w.base + surrogateCount then
    some (c.toNat - w.base + 0xD800)
  else none

def windowBases : List Nat :=
  (List.range 64).map (fun k => 0xF0000 + k * surrogateCount) ++
    (List.range 320).map (fun k => 0x40000 + k * surrogateCount)

def hexCode? (cs : List Char) : Option Nat :=
  cs.foldlM (fun n c =>
    if '0' ≤ c && c ≤ '9' then some (16 * n + (c.toNat - 48))
    else if 'a' ≤ c && c ≤ 'f' then some (16 * n + (c.toNat - 87))
    else if 'A' ≤ c && c ≤ 'F' then some (16 * n + (c.toNat - 55))
    else none) 0

def fourByteCode (a b c d : Nat) : Nat :=
  (a % 8) * 0x40000 + (b % 64) * 0x1000 + (c % 64) * 0x40 + d % 64

def spelledCodes : List Char → List Nat
  | '\\' :: 'U' :: rest =>
    ((hexCode? (rest.take 8)).filter (· ≥ 0x10000)).toList ++ spelledCodes rest
  | '%' :: rest =>
    let codes := [rest.take 2, (rest.drop 3).take 2, (rest.drop 6).take 2, (rest.drop 9).take 2].map hexCode?
    let marks := [rest.getD 2 ' ', rest.getD 5 ' ', rest.getD 8 ' ']
    let spelled := match codes with
      | [some a, some b, some c, some d] =>
        if marks.all (· = '%') && rest.length ≥ 11 then [fourByteCode a b c d] else []
      | _ => []
    spelled ++ spelledCodes rest
  | _ :: rest => spelledCodes rest
  | [] => []

def codesOf (texts : List String) : List Nat :=
  texts.flatMap fun t =>
    let cs := t.toList
    ((cs.filterMap fun c => if c.toNat ≥ 0x40000 then some c.toNat else none) ++ spelledCodes cs).filter
      (· ≥ 0x40000)

@[reducible]
def Surrogates.avoiding (texts : List String) : Surrogates :=
  let used := codesOf texts
  let clear := fun (b : Nat) => !used.any fun n => b ≤ n && n < b + surrogateCount
  ⟨(windowBases.find? clear).getD 0xF0000⟩

example : (Surrogates.avoiding ["x\\U000F0000"]).base = 0xF0800 ∧
    (Surrogates.avoiding ["abc"]).base = 0xF0000 := by
  decide

end LinePatch.Text
