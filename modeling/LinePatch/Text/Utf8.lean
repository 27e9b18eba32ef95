/-!
# UTF-8

Characters as UTF-8 bytes, and bytes back as characters. Decoding replaces each
malformed stretch by U+FFFD: a byte that cannot start a character, or the longest
start of a character that is cut short, counts as one stretch, and decoding goes on at
the byte after it.
-/

namespace LinePatch.Text

def utf8Bytes (c : Char) : List Nat :=
  let n := c.toNat
  if n < 0x80 then [n]
  else if n < 0x800 then [0xC0 + n / 0x40, 0x80 + n % 0x40]
  else if n < 0x10000 then [0xE0 + n / 0x1000, 0x80 + (n / 0x40) % 0x40, 0x80 + n % 0x40]
  else [0xF0 + n / 0x40000, 0x80 + (n / 0x1000) % 0x40, 0x80 + (n / 0x40) % 0x40, 0x80 + n % 0x40]

def replacement : Char := '\uFFFD'

def inRange (lo hi b : Nat) : Bool := lo ≤ b && b ≤ hi

def leadShape (b : Nat) : Option (Nat × Nat × Nat) :=
  if inRange 0xC2 0xDF b then some (0x80, 0xBF, 1)
  else if b = 0xE0 then some (0xA0, 0xBF, 2)
  else if inRange 0xE1 0xEC b || inRange 0xEE 0xEF b then some (0x80, 0xBF, 2)
  else if b = 0xED then some (0x80, 0x9F, 2)
  else if b = 0xF0 then some (0x90, 0xBF, 3)
  else if inRange 0xF1 0xF3 b then some (0x80, 0xBF, 3)
  else if b = 0xF4 then some (0x80, 0x8F, 3)
  else none

def takeTail (lo hi : Nat) : Nat → Nat → List Nat → Except (List Nat) (Nat × List Nat)
  | 0, acc, bs => .ok (acc, bs)
  | k + 1, acc, b :: bs =>
    if inRange lo hi b then takeTail 0x80 0xBF k (acc * 0x40 + (b - 0x80)) bs
    else .error (b :: bs)
  | _ + 1, _, [] => .error []

def decodeUtf8 : Nat → List Nat → List Char
  | 0, _ => []
  | _ + 1, [] => []
  | fuel + 1, b :: bs =>
    if b < 0x80 then Char.ofNat b :: decodeUtf8 fuel bs
    else
      match leadShape b with
      | none => replacement :: decodeUtf8 fuel bs
      | some (lo, hi, k) =>
        let first := if k = 1 then b - 0xC0 else if k = 2 then b - 0xE0 else b - 0xF0
        match takeTail lo hi k first bs with
        | .ok (n, rest) => Char.ofNat n :: decodeUtf8 fuel rest
        | .error rest => replacement :: decodeUtf8 fuel rest

def ofUtf8 (bs : List Nat) : List Char := decodeUtf8 (bs.length + 1) bs

end LinePatch.Text
