/-!
# Shortest decimals of a double

A finite double stands for the interval of reals that round to it. Its shortest decimal
is the decimal with the fewest significant digits in that interval, and of two such the
one nearer the double; an exact tie goes to the even digit. The search tries one, two,
up to seventeen digits, and on each grid tests only the two grid points around the
value: when a grid point lies in the interval, one of those two does.
-/

namespace LinePatch.Number

/-- A finite non-negative double, `m * 2^q`. -/
structure Binary where
  m : Nat
  q : Int
  /-- The gap to the double below is half the gap to the double above. -/
  narrowBelow : Bool

/-- The magnitude of a finite double, from its bits. -/
def Binary.ofBits (b : UInt64) : Binary :=
  let e := ((b >>> 52) &&& 0x7FF).toNat
  let f := (b &&& 0xFFFFFFFFFFFFF).toNat
  if e == 0 then ⟨f, -1074, false⟩ else ⟨Nat.pow 2 52 + f, (e : Int) - 1075, f == 0 && e > 1⟩

/-- `digits * 10^exp`. -/
structure Dec where
  digits : Nat
  exp : Int
  deriving Repr, DecidableEq

def cmpScaled (a : Nat) (i : Int) (n : Nat) (j : Int) : Ordering :=
  compare (a * Nat.pow 10 i.toNat * Nat.pow 2 (-j).toNat) (n * Nat.pow 2 j.toNat * Nat.pow 10 (-i).toNat)

def floorScaled (n : Nat) (j : Int) (i : Int) : Nat :=
  (n * Nat.pow 2 j.toNat * Nat.pow 10 (-i).toNat) / (Nat.pow 10 i.toNat * Nat.pow 2 (-j).toNat)

def Binary.readsBack (x : Binary) (d : Dec) : Bool :=
  let lo := if x.narrowBelow then 4 * x.m - 1 else 4 * x.m - 2
  let hi := 4 * x.m + 2
  let incl := x.m % 2 == 0
  let cl := cmpScaled d.digits d.exp lo (x.q - 2)
  let ch := cmpScaled d.digits d.exp hi (x.q - 2)
  (cl == .gt || (incl && cl == .eq)) && (ch == .lt || (incl && ch == .eq))

def Binary.settleScale (x : Binary) : Nat → Int → Int
  | 0, k => k
  | fuel + 1, k =>
    if cmpScaled 1 (k - 1) x.m x.q == .gt then x.settleScale fuel (k - 1)
    else if cmpScaled 1 k x.m x.q != .gt then x.settleScale fuel (k + 1)
    else k

def Binary.scale (x : Binary) : Int :=
  let bits : Int := (Nat.log2 x.m : Int) + x.q
  x.settleScale 8 ((bits * 30103) / 100000 + 1)

def Binary.onGrid (x : Binary) (k : Int) : Option Dec :=
  let t := floorScaled x.m x.q k
  let lo := x.readsBack ⟨t, k⟩
  let hi := x.readsBack ⟨t + 1, k⟩
  if lo && hi then
    match cmpScaled (2 * t + 1) k (2 * x.m) x.q with
    | .gt => some ⟨t, k⟩
    | .lt => some ⟨t + 1, k⟩
    | .eq => some ⟨if t % 2 == 0 then t else t + 1, k⟩
  else if lo then some ⟨t, k⟩
  else if hi then some ⟨t + 1, k⟩
  else none

def Dec.strip : Nat → Dec → Dec
  | 0, d => d
  | fuel + 1, d =>
    if d.digits != 0 && d.digits % 10 == 0 then Dec.strip fuel ⟨d.digits / 10, d.exp + 1⟩ else d

/-- The shortest decimal of a value above zero; with seventeen digits one always reads
back, and the exact value stands in should none be found. -/
def Binary.shortest (x : Binary) : Dec :=
  let k := x.scale
  let found := (List.range 17).findSome? fun (n : Nat) => x.onGrid (k - ((n : Int) + 1))
  let exact : Dec := if x.q < 0 then ⟨x.m * Nat.pow 5 (-x.q).toNat, x.q⟩ else ⟨x.m * Nat.pow 2 x.q.toNat, 0⟩
  Dec.strip 800 (found.getD exact)

/-- How a double is written. -/
structure FloatStyle where
  /-- The least exponent of the leading digit written without an exponent. -/
  minPositional : Int
  /-- The greatest exponent of the leading digit written without an exponent. -/
  maxPositional : Int
  /-- A whole number written without an exponent ends in `.0`. -/
  pointZero : Bool
  /-- What stands between digits and exponent. -/
  exponentMark : String
  /-- The least number of exponent digits. -/
  exponentWidth : Nat
  /-- A positive exponent is written with `+`. -/
  exponentPlus : Bool
  nanText : String
  infText : String

def decimalDigits (n : Nat) : List Char := Nat.toDigits 10 n

/-- Writes a decimal above zero in a style. -/
def FloatStyle.layout (st : FloatStyle) (d : Dec) : String :=
  let ds := decimalDigits d.digits
  let x : Int := (ds.length : Int) - 1 + d.exp
  if st.minPositional ≤ x ∧ x ≤ st.maxPositional then
    if x < 0 then
      "0." ++ String.ofList (List.replicate ((-x).toNat - 1) '0' ++ ds)
    else if x.toNat + 1 < ds.length then
      String.ofList (ds.take (x.toNat + 1) ++ '.' :: ds.drop (x.toNat + 1))
    else
      String.ofList (ds ++ List.replicate (x.toNat + 1 - ds.length) '0') ++
        (if st.pointZero then ".0" else "")
  else
    let mant := match ds with
      | c :: r@(_ :: _) => String.ofList (c :: '.' :: r)
      | _ => String.ofList ds
    let e := decimalDigits x.natAbs
    mant ++ st.exponentMark ++ (if x < 0 then "-" else if st.exponentPlus then "+" else "") ++
      String.ofList (List.replicate (st.exponentWidth - e.length) '0' ++ e)

/-- Writes a double in a style: the sign, then the shortest decimal of its magnitude. -/
def FloatStyle.render (st : FloatStyle) (x : Float) : String :=
  if x.isNaN then st.nanText
  else
    let sign := if x.toBits ≥ 0x8000000000000000 then "-" else ""
    if x.isInf then sign ++ st.infText
    else
      let b := Binary.ofBits x.toBits
      if b.m = 0 then sign ++ (if st.pointZero then "0.0" else "0")
      else sign ++ st.layout b.shortest

end LinePatch.Number
