/-!
# Timestamps

A timestamp is a calendar date, or a date with a time of day to the microsecond and,
when known, an offset from UTC in seconds. Dates follow the Gregorian calendar for
every year from 1 to 9999.
-/

namespace LinePatch

/-- A calendar date, or a date with a time of day and an optional offset from UTC. -/
inductive Timestamp where
  | date (year month day : Nat)
  | time (year month day hour minute second micro : Nat) (offset : Option Int)
  deriving DecidableEq, Repr, Inhabited

namespace Timestamp

def isLeap (y : Nat) : Bool := y % 4 == 0 && (y % 100 != 0 || y % 400 == 0)

def daysIn (y m : Nat) : Nat :=
  if m = 2 then (if isLeap y then 29 else 28)
  else if m = 4 || m = 6 || m = 9 || m = 11 then 30
  else 31

def dateProblem (y m d : Nat) : Option String :=
  if y < 1 || y > 9999 then some ("year " ++ toString y ++ " is out of range")
  else if m < 1 || m > 12 then some "month must be in 1..12"
  else if d < 1 || d > daysIn y m then some "day is out of range for month"
  else none

def clockProblem (h mi s : Nat) : Option String :=
  if h > 23 then some "hour must be in 0..23"
  else if mi > 59 then some "minute must be in 0..59"
  else if s > 59 then some "second must be in 0..59"
  else none

def padded (width n : Nat) : String :=
  let ds := Nat.toDigits 10 n
  String.ofList (List.replicate (width - ds.length) '0' ++ ds)

def spanWritten (secs : Int) : String :=
  let days := secs / 86400
  let rest := secs % 86400
  let fields :=
    (if days != 0 then ["days=" ++ toString days] else []) ++
      (if rest != 0 then ["seconds=" ++ toString rest] else [])
  "datetime.timedelta(" ++ (if fields.isEmpty then "0" else ", ".intercalate fields) ++ ")"

def offsetProblem (secs : Int) : Option String :=
  if secs ≤ -86400 || secs ≥ 86400 then
    some ("offset must be a timedelta strictly between -timedelta(hours=24) and " ++
      "timedelta(hours=24), not " ++ spanWritten secs ++ ".")
  else none

def zoneWritten (secs : Int) : String :=
  if secs = 0 then "datetime.timezone.utc"
  else "datetime.timezone(" ++ spanWritten secs ++ ")"

/-- The written form of a timestamp. -/
def written : Timestamp → String
  | date y m d => "datetime.date(" ++ ", ".intercalate ([y, m, d].map toString) ++ ")"
  | time y m d h mi s us off =>
    let clock := [y, m, d, h, mi] ++ (if us != 0 then [s, us] else if s != 0 then [s] else [])
    let zone := match off with
      | some o => ", tzinfo=" ++ zoneWritten o
      | none => ""
    "datetime.datetime(" ++ ", ".intercalate (clock.map toString) ++ zone ++ ")"

def zoneText (secs : Int) : String :=
  let sign := if secs < 0 then "-" else "+"
  let a := secs.natAbs
  sign ++ padded 2 (a / 3600) ++ ":" ++ padded 2 (a / 60 % 60) ++
    (if a % 60 != 0 then ":" ++ padded 2 (a % 60) else "")

/-- The ISO text of a timestamp. -/
def text : Timestamp → String
  | date y m d => padded 4 y ++ "-" ++ padded 2 m ++ "-" ++ padded 2 d
  | time y m d h mi s us off =>
    padded 4 y ++ "-" ++ padded 2 m ++ "-" ++ padded 2 d ++ " " ++ padded 2 h ++ ":" ++
      padded 2 mi ++ ":" ++ padded 2 s ++ (if us != 0 then "." ++ padded 6 us else "") ++
      (off.map zoneText).getD ""

def daysFromEpoch (y m d : Nat) : Int :=
  let y : Int := if m ≤ 2 then (y : Int) - 1 else y
  let era := (if y ≥ 0 then y else y - 399) / 400
  let yoe := y - era * 400
  let mp : Int := ((m : Int) + 9) % 12
  let doy := (153 * mp + 2) / 5 + (d : Int) - 1
  let doe := yoe * 365 + yoe / 4 - yoe / 100 + doy
  era * 146097 + doe - 719468

def instant (y m d h mi s us : Nat) (off : Int) : Int :=
  ((daysFromEpoch y m d * 86400 + (h * 3600 + mi * 60 + s : Nat) - off) * 1000000) + us

/-- Two timestamps are the same. -/
def same : Timestamp → Timestamp → Bool
  | date y m d, date y' m' d' => y == y' && m == m' && d == d'
  | time y m d h mi s us none, time y' m' d' h' mi' s' us' none =>
    [y, m, d, h, mi, s, us] == [y', m', d', h', mi', s', us']
  | time y m d h mi s us (some o), time y' m' d' h' mi' s' us' (some o') =>
    instant y m d h mi s us o == instant y' m' d' h' mi' s' us' o'
  | _, _ => false

/-- The name of a timestamp's type. -/
def typeName : Timestamp → String
  | date .. => "datetime.date"
  | time .. => "datetime.datetime"

example : (time 2001 12 14 21 59 43 100000 (some (-18000))).written =
    "datetime.datetime(2001, 12, 14, 21, 59, 43, 100000, tzinfo=datetime.timezone(datetime.timedelta(days=-1, seconds=68400)))" := by
  decide

end Timestamp

end LinePatch
