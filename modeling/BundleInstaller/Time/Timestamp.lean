import BundleInstaller.Decimal.Reading
import BundleInstaller.Text.Blank

/-!
# Points in time

A `Timestamp` is a second of universal time.  `Timestamp.read` accepts a date, a `T` or a blank, a
time with an optional fraction, and an offset from universal time, with blanks between most parts;
`Timestamp.text` writes the second without a fraction, and with the offset `Z`.
-/

namespace BundleInstaller

/-- A second of universal time: the day, counted from the first of January 1970, the second of
the day, and whether it is a leap second behind it. -/
structure Timestamp where
  day : Int
  second : Nat
  leap : Bool
  deriving Repr, DecidableEq

namespace Timestamp

/-- Why a text is no point in time. -/
inductive Fault where
  | tooShort
  | tooLong
  | invalid
  | outOfRange
  deriving Repr, DecidableEq

def Fault.message : Fault → String
  | tooShort => "premature end of input"
  | tooLong => "trailing input"
  | invalid => "input contains invalid characters"
  | outOfRange => "input is out of range"

/-! ## The calendar -/

/-- The day of a date, counted from the first of January 1970. -/
def dayOf (year : Int) (month day : Nat) : Int :=
  let y := if month ≤ 2 then year - 1 else year
  let era := Int.fdiv y 400
  let yearOfEra := y - era * 400
  let monthFromMarch : Nat := (month + 9) % 12
  let dayOfYear : Int := ((153 * monthFromMarch + 2) / 5 + day - 1 : Nat)
  let dayOfEra := yearOfEra * 365 + Int.fdiv yearOfEra 4 - Int.fdiv yearOfEra 100 + dayOfYear
  era * 146097 + dayOfEra - 719468

def dateOf (day : Int) : Int × Nat × Nat :=
  let z := day + 719468
  let era := Int.fdiv z 146097
  let doe := (z - era * 146097).toNat
  let yoe := (doe - doe / 1460 + doe / 36524 - doe / 146096) / 365
  let doy := doe - (365 * yoe + yoe / 4 - yoe / 100)
  let mp := (5 * doy + 2) / 153
  let d := doy - (153 * mp + 2) / 5 + 1
  let m := if mp < 10 then mp + 3 else mp - 9
  (yoe + era * 400 + (if m ≤ 2 then 1 else 0), m, d)

def isLeapYear (year : Int) : Bool :=
  year % 4 == 0 && (year % 100 != 0 || year % 400 == 0)

def daysIn (year : Int) (month : Nat) : Nat :=
  if month = 2 then if isLeapYear year then 29 else 28
  else if month = 4 ∨ month = 6 ∨ month = 9 ∨ month = 11 then 30 else 31

/-! ## Reading -/

/-- A reader takes some text off the front. -/
abbrev Reader (α : Type) := List Char → Except Fault (α × List Char)

/-- One to `most` digits, or any number of digits. -/
def digits (most : Option Nat) : Reader Nat := fun cs =>
  let bounded := match most with
    | some n => cs.take n
    | none => cs
  let ds := bounded.takeWhile Char.isDigit
  if cs.isEmpty then .error .tooShort
  else if ds.isEmpty then .error .invalid
  else if Decimal.digitsValue ds < Nat.pow 2 63 then .ok (Decimal.digitsValue ds, cs.drop ds.length)
  else .error .outOfRange

/-- One or two digits between `low` and `high`, after blanks. -/
def field (low high : Nat) : Reader Nat := fun cs => do
  let (n, rest) ← digits (some 2) (Text.trimStart cs)
  if n < low ∨ high < n then throw .outOfRange
  return (n, rest)

/-- A year: four digits, or any number of them after a sign. -/
def year : Reader Int := fun cs => do
  let (n, rest) ← match Text.trimStart cs with
    | '-' :: more => do
      let (n, rest) ← digits none more
      pure (-(n : Int), rest)
    | '+' :: more => do
      let (n, rest) ← digits none more
      pure ((n : Int), rest)
    | more => do
      let (n, rest) ← digits (some 4) more
      pure ((n : Int), rest)
  if n < -Nat.pow 2 31 ∨ Nat.pow 2 31 ≤ n then throw .outOfRange
  return (n, rest)

def mark (c : Char) : Reader Unit := fun cs =>
  match Text.trimStart cs with
  | [] => .error .tooShort
  | d :: rest => if c == d then .ok ((), rest) else .error .invalid

def fraction : Reader Unit := fun cs =>
  match cs with
  | '.' :: more => do
    let (_, rest) ← digits (some 9) more
    return ((), rest.dropWhile Char.isDigit)
  | _ => .ok ((), cs)

def twoDigits : Reader (Char × Char) := fun cs =>
  match cs with
  | a :: b :: rest => .ok ((a, b), rest)
  | _ => .error .tooShort

def valueOf (a b : Char) : Nat := (a.toNat - 48) * 10 + (b.toNat - 48)

/-- A sign; the flag is set for a minus. -/
def sign : Reader Bool := fun cs =>
  match cs with
  | '+' :: rest => .ok (false, rest)
  | '-' :: rest => .ok (true, rest)
  | '\u2212' :: rest => .ok (true, rest)
  | [] => .error .tooShort
  | _ => .error .invalid

/-- An offset in seconds: a `Z`, or a sign, hours and minutes. -/
def offset : Reader Int := fun cs => do
  match cs with
  | 'Z' :: rest | 'z' :: rest => return (0, rest)
  | _ =>
    if (cs.take 3).map Char.toUpper == ['U', 'T', 'C'] then return (0, cs.drop 3)
    let (negative, rest) ← sign cs
    let ((a, b), rest) ← twoDigits rest
    if !(a.isDigit && b.isDigit) then throw .invalid
    let rest := rest.dropWhile fun c => c == ':' || Text.isBlank c
    let ((c, d), rest) ← twoDigits rest
    if !(c.isDigit && d.isDigit) then throw .invalid
    if '5' < c then throw .outOfRange
    let seconds : Int := valueOf a b * 3600 + valueOf c d * 60
    return (if negative then -seconds else seconds, rest)

/-- The years that a date may have. -/
def firstYear : Int := -262143
def lastYear : Int := 262142

def read (s : String) : Except Fault Timestamp := do
  let (y, cs) ← year s.toList
  let (_, cs) ← mark '-' cs
  let (m, cs) ← field 1 12 cs
  let (_, cs) ← mark '-' cs
  let (d, cs) ← field 1 31 cs
  let cs ← match cs with
    | [] => throw .tooShort
    | c :: rest => if c == 't' || c == 'T' || c == ' ' then pure rest else throw .invalid
  let (hour, cs) ← field 0 23 cs
  let (_, cs) ← mark ':' cs
  let (minute, cs) ← field 0 59 cs
  let (_, cs) ← mark ':' cs
  let (second, cs) ← field 0 60 cs
  let (_, cs) ← fraction cs
  let (away, cs) ← offset (Text.trimStart cs)
  if !cs.isEmpty then throw .tooLong
  if y < firstYear ∨ lastYear < y ∨ daysIn y m < d ∨ 86400 ≤ away.natAbs then throw .outOfRange
  let local_ : Int := hour * 3600 + minute * 60 + min second 59
  let total := dayOf y m d * 86400 + local_ - away
  return ⟨Int.fdiv total 86400, (Int.fmod total 86400).toNat, second == 60⟩

/-! ## Writing -/

def padded (width n : Nat) : String :=
  let ds := Nat.toDigits 10 n
  String.ofList (List.replicate (width - ds.length) '0' ++ ds)

/-- A year: four digits, with a sign where they do not suffice. -/
def yearText (y : Int) : String :=
  if 0 ≤ y ∧ y ≤ 9999 then padded 4 y.toNat
  else (if y < 0 then "-" else "+") ++ padded 4 y.natAbs

def text (t : Timestamp) : String :=
  let (y, m, d) := dateOf t.day
  let second := t.second % 60 + if t.leap then 1 else 0
  yearText y ++ "-" ++ padded 2 m ++ "-" ++ padded 2 d ++ "T" ++ padded 2 (t.second / 3600) ++ ":" ++
    padded 2 (t.second / 60 % 60) ++ ":" ++ padded 2 second ++ "Z"

end Timestamp
end BundleInstaller
