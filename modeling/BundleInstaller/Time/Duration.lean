import BundleInstaller.Decimal.Reading
import BundleInstaller.Text.Blank

/-!
# Durations

A duration is written as parts, each a number and a unit.  `Duration.text` writes it with the
largest units first, leaving out parts that are zero; `Duration.read?` accepts parts in any order
and any number, with blanks before and after each number, and decimal fractions of a unit that come
out as whole nanoseconds.  A year has 365.25 days and a month 30.44.
-/

namespace BundleInstaller

/-- Seconds and nanoseconds. -/
structure Duration where
  secs : Nat
  /-- Less than a second. -/
  nanos : Nat
  deriving Repr, DecidableEq, Inhabited

namespace Duration

def nanosPerSec : Nat := 1000000000

def ofSecs (n : Nat) : Duration := ⟨n, 0⟩

inductive Unit where
  | nanosecond | microsecond | millisecond
  | second | minute | hour | day | week | month | year
  deriving Repr, DecidableEq

def Unit.nanos : Unit → Nat
  | nanosecond => 1
  | microsecond => 1000
  | millisecond => 1000000
  | second => nanosPerSec
  | minute => 60 * nanosPerSec
  | hour => 3600 * nanosPerSec
  | day => 86400 * nanosPerSec
  | week => 604800 * nanosPerSec
  | month => 2630016 * nanosPerSec
  | year => 31557600 * nanosPerSec

def Unit.named? : String → Option Unit
  | "nanos" | "nsec" | "ns" => some nanosecond
  | "usec" | "us" | "µs" => some microsecond
  | "millis" | "msec" | "ms" => some millisecond
  | "seconds" | "second" | "secs" | "sec" | "s" => some second
  | "minutes" | "minute" | "min" | "mins" | "m" => some minute
  | "hours" | "hour" | "hrs" | "hr" | "h" => some hour
  | "days" | "day" | "d" => some day
  | "weeks" | "week" | "wks" | "wk" | "w" => some week
  | "months" | "month" | "M" => some month
  | "years" | "year" | "yrs" | "yr" | "y" => some year
  | _ => none

/-! ## Reading -/

/-- A number and a unit. -/
structure Part where
  whole : Nat
  /-- The digits after the point, the last first. -/
  fraction : List Nat
  unit : Unit
  deriving Repr

/-- Numbers below this can be read. -/
def bound : Nat := Nat.pow 2 64

/-- A number of digits, the last first. -/
def digitsValue : List Nat → Nat
  | [] => 0
  | d :: ds => digitsValue ds * 10 + d

/-- The nanoseconds of a fraction of a unit, if they are whole. -/
def fractionNanos? (fraction : List Nat) (unit : Unit) : Option Nat :=
  let den := Nat.pow 10 fraction.length
  let num := digitsValue fraction * unit.nanos
  if den < bound ∧ num % den = 0 then some (num / den) else none

/-- Adds seconds and nanoseconds, if the sum can be written. -/
def add? (d : Duration) (secs nanos : Nat) : Option Duration :=
  let total := d.nanos + nanos
  let secs := d.secs + secs + total / nanosPerSec
  if total < bound ∧ secs < bound then some ⟨secs, total % nanosPerSec⟩ else none

def addPart? (d : Duration) (p : Part) : Option Duration := do
  let sum ←
    if p.unit.nanos < nanosPerSec then
      if p.whole * p.unit.nanos < bound then d.add? 0 (p.whole * p.unit.nanos) else none
    else d.add? (p.whole * (p.unit.nanos / nanosPerSec)) 0
  let more ← fractionNanos? p.fraction p.unit
  sum.add? (more / nanosPerSec) (more % nanosPerSec)

/-- What is being read. -/
inductive Reading where
  | start
  | whole (n : Nat)
  /-- The digits after a point, the last first. -/
  | fraction (whole : Nat) (digits : List Nat)
  /-- The letters of a unit, the last first. -/
  | unit (whole : Nat) (fraction : List Nat) (name : List Char)

def isUnitChar (c : Char) : Bool := c.isAlpha || c == 'µ'

/-- The part that ends with the letters `name`, the last first. -/
def part? (whole : Nat) (fraction : List Nat) (name : List Char) : Option Part :=
  if whole < bound then
    (Unit.named? (String.ofList name.reverse)).map (⟨whole, fraction, ·⟩)
  else none

/-- Reads on; `parts` were read, the last first. -/
def readParts (parts : List Part) (state : Reading) : List Char → Option (List Part)
  | [] =>
    match state with
    | .start => if parts.isEmpty then none else some parts.reverse
    | .unit whole fraction name => do return ((← part? whole fraction name) :: parts).reverse
    | _ => none
  | c :: rest =>
    let digit := c.toNat - 48
    match state with
    | .start =>
      if c.isDigit then readParts parts (.whole digit) rest
      else if Text.isBlank c then readParts parts .start rest
      else none
    | .whole n =>
      if c.isDigit then readParts parts (.whole (n * 10 + digit)) rest
      else if Text.isBlank c then readParts parts state rest
      else if c == '.' then readParts parts (.fraction n []) rest
      else if isUnitChar c then readParts parts (.unit n [] [c]) rest
      else none
    | .fraction n ds =>
      if c.isDigit then readParts parts (.fraction n (digit :: ds)) rest
      else if Text.isBlank c then readParts parts state rest
      else if isUnitChar c && !ds.isEmpty then readParts parts (.unit n ds [c]) rest
      else none
    | .unit n ds name =>
      if isUnitChar c then readParts parts (.unit n ds (c :: name)) rest
      else
        match part? n ds name with
        | none => none
        | some p =>
          if c.isDigit then readParts (p :: parts) (.whole digit) rest
          else if Text.isBlank c then readParts (p :: parts) .start rest
          else none

/-- Reads a duration; a lone zero needs no unit. -/
def read? (s : String) : Option Duration :=
  if s = "0" then some ⟨0, 0⟩
  else do (← readParts [] .start s.toList).foldlM addPart? ⟨0, 0⟩

/-! ## Writing -/

/-- A part, unless it is zero. -/
def item (n : Nat) (name : String) : List String := if n = 0 then [] else [toString n ++ name]

/-- A part whose unit has a plural, unless it is zero. -/
def plural (n : Nat) (name : String) : List String :=
  item n (if n = 1 then name else name ++ "s")

/-- The parts of a duration that are not zero, the largest units first. -/
def items (d : Duration) : List String :=
  let inYear := d.secs % 31557600
  let inMonth := inYear % 2630016
  let inDay := inMonth % 86400
  plural (d.secs / 31557600) "year" ++ plural (inYear / 2630016) "month" ++
    plural (inMonth / 86400) "day" ++ item (inDay / 3600) "h" ++ item (inDay % 3600 / 60) "m" ++
    item (inDay % 60) "s" ++ item (d.nanos / 1000000) "ms" ++
    item (d.nanos / 1000 % 1000) "us" ++ item (d.nanos % 1000) "ns"

def text (d : Duration) : String :=
  if d.secs = 0 ∧ d.nanos = 0 then "0s" else " ".intercalate d.items

/-- A number and what stands behind its decimal point, given in units of `10 ^ -digits`; zeros at
the end are left out. -/
def decimal (whole fraction digits : Nat) : String :=
  let ds := Nat.toDigits 10 fraction
  let padded := List.replicate (digits - ds.length) '0' ++ ds
  let kept := (padded.reverse.dropWhile (· = '0')).reverse
  toString whole ++ if kept.isEmpty then "" else "." ++ String.ofList kept

/-- A duration as one decimal number of its largest unit, a second at most. -/
def brief (d : Duration) : String :=
  if 0 < d.secs then decimal d.secs d.nanos 9 ++ "s"
  else if 1000000 ≤ d.nanos then decimal (d.nanos / 1000000) (d.nanos % 1000000) 6 ++ "ms"
  else if 1000 ≤ d.nanos then decimal (d.nanos / 1000) (d.nanos % 1000) 3 ++ "µs"
  else toString d.nanos ++ "ns"

end Duration
end BundleInstaller
