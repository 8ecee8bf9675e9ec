import BundleInstaller.Decimal.Double

/-!
# The shortest decimal of a double

`Double.shortest` finds the fewest decimal digits that read back as the same double, and among
those the nearest.  It tries the grids of one, two, up to seventeen digits in turn: on a grid only
the two neighbours of the value can lie in the interval that reads back.

`Double.text` writes these digits positionally where the decimal point falls within sixteen digits
or at most four zeros follow it, and with an exponent otherwise; `Double.positional` never uses an
exponent.
-/

namespace BundleInstaller.Double

/-- The comparison `c · 10 ^ e ≤ a · 2 ^ t`, in naturals. -/
def decimalLe (c : Nat) (e : Int) (a : Nat) (t : Int) : Bool :=
  c * Nat.pow 10 e.toNat * Nat.pow 2 (-t).toNat ≤ a * Nat.pow 2 t.toNat * Nat.pow 10 (-e).toNat

/-- The comparison `a · 2 ^ t ≤ c · 10 ^ e`, in naturals. -/
def leDecimal (a : Nat) (t : Int) (c : Nat) (e : Int) : Bool :=
  a * Nat.pow 2 t.toNat * Nat.pow 10 (-e).toNat ≤ c * Nat.pow 10 e.toNat * Nat.pow 2 (-t).toNat

/-- The largest `c` with `c · 10 ^ e ≤ a · 2 ^ t`. -/
def floorOnGrid (a : Nat) (t : Int) (e : Int) : Nat :=
  (a * Nat.pow 2 t.toNat * Nat.pow 10 (-e).toNat) / (Nat.pow 10 e.toNat * Nat.pow 2 (-t).toNat)

/-- The reals that round to `m · 2 ^ q`, in quarters of the last place: both ends, and whether the
ends belong to them. -/
structure Interval where
  low : Nat
  mid : Nat
  high : Nat
  unit : Int
  closed : Bool

/-- The interval of a positive double; below a power of two the spacing halves. -/
def interval (m : Nat) (q : Int) : Interval :=
  let low := if m = Nat.pow 2 52 ∧ q ≠ -1074 then 4 * m - 1 else 4 * m - 2
  ⟨low, 4 * m, 4 * m + 2, q - 2, m % 2 == 0⟩

def Interval.holds (i : Interval) (c : Nat) (e : Int) : Bool :=
  leDecimal i.low i.unit c e && decimalLe c e i.high i.unit &&
    (i.closed || !(decimalLe c e i.low i.unit) && !(leDecimal i.high i.unit c e))

/-- The point of the grid `10 ^ e` in the interval that is nearest to the value, if there is one. -/
def Interval.onGrid? (i : Interval) (e : Int) : Option Nat :=
  let c := floorOnGrid i.mid i.unit e
  match i.holds c e, i.holds (c + 1) e with
  | true, false => some c
  | false, true => some (c + 1)
  | false, false => none
  | true, true =>
    -- twice the value against the sum of the two neighbours
    if leDecimal (2 * i.mid) i.unit (2 * c + 1) e then some c else some (c + 1)

/-- The number of digits before the decimal point of `a · 2 ^ t`, or minus the number of zeros
after it. -/
def magnitude (a : Nat) (t : Int) : Int :=
  let whole := a * Nat.pow 2 t.toNat / Nat.pow 2 (-t).toNat
  if whole ≠ 0 then (Nat.toDigits 10 whole).length
  else
    let rec zeros (j : Nat) : Nat → Int
      | 0 => -j
      | more + 1 => if floorOnGrid a t (-(j + 1)) = 0 then zeros (j + 1) more else -j
    zeros 0 400

/-- The fewest digits that read back as the positive double `m · 2 ^ q`, as `(c, e)` for
`c · 10 ^ e`. -/
def shortestOf (m : Nat) (q : Int) : Nat × Int :=
  let i := interval m q
  let k := magnitude i.mid i.unit
  let rec search (n : Nat) : Nat → Nat × Int
    | 0 => (floorOnGrid i.mid i.unit (k - n), k - n)
    | more + 1 =>
      match i.onGrid? (k - n) with
      | some c => (c, k - n)
      | none => search (n + 1) more
  search 1 17

def trimZeros (c : Nat) (e : Int) : Nat × Int :=
  if h : c ≠ 0 ∧ c % 10 = 0 then
    have : c / 10 < c := Nat.div_lt_self (Nat.pos_of_ne_zero h.1) (by decide)
    trimZeros (c / 10) (e + 1)
  else (c, e)
termination_by c

/-- The shortest decimal of a finite double without its sign; zero is `(0, 0)`. -/
def shortest (x : Double) : Nat × Int :=
  let (m, q) := x.parts
  if m = 0 then (0, 0) else
    let (c, e) := shortestOf m q
    trimZeros c e

def digitsOf (n : Nat) : List Char := Nat.toDigits 10 n

/-- The digits `c`, with zeros, such that the value is `c · 10 ^ e` and no exponent is written. -/
def positionalDigits (c : Nat) (e : Int) : List Char :=
  let ds := digitsOf c
  let point : Int := ds.length + e
  if 0 ≤ e then ds ++ List.replicate e.toNat '0' ++ ['.', '0']
  else if 0 < point then ds.take point.toNat ++ ['.'] ++ ds.drop point.toNat
  else ['0', '.'] ++ List.replicate (-point).toNat '0' ++ ds

/-- The text of a finite double: positional up to sixteen digits before the point and four zeros
after it, else with an exponent. -/
def finiteText (x : Double) : List Char :=
  let (c, e) := x.shortest
  let sign := if x.isNegative then ['-'] else []
  if c = 0 then sign ++ ['0', '.', '0'] else
    let ds := digitsOf c
    let point : Int := ds.length + e
    if (0 ≤ e ∧ point ≤ 16) ∨ (-5 < point ∧ point ≤ 16) then sign ++ positionalDigits c e
    else
      let mantissa := if ds.length = 1 then ds else ds.take 1 ++ ['.'] ++ ds.drop 1
      sign ++ mantissa ++ ['e'] ++ (toString (point - 1)).toList

/-- The text of a finite double that never has an exponent and always has a point. -/
def positional (x : Double) : String :=
  if x.isFinite then
    let (c, e) := x.shortest
    let sign := if x.isNegative then ['-'] else []
    String.ofList (sign ++ (if c = 0 then ['0', '.', '0'] else positionalDigits c e))
  else if x.isNaN then "NaN"
  else if x.isNegative then "-inf" else "inf"

def text (x : Double) : String := String.ofList x.finiteText

end BundleInstaller.Double
