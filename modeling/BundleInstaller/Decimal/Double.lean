/-!
# Binary floating point numbers

A `Double` is the 64 bits of an IEEE 754 binary64 number.  `Double.parts` gives the value of a
finite one as `m · 2 ^ q`, and `Double.ofRatio` rounds a quotient of naturals to the nearest
double, a tie going to the even neighbour.  All arithmetic is on naturals, so nothing here is
rounded twice.
-/

namespace BundleInstaller

/-- The bits of a binary64 number: a sign, eleven bits of exponent and 52 bits of fraction. -/
structure Double where
  bits : UInt64
  deriving DecidableEq, Repr, Inhabited

namespace Double

def isNegative (x : Double) : Bool := x.bits.toNat / Nat.pow 2 63 == 1

def exponentField (x : Double) : Nat := x.bits.toNat / Nat.pow 2 52 % Nat.pow 2 11

def fractionField (x : Double) : Nat := x.bits.toNat % Nat.pow 2 52

def isFinite (x : Double) : Bool := x.exponentField != 2047

def isNaN (x : Double) : Bool := x.exponentField == 2047 && x.fractionField != 0

/-- A finite number without its sign, as `m · 2 ^ q` in `(m, q)`. -/
def parts (x : Double) : Nat × Int :=
  if x.exponentField = 0 then (x.fractionField, -1074)
  else (Nat.pow 2 52 + x.fractionField, (x.exponentField : Int) - 1075)

def ofFields (negative : Bool) (exponent fraction : Nat) : Double :=
  ⟨((if negative then Nat.pow 2 63 else 0) + exponent * Nat.pow 2 52 + fraction).toUInt64⟩

def infinity (negative : Bool) : Double := ofFields negative 2047 0

def nan : Double := ofFields false 2047 (Nat.pow 2 51)

def zero (negative : Bool) : Double := ofFields negative 0 0

/-- `num / den` rounded to a natural, a tie going to the even neighbour. -/
def roundDiv (num den : Nat) : Nat :=
  let low := num / den
  let twice := 2 * (num % den)
  if twice < den then low
  else if den < twice then low + 1
  else low + low % 2

/-- The double nearest to `num / den`, a tie going to the even neighbour; `den` is positive. -/
def ofRatio (negative : Bool) (num den : Nat) : Double :=
  if num = 0 then zero negative
  else
    -- `num / den` lies between `2 ^ (e - 1)` and `2 ^ (e + 1)`; `q` is the exponent of the last place
    let e : Int := (Nat.log2 num : Int) - Nat.log2 den
    let lastPlace (e : Int) : Int := max (e - 52) (-1074)
    let scaled (q : Int) : Nat :=
      if 0 ≤ q then roundDiv num (den * Nat.pow 2 q.toNat)
      else roundDiv (num * Nat.pow 2 (-q).toNat) den
    let below :=
      if 0 ≤ e then decide (num < den * Nat.pow 2 e.toNat)
      else decide (num * Nat.pow 2 (-e).toNat < den)
    let q := lastPlace (if below then e - 1 else e)
    let m := scaled q
    let (m, q) := if m = Nat.pow 2 53 then (Nat.pow 2 52, q + 1) else (m, q)
    if m < Nat.pow 2 52 then ofFields negative 0 m
    else if 971 < q then infinity negative
    else ofFields negative (q + 1075).toNat (m - Nat.pow 2 52)

/-- The double nearest to `digits · 10 ^ exponent`. -/
def ofDecimal (negative : Bool) (digits : Nat) (exponent : Int) : Double :=
  if digits = 0 then zero negative
  else
    let size : Int := (Nat.toDigits 10 digits).length
    if 310 < size + exponent then infinity negative
    else if size + exponent < -330 then zero negative
    else if 0 ≤ exponent then ofRatio negative (digits * Nat.pow 10 exponent.toNat) 1
    else ofRatio negative digits (Nat.pow 10 (-exponent).toNat)

def ofNat (n : Nat) : Double := ofRatio false n 1

end Double
end BundleInstaller
