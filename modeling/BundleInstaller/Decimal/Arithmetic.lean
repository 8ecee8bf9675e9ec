import BundleInstaller.Decimal.Double

/-!
# Products and quotients of doubles

`Double.mul` and `Double.div` give the double nearest to the exact product or quotient of two finite
positive doubles.
-/

namespace BundleInstaller.Double

/-- A finite double without its sign as a quotient of naturals. -/
def ratio (x : Double) : Nat × Nat :=
  let (m, q) := x.parts
  if 0 ≤ q then (m * Nat.pow 2 q.toNat, 1) else (m, Nat.pow 2 (-q).toNat)

/-- The double nearest to a product. -/
def mul (x y : Double) : Double :=
  let (a, b) := x.ratio
  let (c, d) := y.ratio
  ofRatio false (a * c) (b * d)

/-- The double nearest to a quotient; `y` is not zero. -/
def div (x y : Double) : Double :=
  let (a, b) := x.ratio
  let (c, d) := y.ratio
  ofRatio false (a * d) (b * c)

def neg (x : Double) : Double :=
  ofFields (!x.isNegative) x.exponentField x.fractionField

def isZero (x : Double) : Bool := x.exponentField == 0 && x.fractionField == 0

end BundleInstaller.Double
