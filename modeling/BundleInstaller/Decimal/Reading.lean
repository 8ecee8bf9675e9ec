import BundleInstaller.Decimal.Double

/-!
# Reading decimals

`readFloat?` accepts an optional sign, digits with an optional point among, before or after them,
and an optional exponent, and gives the nearest double, which may be infinite.  `readNat?` reads
digits of a given base and nothing else, `readUnsigned?` digits behind an optional sign.
-/

namespace BundleInstaller.Decimal

def digit? (base : Nat) (c : Char) : Option Nat :=
  let n := c.toNat
  let v := if 48 ≤ n ∧ n ≤ 57 then n - 48
    else if 97 ≤ n ∧ n ≤ 102 then n - 87
    else if 65 ≤ n ∧ n ≤ 70 then n - 55
    else base
  if v < base then some v else none

def readNat? (base : Nat) : List Char → Option Nat
  | [] => none
  | cs => cs.foldl (fun acc c => do some ((← acc) * base + (← digit? base c))) (some 0)

def spanDigits (cs : List Char) : List Char × List Char := cs.span Char.isDigit

def digitsValue (ds : List Char) : Nat := ds.foldl (fun n c => n * 10 + (c.toNat - 48)) 0

/-- Reads a decimal that takes so many bits at most. -/
def readUnsigned? (bits : Nat) (cs : List Char) : Option Nat :=
  let ds := match cs with
    | '+' :: ds => ds
    | ds => ds
  if ds.isEmpty || !ds.all Char.isDigit then none
  else if digitsValue ds < Nat.pow 2 bits then some (digitsValue ds) else none

/-- Reads an exponent after its mark: an optional sign, then digits to the end. -/
def readExponent? : List Char → Option Int
  | '-' :: cs => (readNat? 10 cs).map fun n => -(n : Int)
  | '+' :: cs => (readNat? 10 cs).map fun n => (n : Int)
  | cs => (readNat? 10 cs).map fun n => (n : Int)

/-- Reads an unsigned decimal as digits and a power of ten. -/
def readDecimal? (cs : List Char) : Option (Nat × Int) := do
  let (whole, rest) := spanDigits cs
  let (fraction, rest) := match rest with
    | '.' :: more => spanDigits more
    | _ => ([], rest)
  if whole.isEmpty && fraction.isEmpty then none
  let exponent ← match rest with
    | [] => some 0
    | c :: more => if c == 'e' || c == 'E' then readExponent? more else none
  some (digitsValue (whole ++ fraction), exponent - fraction.length)

def readFloat? (cs : List Char) : Option Double :=
  let signed (negative : Bool) (cs : List Char) :=
    (readDecimal? cs).map fun (d, e) => Double.ofDecimal negative d e
  match cs with
  | '-' :: rest => signed true rest
  | '+' :: rest => signed false rest
  | _ => signed false cs

end BundleInstaller.Decimal
