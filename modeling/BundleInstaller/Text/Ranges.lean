import BundleInstaller.Text.Words

/-!
# Ranges of characters

A property of characters is given by the ranges of those that have it.  `Ranges.read` reads ranges
from words such as `41-5a` and `e9`, the numbers in hexadecimal; `Ranges.has` looks a character up.
-/

namespace BundleInstaller.Text

/-- Ranges in ascending order, each with its first and its last number. -/
abbrev Ranges := Array (Nat × Nat)

def readHex (ds : List Char) : Nat :=
  ds.foldl (fun n d => n * 16 + (if d.isDigit then d.toNat - 48 else d.toNat - 87)) 0

namespace Ranges

/-- Whether one of the ranges from `low` up to `high` holds `n`, by halving at most `steps`
times. -/
def inRanges (ranges : Ranges) (n low high : Nat) : (steps : Nat) → Bool
  | 0 => false
  | steps + 1 =>
    if low < high then
      let middle := (low + high) / 2
      let (first, last) := ranges.getD middle (0, 0)
      if n < first then inRanges ranges n low middle steps
      else if last < n then inRanges ranges n (middle + 1) high steps
      else true
    else false

def has (ranges : Ranges) (n : Nat) : Bool := inRanges ranges n 0 ranges.size 24

def readRange (word : List Char) : Nat × Nat :=
  match splitOn '-' word with
  | [first, last] => (readHex first, readHex last)
  | _ => (readHex word, readHex word)

/-- Reads the ranges on some lines. -/
def read (lines : List String) : Ranges :=
  (lines.flatMap fun line => (splitOn ' ' line.toList).map readRange).toArray

end Ranges
end BundleInstaller.Text
