/-!
# Blank characters

Two notions of blank are in use and they differ: `isBlank` is the Unicode property `White_Space`,
which decides whether a URL is empty, and `isAsciiBlank` is the set of five ASCII blanks, which
decides whether a rendered chunk is empty.  The vertical tab is blank in the first sense only.
-/

namespace BundleInstaller.Text

/-- The Unicode property `White_Space`. -/
def isBlank (c : Char) : Bool :=
  let n := c.toNat
  (9 ≤ n && n ≤ 13) || n == 0x20 || n == 0x85 || n == 0xA0 || n == 0x1680 ||
    (0x2000 ≤ n && n ≤ 0x200A) || n == 0x2028 || n == 0x2029 || n == 0x202F || n == 0x205F ||
    n == 0x3000

/-- Space, tab, line feed, form feed and carriage return. -/
def isAsciiBlank (b : UInt8) : Bool :=
  b == 0x20 || b == 0x09 || b == 0x0A || b == 0x0C || b == 0x0D

def trimStart (s : List Char) : List Char := s.dropWhile isBlank

/-- Text without the blanks at either end. -/
def trim (s : List Char) : List Char := (trimStart (trimStart s).reverse).reverse

end BundleInstaller.Text
