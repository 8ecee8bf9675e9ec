import BundleInstaller.Text.Utf8

/-!
# Percent encoding

What may not stand in a part of a URL is written as its octets in UTF-8, each as a percent sign and
two hexadecimal digits.  Which characters those are differs from part to part: `isControl` are
encoded everywhere, and each part adds some more.
-/

namespace BundleInstaller.Url

def hexDigit (n : Nat) : Char := Char.ofNat (if n < 10 then n + 48 else n + 55)

def percentOctet (b : UInt8) : List Char := ['%', hexDigit (b.toNat / 16), hexDigit (b.toNat % 16)]

/-- What is encoded everywhere: what is no ASCII, or shows no glyph. -/
def isControl (c : Char) : Bool := c.toNat < 0x20 || 0x7E < c.toNat

def inFragment (c : Char) : Bool := isControl c || " \"<>`".toList.contains c

def inPath (c : Char) : Bool := inFragment c || "#?\x7b\x7d".toList.contains c

def inUserinfo (c : Char) : Bool := inPath c || "/:;=@[\\]^|".toList.contains c

/-- What is encoded in a query; the schemes with rules of their own also encode the apostrophe. -/
def inQuery (special : Bool) (c : Char) : Bool :=
  isControl c || " \"#<>".toList.contains c || (special && c == '\'')

def percentEncode (set : Char → Bool) (s : List Char) : List Char :=
  s.flatMap fun c => if set c then (Text.Utf8.encodeChar c).flatMap percentOctet else [c]

def hexValue? (n : Nat) : Option Nat :=
  if 48 ≤ n ∧ n ≤ 57 then some (n - 48)
  else if 97 ≤ n ∧ n ≤ 102 then some (n - 87)
  else if 65 ≤ n ∧ n ≤ 70 then some (n - 55)
  else none

/-- Octets with the encoded ones decoded; a percent sign without two digits stands for itself. -/
def percentDecode : Bytes → Bytes
  | 37 :: a :: b :: rest =>
    match hexValue? a.toNat, hexValue? b.toNat with
    | some x, some y => (x * 16 + y).toUInt8 :: percentDecode rest
    | _, _ => 37 :: percentDecode (a :: b :: rest)
  | b :: rest => b :: percentDecode rest
  | [] => []

end BundleInstaller.Url
