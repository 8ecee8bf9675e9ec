import BundleInstaller.Text.Utf8
import BundleInstaller.Yaml.Fault

/-!
# The characters of a YAML text

A text is read from octets in blocks of at most `blockSize`.  A block with a fault in it is not
seen at all, so what stands before the fault but in the same block cannot be read either:
`Source.ofBytes` gives the characters of the blocks before it, and the fault.
-/

namespace BundleInstaller.Yaml

/-- The characters that can be read, and the fault that stands after them, if any. -/
structure Source where
  chars : List Char
  fault : Option Fault

/-- How many octets make a block. -/
def blockSize : Nat := 16384

/-- Whether a character may stand in a YAML text. -/
def isAllowed (n : Nat) : Bool :=
  n == 0x9 || n == 0xA || n == 0xD || (0x20 ≤ n && n ≤ 0x7E) || n == 0x85 ||
    (0xA0 ≤ n && n ≤ 0xD7FF) || (0xE000 ≤ n && n ≤ 0xFFFD) || (0x10000 ≤ n && n ≤ 0x10FFFF)

/-- The octets that a character takes by its first one, and the bits that one gives; none for an
octet that starts no character. -/
def leadWidth (b : UInt8) : Option (Nat × Nat) :=
  let n := b.toNat
  if n < 0x80 then some (1, n)
  else if n < 0xC0 then none
  else if n < 0xE0 then some (2, n % 32)
  else if n < 0xF0 then some (3, n % 16)
  else if n < 0xF8 then some (4, n % 8)
  else none

/-- Adds the bits of the following octets; the number of good ones before a bad one on failure. -/
def tailBits (bits : Nat) (seen : Nat) : Bytes → Except Nat Nat
  | [] => .ok bits
  | b :: rest =>
    if b.toNat / 64 = 2 then tailBits (bits * 64 + b.toNat % 64) (seen + 1) rest
    else .error seen

/-- Whether a number is written with no more octets than it needs. -/
def isShortForm (width bits : Nat) : Bool :=
  width == 1 || (width == 2 && 0x80 ≤ bits) || (width == 3 && 0x800 ≤ bits) ||
    (width == 4 && 0x10000 ≤ bits)

/-- Reads the character at the front of `lead :: rest`: the character and the number of octets
after the first. -/
def readChar (lead : UInt8) (rest : Bytes) (offset : Nat) : Except Fault (Char × Nat) :=
  match leadWidth lead with
  | none => .error (.octets .badLead offset)
  | some (width, bits) =>
    let tail := rest.take (width - 1)
    if tail.length < width - 1 then .error (.octets .incomplete offset)
    else match tailBits bits 1 tail with
      | .error seen => .error (.octets .badTail (offset + seen))
      | .ok bits =>
        if !isShortForm width bits then .error (.octets .badLength offset)
        else if (0xD800 ≤ bits ∧ bits ≤ 0xDFFF) ∨ 0x10FFFF < bits then
          .error (.octets .badCharacter offset)
        else if !isAllowed bits then .error (.octets .control offset)
        else .ok (Char.ofNat bits, width - 1)

/-- Reads on.  `seen` are the characters of earlier blocks and `block` those of this one, both with
the last first, and `blockStart` is the offset at which the block starts. -/
def Source.read (seen block : List Char) (blockStart offset : Nat) : Bytes → Source
  | [] => ⟨(block ++ seen).reverse, none⟩
  | b :: rest =>
    match readChar b rest offset with
    | .error fault =>
      -- a character that crosses the end of a block belongs to the next one
      let width := ((leadWidth b).map (·.1)).getD 1
      let visible := if blockStart + blockSize < offset + width then block ++ seen else seen
      ⟨visible.reverse, some fault⟩
    | .ok (c, more) =>
      if blockStart + blockSize < offset + more + 1 then
        Source.read (block ++ seen) [c] offset (offset + more + 1) (rest.drop more)
      else
        Source.read seen (c :: block) blockStart (offset + more + 1) (rest.drop more)
termination_by bs => bs.length
decreasing_by all_goals simp only [List.length_drop, List.length_cons]; omega

def Source.ofBytes (bs : Bytes) : Source := Source.read [] [] 0 0 bs

end BundleInstaller.Yaml
