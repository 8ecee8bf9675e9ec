/-!
# UTF-8

Bytes are lists of octets and text is a list of characters.  `encode` writes text as UTF-8,
`decode?` reads it back where it is well formed, and `decodeLossy` reads any bytes: each maximal
piece that starts no character becomes one replacement character.

`scan` is the one place that knows which octets form a character; both readers are folds of it.
-/

namespace BundleInstaller

/-- A string of octets: what is fetched, rendered, posted and split. -/
abbrev Bytes := List UInt8

namespace Text.Utf8

def encodeChar (c : Char) : Bytes :=
  let n := c.toNat
  if n < 0x80 then [n.toUInt8]
  else if n < 0x800 then [(0xC0 + n / 64).toUInt8, (0x80 + n % 64).toUInt8]
  else if n < 0x10000 then
    [(0xE0 + n / 4096).toUInt8, (0x80 + n / 64 % 64).toUInt8, (0x80 + n % 64).toUInt8]
  else
    [(0xF0 + n / 262144).toUInt8, (0x80 + n / 4096 % 64).toUInt8, (0x80 + n / 64 % 64).toUInt8,
      (0x80 + n % 64).toUInt8]

def encode (s : List Char) : Bytes := s.flatMap encodeChar

def ofString (s : String) : Bytes := encode s.toList

/-- What stands at the front of a byte string: a character, or octets that start none. -/
inductive Piece where
  /-- A character that takes one octet and `more` others. -/
  | char (c : Char) (more : Nat)
  /-- The first octet and `more` others are part of no character. -/
  | junk (more : Nat)
  /-- The first octet and `more` others start a character that the end of the bytes cuts off. -/
  | cut (more : Nat)
  deriving Repr, DecidableEq

/-- The octets that may stand second after `lead`, and how many follow it in all; `none` if no
character of more than one octet starts with `lead`. -/
def tailOf (lead : UInt8) : Option (UInt8 × UInt8 × Nat) :=
  if lead < 0xC2 then none
  else if lead < 0xE0 then some (0x80, 0xBF, 1)
  else if lead = 0xE0 then some (0xA0, 0xBF, 2)
  else if lead = 0xED then some (0x80, 0x9F, 2)
  else if lead < 0xF0 then some (0x80, 0xBF, 2)
  else if lead = 0xF0 then some (0x90, 0xBF, 3)
  else if lead < 0xF4 then some (0x80, 0xBF, 3)
  else if lead = 0xF4 then some (0x80, 0x8F, 3)
  else none

/-- Reads `left` further octets of a character whose bits so far are `bits`, the next of them in
`lo` to `hi`; `seen` octets after the first have been read. -/
def scanTail (bits : Nat) (lo hi : UInt8) (seen : Nat) : Nat → Bytes → Piece
  | 0, _ => .char (Char.ofNat bits) seen
  | _ + 1, [] => .cut seen
  | left + 1, b :: rest =>
    if lo ≤ b ∧ b ≤ hi then
      scanTail (bits * 64 + b.toNat % 64) 0x80 0xBF (seen + 1) left rest
    else .junk seen

/-- The piece at the front of `lead :: rest`. -/
def scan (lead : UInt8) (rest : Bytes) : Piece :=
  if lead < 0x80 then .char (Char.ofNat lead.toNat) 0
  else match tailOf lead with
    | none => .junk 0
    | some (lo, hi, left) =>
      let mask := if left = 1 then 32 else if left = 2 then 16 else 8
      scanTail (lead.toNat % mask) lo hi 0 left rest

/-- The character that stands for octets that are no UTF-8. -/
def replacement : Char := '\uFFFD'

/-- Reads any bytes as text, with one replacement character for each piece that is none. -/
def decodeLossy : Bytes → List Char
  | [] => []
  | b :: rest =>
    match scan b rest with
    | .char c more => c :: decodeLossy (rest.drop more)
    | .junk more => replacement :: decodeLossy (rest.drop more)
    | .cut _ => [replacement]
termination_by bs => bs.length
decreasing_by all_goals simp only [List.length_drop, List.length_cons]; omega

/-- Where bytes stop being UTF-8: the offset, and the length of the piece there, or `none` where
the bytes end inside a character. -/
structure Fault where
  /-- How many octets before the fault are well formed. -/
  offset : Nat
  /-- The length of the piece that is no character; `none` if the end cuts a character off. -/
  width : Option Nat
  deriving Repr, DecidableEq

def Fault.message (f : Fault) : String :=
  match f.width with
  | some n => "invalid utf-8 sequence of " ++ toString n ++ " bytes from index " ++ toString f.offset
  | none => "incomplete utf-8 byte sequence from index " ++ toString f.offset

/-- Reads well-formed UTF-8; `offset` octets stand before `bs`. -/
def decodeFrom (offset : Nat) : (bs : Bytes) → Except Fault (List Char)
  | [] => .ok []
  | b :: rest =>
    match scan b rest with
    | .char c more => (decodeFrom (offset + 1 + more) (rest.drop more)).map (c :: ·)
    | .junk more => .error ⟨offset, some (more + 1)⟩
    | .cut _ => .error ⟨offset, none⟩
termination_by bs => bs.length
decreasing_by all_goals simp only [List.length_drop, List.length_cons]; omega

/-- Reads bytes as a string; the fault says where they are no UTF-8. -/
def decode (bs : Bytes) : Except Fault String := (decodeFrom 0 bs).map String.ofList

def decode? (bs : Bytes) : Option String := (decode bs).toOption

def toStringLossy (bs : Bytes) : String := String.ofList (decodeLossy bs)

end Text.Utf8
end BundleInstaller
