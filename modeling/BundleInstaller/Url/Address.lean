import BundleInstaller.Text.Words
import BundleInstaller.Url.Encoding

/-!
# Addresses in URLs

A host that ends in a number is an IPv4 address: one to four numbers, decimal, octal or
hexadecimal, of which the last one fills the octets that are left.  A host in brackets is an IPv6
address: eight pieces of four hexadecimal digits, where one run of zeros may be left out and the
last two pieces may be written as an IPv4 address.
-/

namespace BundleInstaller.Url

open Text (splitOn)

/-! ## IPv4 -/

/-- Digits as a number of the given base. -/
def number? (base : Nat) (ds : List Char) : Option Nat :=
  ds.foldlM (fun n c => do
    let d ← hexValue? c.toNat
    if d < base then some (n * base + d) else none) 0

def ipv4Number? : List Char → Option Nat
  | [] => none
  | '0' :: 'x' :: ds | '0' :: 'X' :: ds => number? 16 ds
  | '0' :: d :: ds => number? 8 (d :: ds)
  | ds => number? 10 ds

/-- Whether a host has to be an IPv4 address. -/
def endsInNumber (host : List Char) : Bool :=
  let last? := match (splitOn '.' host).reverse with
    | [] :: [] => none
    | [] :: last :: _ => some last
    | last :: _ => some last
    | [] => none
  match last? with
  | some last => (!last.isEmpty && last.all Char.isDigit) || (ipv4Number? last).isSome
  | none => false

def ipv4? (host : List Char) : Option Nat := do
  let words := splitOn '.' host
  let words := if words.getLast? = some [] then words.dropLast else words
  let numbers ← words.mapM ipv4Number?
  let last ← numbers.getLast?
  let front := numbers.dropLast
  if 3 < front.length ∨ front.any (255 < ·) ∨ Nat.pow 256 (4 - front.length) ≤ last then none
  else some (front.zipIdx.foldl (fun n (octet, i) => n + octet * Nat.pow 256 (3 - i)) last)

def ipv4Text (n : Nat) : List Char :=
  let octet (shift : Nat) : List Char := Nat.toDigits 10 (n / Nat.pow 256 shift % 256)
  octet 3 ++ '.' :: octet 2 ++ '.' :: octet 1 ++ '.' :: octet 0

/-! ## IPv6 -/

/-- An octet of the IPv4 address at the end of an IPv6 address: no zero in front. -/
def plainOctet? (ds : List Char) : Option Nat := do
  let n ← number? 10 ds
  if ds.isEmpty ∨ 255 < n ∨ (1 < ds.length ∧ ds.head? = some '0') then none else some n

/-- The two pieces that an IPv4 address at the end of an IPv6 address stands for. -/
def tailPieces? (s : List Char) : Option (List Nat) := do
  match ← (splitOn '.' s).mapM plainOctet? with
  | [a, b, c, d] => some [a * 256 + b, c * 256 + d]
  | _ => none

def piece? (ds : List Char) : Option Nat :=
  if ds.isEmpty ∨ 4 < ds.length then none else number? 16 ds

/-- The pieces of a part of an address that leaves nothing out; only the last part may end with an
IPv4 address. -/
def pieces? (isLast : Bool) (s : List Char) : Option (List Nat) :=
  if s.isEmpty then some []
  else
    let words := splitOn ':' s
    match words.getLast? with
    | some word =>
      if isLast && word.contains '.' then do
        return (← words.dropLast.mapM piece?) ++ (← tailPieces? word)
      else words.mapM piece?
    | none => none

/-- Cuts a text at its first two colons in a row. -/
def cutGap : List Char → Option (List Char × List Char)
  | ':' :: ':' :: rest => some ([], rest)
  | c :: rest => (cutGap rest).map fun (front, back) => (c :: front, back)
  | [] => none

def ipv6? (s : List Char) : Option (List Nat) := do
  match cutGap s with
  | none =>
    let pieces ← pieces? true s
    if pieces.length = 8 then some pieces else none
  | some (front, back) =>
    let before ← pieces? false front
    let after ← pieces? true back
    let missing := 8 - (before.length + after.length)
    if missing = 0 then none else some (before ++ List.replicate missing 0 ++ after)

/-- How many zeros stand at the front. -/
def zeros (pieces : List Nat) : Nat := (pieces.takeWhile (· = 0)).length

/-- The first of the longest runs of zeros: where it starts, and its length. -/
def longestZeros (pieces : List Nat) : Nat × Nat :=
  (List.range pieces.length).foldl
    (fun best i => let n := zeros (pieces.drop i); if best.2 < n then (i, n) else best) (0, 0)

def piecesText (pieces : List Nat) : List Char :=
  List.intercalate [':'] (pieces.map (Nat.toDigits 16))

/-- An IPv6 address, with the first of the longest runs of two zeros or more left out. -/
def ipv6Text (pieces : List Nat) : List Char :=
  let (start, length) := longestZeros pieces
  if length < 2 then piecesText pieces
  else piecesText (pieces.take start) ++ [':', ':'] ++ piecesText (pieces.drop (start + length))

end BundleInstaller.Url
