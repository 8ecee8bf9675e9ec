import BundleInstaller.Text.CombiningClass
import BundleInstaller.Text.Composition.Table

/-!
# Composed text

One letter may be written in several ways: as one character, or as a letter and the marks on it, in
any order of marks at different places.  `compose` brings a text into the one form that all of them
share, in which as few characters as possible are used.
-/

namespace BundleInstaller.Text

namespace Composition

/-! ## Syllables of Hangul

A syllable has a first consonant, a vowel and perhaps a last consonant; its number follows from
theirs. -/

/-- The first syllable. -/
def syllables : Nat := 0xAC00

/-- The first of the first consonants, of which there are 19. -/
def leads : Nat := 0x1100

/-- The first of the vowels, of which there are 21. -/
def vowels : Nat := 0x1161

/-- The place before the first of the last consonants, of which there are 27. -/
def tails : Nat := 0x11A7

def syllable? (a b : Nat) : Option Nat :=
  if leads ≤ a ∧ a < leads + 19 ∧ vowels ≤ b ∧ b < vowels + 21 then
    some (syllables + ((a - leads) * 21 + (b - vowels)) * 28)
  else if syllables ≤ a ∧ a < syllables + 11172 ∧ (a - syllables) % 28 = 0 ∧ tails < b ∧
      b < tails + 28 then
    some (a + (b - tails))
  else none

def syllableParts? (n : Nat) : Option (List Nat) :=
  if syllables ≤ n ∧ n < syllables + 11172 then
    let i := n - syllables
    let parts := [leads + i / 588, vowels + i % 588 / 28]
    some (if i % 28 = 0 then parts else parts ++ [tails + i % 28])
  else none

/-! ## Taking apart -/

/-- How often a character can be taken apart at most. -/
def maxDepth : Nat := 8

/-- The characters that a character is made of, taken apart at most `depth` times. -/
def takeApart : (depth : Nat) → Char → List Char
  | 0, c => [c]
  | depth + 1, c =>
    match syllableParts? c.toNat with
    | some parts => parts.map Char.ofNat
    | none => match pairs.find? (·.whole == c) with
      | some p => takeApart depth p.first ++ [p.second]
      | none => [c]

/-- Puts a character behind others, the last of which is the first of the list: a mark goes before
those of a higher class. -/
def insertMark (c : Char) : List Char → List Char
  | [] => [c]
  | last :: front =>
    if combiningClass c ≠ 0 ∧ combiningClass c < combiningClass last then
      last :: insertMark c front
    else c :: last :: front

/-- A text taken apart, with the marks of each letter in the order of their classes. -/
def decompose (s : List Char) : List Char :=
  ((s.flatMap (takeApart maxDepth)).foldl (fun acc c => insertMark c acc) []).reverse

/-! ## Putting together -/

/-- The character that stands for two. -/
def join? (a b : Char) : Option Char :=
  match syllable? a.toNat b.toNat with
  | some n => some (Char.ofNat n)
  | none => (pairs.find? fun p => p.first == a && p.second == b).map (·.whole)

/-- A text that is being put together: what is done, the letter that marks may still be joined to,
and the marks that were not joined to it, the last ones first. -/
structure Assembly where
  done : List Char
  letter? : Option Char
  marks : List Char

namespace Assembly

/-- All characters so far, the last ones first. -/
def all (a : Assembly) : List Char := a.marks ++ a.letter?.toList ++ a.done

/-- Takes the next character.  A mark is joined to the letter unless one of the same or a higher
class stands between them. -/
def add (a : Assembly) (c : Char) : Assembly :=
  let isFree := match a.marks with
    | [] => true
    | last :: _ => decide (combiningClass last < combiningClass c)
  let joined? := match a.letter? with
    | some letter => if isFree then join? letter c else none
    | none => none
  match joined? with
  | some whole => { a with letter? := some whole }
  | none =>
    if combiningClass c = 0 then ⟨a.all, some c, []⟩
    else { a with marks := c :: a.marks }

end Assembly
end Composition

open Text.Composition in
def compose (s : List Char) : List Char :=
  ((decompose s).foldl Assembly.add ⟨[], none, []⟩).all.reverse

end BundleInstaller.Text
