import BundleInstaller.Yaml.Scalar

/-!
# How a text is written in YAML

A text is written plain where it reads back as the same text, else between single quotes, and
between double quotes where it holds characters that only an escape can write.  A text of several
lines is written as a literal block where its lines can stand as they are.
`Features.of` finds out what a text holds, and `styleOf` chooses by it.
-/

namespace BundleInstaller.Yaml

/-- Whether a character may stand in a scalar without an escape. -/
def isPrintable (c : Char) : Bool :=
  let n := c.toNat
  n == 0xA || (0x20 ≤ n && n ≤ 0x7E) || (0xA0 ≤ n && n != 0xFEFF && n != 0xFFFE && n != 0xFFFF)

/-- What a text holds that bears on how it can be written. -/
structure Features where
  multiline : Bool
  /-- What would not be read as part of a plain scalar. -/
  indicator : Bool
  special : Bool
  blankEnd : Bool
  spaceLast : Bool
  breakSpace : Bool
  spaceBreak : Bool
  deriving Repr

namespace Features

/-- A character that no plain scalar starts with. -/
def isFirstIndicator (c : Char) : Bool := "#,[]\x7b\x7d&*!|>'\"%@`".toList.contains c

/-- Whether `c` before `rest`, at the front of a text or after `last`, is an indicator. -/
def isIndicator (last : Option Char) (c : Char) (rest : List Char) : Bool :=
  let blankNext := startsBlank rest
  match last with
  | none =>
    isFirstIndicator c || ((c == '?' || c == ':' || c == '-') && blankNext)
  | some last =>
    (c == ':' && blankNext) || (c == '#' && (isSpace last || isBreak last))

/-- Whether a text starts like a document marker. -/
def startsLikeMarker : List Char → Bool
  | '-' :: '-' :: '-' :: _ => true
  | '.' :: '.' :: '.' :: _ => true
  | _ => false

/-- The features of the rest of a text after `last`. -/
def scan (f : Features) (last : Option Char) : List Char → Features
  | [] => f
  | c :: rest =>
    let atEnd := rest.isEmpty
    let atStart := last.isNone
    let afterBreak := (last.map isBreak).getD false
    let blank := c == ' ' || isBreak c
    scan
      { multiline := f.multiline || isBreak c
        indicator := f.indicator || isIndicator last c rest
        special := f.special || !isPrintable c
        blankEnd := f.blankEnd || (blank && (atStart || atEnd))
        spaceLast := f.spaceLast || (c == ' ' && atEnd)
        breakSpace := f.breakSpace || (c == ' ' && afterBreak)
        spaceBreak := f.spaceBreak || (isBreak c && last == some ' ') }
      (some c) rest

def of (s : String) : Features :=
  scan ⟨false, startsLikeMarker s.toList, false, false, false, false, false⟩ none s.toList

/-- Whether the text can be written plain in a block. -/
def allowsPlain (f : Features) : Bool :=
  !(f.multiline || f.indicator || f.special || f.blankEnd || f.breakSpace || f.spaceBreak)

/-- Whether the text can be written between single quotes. -/
def allowsSingle (f : Features) : Bool := !(f.special || f.breakSpace || f.spaceBreak)

/-- Whether the text can be written as a literal block. -/
def allowsBlock (f : Features) : Bool := !(f.special || f.spaceBreak || f.spaceLast)

end Features

/-- How a text should be written so that it reads back as a text. -/
def wishedStyle (s : String) : ScalarStyle :=
  if s.toList.contains '\n' then .literal
  else if Meaning.of s != .text || Meaning.isPadded s.toList then .single
  else .plain

/-- How a text is written; `asKey` in front of the colon of a simple key. -/
def styleOf (s : String) (asKey : Bool) : ScalarStyle :=
  let f := Features.of s
  let inQuotes := if f.allowsSingle then ScalarStyle.single else .double
  if asKey && f.multiline then .double
  else match wishedStyle s with
    | .literal => if f.allowsBlock && !asKey && !s.isEmpty then .literal else .double
    | .single => inQuotes
    | _ => if f.allowsPlain then .plain else inQuotes

end BundleInstaller.Yaml
