/-!
# Places in a YAML text

A `Mark` counts characters, lines and columns from zero; a `Place` is a mark together with the
text that follows it.  Line breaks are the five of YAML 1.1: `takeBreak?` reads one and gives the
character that stands for it in a scalar, a line feed for all but the two Unicode separators.
-/

namespace BundleInstaller.Yaml

/-- How many characters stand before a place, and its line and column. -/
structure Mark where
  index : Nat
  line : Nat
  column : Nat
  deriving DecidableEq, Repr, Inhabited

namespace Mark

def start : Mark := ⟨0, 0, 0⟩

def right (m : Mark) (n : Nat) : Mark := { m with index := m.index + n, column := m.column + n }

/-- After a line break of `n` characters. -/
def nextLine (m : Mark) (n : Nat) : Mark := ⟨m.index + n, m.line + 1, 0⟩

/-- The first column of the first line, which messages do not mention. -/
def isFirst (m : Mark) : Bool := m.line == 0 && m.column == 0

/-- Where, in words that follow a message; lines and columns count from one. -/
def suffix (m : Mark) : String :=
  if m.isFirst then ""
  else " at line " ++ toString (m.line + 1) ++ " column " ++ toString (m.column + 1)

end Mark

/-- A mark and the text that follows it. -/
structure Place where
  mark : Mark
  rest : List Char

/-- Line feed, carriage return, next line, line separator or paragraph separator. -/
def isBreak (c : Char) : Bool :=
  c == '\n' || c == '\r' || c == '\u0085' || c == '\u2028' || c == '\u2029'

def isSpace (c : Char) : Bool := c == ' ' || c == '\t'

/-- A letter, a digit, an underscore or a hyphen: the characters of a name. -/
def isNameChar (c : Char) : Bool := c.isAlphanum || c == '_' || c == '-'

/-- Whether a text is at its end or goes on with a line break. -/
def endsLine : List Char → Bool
  | [] => true
  | c :: _ => isBreak c

/-- Whether a text is at its end or goes on with a blank. -/
def startsBlank : List Char → Bool
  | [] => true
  | c :: _ => isSpace c || isBreak c

/-- Whether a document marker, three times `c`, stands at the front of a line. -/
def startsMarker (c : Char) : List Char → Bool
  | a :: b :: d :: rest => a == c && b == c && d == c && startsBlank rest
  | _ => false

/-- What a line break stands for in a scalar. -/
def breakMeaning (c : Char) : Char := if c == '\u2028' || c == '\u2029' then c else '\n'

/-- Reads one line break: what it stands for and how many characters it takes. -/
def takeBreak? : List Char → Option (Char × Nat)
  | '\r' :: '\n' :: _ => some ('\n', 2)
  | c :: _ => if isBreak c then some (breakMeaning c, 1) else none
  | [] => none

namespace Place

/-- Whether this place is in column zero, before a document marker. -/
def atMarker (p : Place) : Bool :=
  p.mark.column == 0 && (startsMarker '-' p.rest || startsMarker '.' p.rest)

def skip (p : Place) (n : Nat) : Place := ⟨p.mark.right n, p.rest.drop n⟩

def skipBreak (p : Place) : Place :=
  match takeBreak? p.rest with
  | some (_, n) => ⟨p.mark.nextLine n, p.rest.drop n⟩
  | none => p

/-- The characters of this line that satisfy `p`, and the place after them; `p` holds of no line
break. -/
def span (place : Place) (p : Char → Bool) : List Char × Place :=
  let taken := place.rest.takeWhile p
  (taken, place.skip taken.length)

def skipWhile (place : Place) (p : Char → Bool) : Place := (place.span p).2

/-- After the spaces and tabs, and a comment that follows them. -/
def skipComment (place : Place) : Place :=
  let place := place.skipWhile isSpace
  match place.rest with
  | '#' :: _ => place.skipWhile (!isBreak ·)
  | _ => place

end Place

end BundleInstaller.Yaml
