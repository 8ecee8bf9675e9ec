import BundleInstaller.Yaml.Fault

/-!
# Block scalars

A block scalar is a header line and the more indented lines after it.  The literal style keeps its
line breaks; the folded style turns one between two lines that start with no blank into a space.
The header may say how far the lines are indented, and whether the line breaks at the end are
dropped (`-`), all kept (`+`) or kept once.
-/

namespace BundleInstaller.Yaml

/-- What becomes of the line breaks at the end of a block scalar. -/
inductive Chomp where
  | strip
  | clip
  | keep
  deriving DecidableEq, Repr

namespace BlockText

def chomp? : List Char → Option Chomp
  | '+' :: _ => some .keep
  | '-' :: _ => some .strip
  | _ => none

/-- Reads an indentation digit, zero if there is none. -/
def indentDigit (since : Mark) (place : Place) : Except Fault (Nat × Place) :=
  match place.rest with
  | c :: _ =>
    if c == '0' then .error (.shape .zeroIndent place.mark (some (.blockText, since)))
    else if c.isDigit then .ok (c.toNat - 48, place.skip 1)
    else .ok (0, place)
  | [] => .ok (0, place)

/-- Reads the marks after the style character, in either order. -/
def header (since : Mark) (place : Place) : Except Fault (Chomp × Nat × Place) :=
  match chomp? place.rest with
  | some chomp => do
    let (indent, place) ← indentDigit since (place.skip 1)
    return (chomp, indent, place)
  | none => do
    let (indent, place) ← indentDigit since place
    match chomp? place.rest with
    | some chomp => return (chomp, indent, place.skip 1)
    | none => return (.clip, indent, place)

/-- The empty lines before a line with text. -/
structure Lead where
  breaks : List Char
  /-- The largest indentation. -/
  widest : Nat
  stop : Mark
  /-- How many characters were read, and the mark after them. -/
  taken : Nat
  mark : Mark

/-- Reads empty lines and the indentation of the next one, up to column `indent`; zero stands for
an indentation not known yet. -/
def lead (indent : Nat) (since : Mark) (l : Lead) : List Char → Except Fault Lead
  | '\r' :: '\n' :: rest =>
    let next := l.mark.nextLine 2
    lead indent since ⟨'\n' :: l.breaks, max l.widest l.mark.column, next, l.taken + 2, next⟩ rest
  | c :: rest =>
    let inIndent := indent = 0 || l.mark.column < indent
    if c == ' ' && inIndent then
      lead indent since { l with taken := l.taken + 1, mark := l.mark.right 1 } rest
    else if c == '\t' && inIndent then
      .error (.shape .tabIndent l.mark (some (.blockText, since)))
    else if isBreak c then
      let next := l.mark.nextLine 1
      lead indent since
        ⟨breakMeaning c :: l.breaks, max l.widest l.mark.column, next, l.taken + 1, next⟩ rest
    else .ok { l with widest := max l.widest l.mark.column }
  | [] => .ok { l with widest := max l.widest l.mark.column }

def leadAt (indent : Nat) (since : Mark) (place : Place) : Except Fault Lead :=
  lead indent since ⟨[], 0, place.mark, 0, place.mark⟩ place.rest

/-- What the lines of a block scalar amount to: the text, last character first, the last line
break, and the breaks of the empty lines at the end. -/
structure Lines where
  text : List Char
  lineBreak : List Char
  breaks : List Char
  stop : Mark
  next : Place

/-- The line breaks before a line: in the folded style one between lines that start with no blank
is a space, or nothing before empty lines. -/
def joint (literal afterBlank beforeBlank : Bool) (lineBreak breaks : List Char) : List Char :=
  if !literal && lineBreak == ['\n'] && !afterBlank && !beforeBlank then
    if breaks.isEmpty then [' '] else breaks
  else breaks ++ lineBreak

/-- Reads the lines indented by `indent`; `afterBlank` tells whether the line before started with a
blank. -/
def readLines (literal : Bool) (indent : Nat) (since : Mark) (afterBlank : Bool)
    (text lineBreak breaks : List Char) (stop mark : Mark) :
    (rest : List Char) → Except Fault Lines
  | [] => .ok ⟨text, lineBreak, breaks, stop, ⟨mark, []⟩⟩
  | c :: rest =>
    if mark.column = indent then
      let startsWithBlank := isSpace c
      let text := joint literal afterBlank startsWithBlank lineBreak breaks ++ text
      let line := rest.takeWhile (!isBreak ·)
      let mark := mark.right (line.length + 1)
      let text := line.reverse ++ c :: text
      let (lineBreak, width) := match takeBreak? (rest.drop line.length) with
        | some (b, n) => ([b], n)
        | none => ([], 0)
      let mark := if lineBreak.isEmpty then mark else mark.nextLine width
      let tail := (rest.drop line.length).drop width
      match leadAt indent since ⟨mark, tail⟩ with
      | .error fault => .error fault
      | .ok l =>
        readLines literal indent since startsWithBlank text lineBreak l.breaks l.stop l.mark
          (tail.drop l.taken)
    else .ok ⟨text, lineBreak, breaks, stop, ⟨mark, c :: rest⟩⟩
termination_by rest => rest.length
decreasing_by simp only [List.length_drop, List.length_cons]; omega

def Lines.chomped (l : Lines) (chomp : Chomp) : String :=
  String.ofList <| List.reverse <|
    match chomp with
    | .strip => l.text
    | .clip => l.lineBreak ++ l.text
    | .keep => l.breaks ++ l.lineBreak ++ l.text

end BlockText

/-- Reads the block scalar whose style character stands at a place, in a block indented by
`outer`, which is `-1` outside of every block. -/
def Place.blockText (place : Place) (literal : Bool) (outer : Int) :
    Except Fault (String × Mark × Place) := do
  let since := place.mark
  let (chomp, increment, place) ← BlockText.header since (place.skip 1)
  let place := place.skipComment
  if !endsLine place.rest then
    throw (.shape .noLineEnd place.mark (some (.blockText, since)))
  let place := place.skipBreak
  let given := if increment = 0 then 0 else outer.toNat + increment
  let l ← BlockText.leadAt given since place
  let indent := if given = 0 then max (max l.widest (outer + 1).toNat) 1 else given
  let lines ← BlockText.readLines literal indent since false [] [] l.breaks l.stop l.mark
    (place.rest.drop l.taken)
  return (lines.chomped chomp, lines.stop, lines.next)

end BundleInstaller.Yaml
