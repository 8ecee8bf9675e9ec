import BundleInstaller.Decimal.Reading
import BundleInstaller.Yaml.Fault
import BundleInstaller.Yaml.Token.Gap

/-!
# Quoted scalars

Between single quotes a quote is written twice and nothing else is special.  Between double quotes
a backslash starts an escape: a letter for a character, a number in hexadecimal, or a line break
that stands for nothing.
-/

namespace BundleInstaller.Yaml

/-- What an escape stands for. -/
inductive Escape where
  | char (c : Char)
  /-- A number of this many hexadecimal digits follows. -/
  | number (digits : Nat)

def Escape.ofLetter? : Char → Option Escape
  | '0' => some (.char '\x00')
  | 'a' => some (.char '\x07')
  | 'b' => some (.char '\x08')
  | 't' => some (.char '\t')
  | '\t' => some (.char '\t')
  | 'n' => some (.char '\n')
  | 'v' => some (.char '\x0b')
  | 'f' => some (.char '\x0c')
  | 'r' => some (.char '\r')
  | 'e' => some (.char '\x1b')
  | ' ' => some (.char ' ')
  | '"' => some (.char '"')
  | '/' => some (.char '/')
  | '\\' => some (.char '\\')
  | 'N' => some (.char '\u0085')
  | '_' => some (.char '\u00a0')
  | 'L' => some (.char '\u2028')
  | 'P' => some (.char '\u2029')
  | 'x' => some (.number 2)
  | 'u' => some (.number 4)
  | 'U' => some (.number 8)
  | _ => none

/-- The character with the number in the first `digits` characters of a text. -/
def Escape.numbered (digits : Nat) (text : List Char) : Except Problem Char :=
  let taken := text.take digits
  match Decimal.readNat? 16 taken with
  | none => .error .noHexDigit
  | some n =>
    if taken.length < digits then .error .noHexDigit
    else if h : n.isValidChar then .ok (Char.ofNatAux n h)
    else .error .badCodePoint

/-- Reads on to the closing quote: `text` was read, last character first, and then the blanks
`gap`. -/
def readQuoted (quote : Char) (since : Mark) (text : List Char) (gap : Gap) (mark : Mark) :
    (rest : List Char) → Except Fault (String × Place)
  | [] => .error (.shape .endInQuotes mark (some (.quoted, since)))
  | c :: rest =>
    let isCrLf := c == '\r' && rest.head? == some '\n'
    if Place.atMarker ⟨mark, c :: rest⟩ then
      .error (.shape .markerInQuotes mark (some (.quoted, since)))
    else if isCrLf then
      readQuoted quote since text (gap.addBreak '\n') (mark.nextLine 2) (rest.drop 1)
    else if isBreak c then
      readQuoted quote since text (gap.addBreak (breakMeaning c)) (mark.nextLine 1) rest
    else if isSpace c then readQuoted quote since text (gap.addSpace c) (mark.right 1) rest
    else
      let text := gap.addTo text
      if c == quote then
        if quote == '\'' && rest.head? == some '\'' then
          readQuoted quote since ('\'' :: text) .none (mark.right 2) (rest.drop 1)
        else .ok (String.ofList text.reverse, ⟨mark.right 1, rest⟩)
      else if c == '\\' && quote == '"' then
        match takeBreak? rest with
        | some (_, n) =>
          readQuoted quote since text .afterEscape ((mark.right 1).nextLine n) (rest.drop n)
        | none =>
          match rest.head?.bind Escape.ofLetter? with
          | none => .error (.shape .badEscape mark (some (.escape, since)))
          | some (.char e) => readQuoted quote since (e :: text) .none (mark.right 2) (rest.drop 1)
          | some (.number digits) =>
            match Escape.numbered digits (rest.drop 1) with
            | .error problem => .error (.shape problem (mark.right 2) (some (.escape, since)))
            | .ok e =>
              readQuoted quote since (e :: text) .none (mark.right (2 + digits))
                ((rest.drop 1).drop digits)
      else readQuoted quote since (c :: text) .none (mark.right 1) rest
termination_by rest => rest.length
decreasing_by all_goals simp only [List.length_drop, List.length_cons]; omega

/-- Reads the scalar that starts with a quote at a place. -/
def Place.quoted (place : Place) (quote : Char) : Except Fault (String × Place) :=
  readQuoted quote place.mark [] .none (place.mark.right 1) (place.rest.drop 1)

end BundleInstaller.Yaml
