import BundleInstaller.Yaml.Fault
import BundleInstaller.Yaml.Token.Gap

/-!
# Plain scalars

A plain scalar has no quotes.  It ends before a colon with a blank after it, before a comment, at a
document marker, at a line that is indented less than `indent`, and in a flow collection before a
comma or a bracket.
-/

namespace BundleInstaller.Yaml

structure Plain where
  text : String
  stop : Mark
  /-- Whether line breaks follow the last word. -/
  broken : Bool
  next : Place

namespace Plain

/-- A character that ends a plain scalar in a flow collection. -/
def endsFlow (c : Char) : Bool :=
  c == ',' || c == '[' || c == ']' || c == '\x7b' || c == '\x7d'

/-- Whether a colon before `rest` is ambiguous in a flow collection. -/
def isAmbiguous : List Char → Bool
  | c :: _ => endsFlow c || c == '?'
  | [] => false

/-- Whether the scalar ends before `c :: rest`, after the blanks `gap`. -/
def isEnd (flow : Bool) (indent : Nat) (gap : Gap) (place : Place) : Bool :=
  (gap.broken && !flow && place.mark.column < indent) || place.atMarker ||
    (!gap.isNone && place.rest.head? == some '#')

/-- Reads on: `text` was read, last character first, up to `stop`, and then the blanks `gap`. -/
def read (flow : Bool) (indent : Nat) (since : Mark) (text : List Char) (stop : Mark) (gap : Gap)
    (mark : Mark) : List Char → Except Fault Plain
  | [] => .ok ⟨String.ofList text.reverse, stop, gap.broken, ⟨mark, []⟩⟩
  | '\r' :: '\n' :: rest => read flow indent since text stop (gap.addBreak '\n') (mark.nextLine 2) rest
  | c :: rest =>
    let finish := .ok ⟨String.ofList text.reverse, stop, gap.broken, ⟨mark, c :: rest⟩⟩
    if isBreak c then
      read flow indent since text stop (gap.addBreak (breakMeaning c)) (mark.nextLine 1) rest
    else if isSpace c then
      if gap.broken && mark.column < indent && c == '\t' then
        .error (.shape .tabInPlain mark (some (.plain, since)))
      else read flow indent since text stop (gap.addSpace c) (mark.right 1) rest
    else if isEnd flow indent gap ⟨mark, c :: rest⟩ then finish
    else if flow && c == ':' && isAmbiguous rest then
      .error (.shape .colonInFlow mark (some (.plain, since)))
    else if (c == ':' && startsBlank rest) || (flow && endsFlow c) then finish
    else
      read flow indent since (c :: gap.addTo text) (mark.right 1) .none (mark.right 1) rest

end Plain

def Place.plain (place : Place) (flow : Bool) (indent : Nat) : Except Fault Plain :=
  Plain.read flow indent place.mark [] place.mark .none place.mark place.rest

end BundleInstaller.Yaml
