import BundleInstaller.Decimal.Reading
import BundleInstaller.Yaml.Fault
import BundleInstaller.Yaml.Token

/-!
# Anchors, tags and directives

A tag is a handle and a suffix; octets in it may be written as a percent sign and two hexadecimal
digits, so a suffix is a string of octets.  A directive declares the version of YAML or what a
handle stands for.
-/

namespace BundleInstaller.Yaml

namespace Tag

/-- A character that a tag may hold outside of angle brackets. -/
def isUriChar (c : Char) : Bool :=
  isNameChar c || ";/?:@&=+$.%!~*'()".toList.contains c

/-- A character that a tag may hold. -/
def isWideUriChar (c : Char) : Bool := isUriChar c || c == ',' || c == '[' || c == ']'

/-- How many octets a UTF-8 character takes by its first one, zero if none starts with it. -/
def octetWidth (n : Nat) : Nat :=
  if n < 0x80 then 1 else if n / 32 = 6 then 2 else if n / 16 = 14 then 3 else if n / 8 = 30 then 4
  else 0

/-- Reads an octet written as a percent sign and two digits. -/
def octet? : List Char → Option Nat
  | '%' :: a :: b :: _ => do return (← Decimal.digit? 16 a) * 16 + (← Decimal.digit? 16 b)
  | _ => none

/-- Reads the tag characters at a place.  `left` octets of a character written with percent signs
are still due; `octets` was read, the last first. -/
def readUri (activity : Activity) (since : Mark) (wide : Bool) (left : Nat) (octets : Bytes)
    (mark : Mark) : (rest : List Char) → Except Fault (Bytes × Place)
  | [] =>
    if left = 0 then .ok (octets.reverse, ⟨mark, []⟩)
    else .error (.shape .noUriOctet mark (some (activity, since)))
  | c :: rest =>
    if left ≠ 0 ∨ c = '%' then
      match octet? (c :: rest) with
      | none => .error (.shape .noUriOctet mark (some (activity, since)))
      | some n =>
        let more := if left = 0 then octetWidth n else if n / 64 = 2 then left else 0
        if more = 0 then
          .error (.shape (if left = 0 then .badUriLead else .badUriTail) mark
            (some (activity, since)))
        else
          readUri activity since wide (more - 1) (n.toUInt8 :: octets) (mark.right 3) (rest.drop 2)
    else if if wide then isWideUriChar c else isUriChar c then
      readUri activity since wide 0 ((Text.Utf8.encodeChar c).reverse ++ octets) (mark.right 1) rest
    else .ok (octets.reverse, ⟨mark, c :: rest⟩)
termination_by rest => rest.length
decreasing_by all_goals simp only [List.length_drop, List.length_cons]; omega

/-- Reads one or more tag characters. -/
def uri (activity : Activity) (since : Mark) (wide : Bool) (place : Place) :
    Except Fault (Bytes × Place) := do
  let (octets, next) ← readUri activity since wide 0 [] place.mark place.rest
  if next.mark.index = place.mark.index then
    throw (.shape .noUri place.mark (some (activity, since)))
  return (octets, next)

/-- Reads a name between two exclamation marks, where the second may be missing. -/
def handle (activity : Activity) (since : Mark) (place : Place) :
    Except Fault (List Char × Place) := do
  if place.rest.head? != some '!' then
    throw (.shape .noBang place.mark (some (activity, since)))
  let (name, place) := (place.skip 1).span isNameChar
  if place.rest.head? == some '!' then return ('!' :: name ++ ['!'], place.skip 1)
  else return ('!' :: name, place)

/-- The shortest handle. -/
def bang : List Char := ['!']

/-- Whether a handle ends with a second exclamation mark. -/
def isClosed (handle : List Char) : Bool := 1 < handle.length && handle.getLast? == some '!'

/-- Reads the handle and the suffix of a tag that is not between angle brackets. -/
def shorthand (since : Mark) (place : Place) : Except Fault (List Char × Bytes × Place) := do
  let (found, next) ← handle .tag since place
  if isClosed found then
    let (suffix, next) ← uri .tagUri since false next
    return (found, suffix, next)
  else
    -- what looked like a handle belongs to the suffix
    let (more, next) ← readUri .tagUri since false 0 [] next.mark next.rest
    let suffix := Text.Utf8.encode (found.drop 1) ++ more
    if suffix.isEmpty then return ([], Text.Utf8.encode bang, next)
    else return (bang, suffix, next)

end Tag

def Place.tag (place : Place) (inFlow : Bool) : Except Fault (String × Bytes × Place) := do
  let since := place.mark
  let (handle, suffix, next) ←
    match place.rest with
    | '!' :: '<' :: _ => do
      let (suffix, next) ← Tag.uri .tagUri since true (place.skip 2)
      if next.rest.head? != some '>' then
        throw (.shape .noTagEnd next.mark (some (.tag, since)))
      pure ([], suffix, next.skip 1)
    | _ => Tag.shorthand since place
  if startsBlank next.rest || (inFlow && next.rest.head? == some ',') then
    return (String.ofList handle, suffix, next)
  throw (.shape .noBlankOrBreak next.mark (some (.tag, since)))

/-- Whether a text may follow the name of an anchor. -/
def mayFollowName (rest : List Char) : Bool :=
  startsBlank rest || (rest.head?.map fun c => "?:,]\x7d%@`".toList.contains c).getD false

def Place.name (place : Place) (activity : Activity) : Except Fault (String × Place) :=
  let (name, next) := (place.skip 1).span isNameChar
  if name.isEmpty || !mayFollowName next.rest then
    .error (.shape .noName next.mark (some (activity, place.mark)))
  else .ok (String.ofList name, next)

namespace Directive

/-- Reads a number of at most nine digits; the place of a tenth digit is the fault. -/
def number (since : Mark) (place : Place) : Except Fault (Nat × Place) := do
  let (digits, next) := place.span Char.isDigit
  if 9 < digits.length then
    throw (.shape .longVersion (place.mark.right 9) (some (.versionDirective, since)))
  match Decimal.readNat? 10 digits with
  | some n => return (n, next)
  | none => throw (.shape .noVersion place.mark (some (.versionDirective, since)))

/-- Reads two numbers with a point between them. -/
def version (since : Mark) (place : Place) : Except Fault (TokenKind × Place) := do
  let (major, next) ← number since (place.skipWhile isSpace)
  if next.rest.head? != some '.' then
    throw (.shape .noVersionDot next.mark (some (.versionDirective, since)))
  let (minor, next) ← number since (next.skip 1)
  return (.version major minor, next)

/-- Reads a handle and what it stands for. -/
def tagHandle (since : Mark) (place : Place) : Except Fault (TokenKind × Place) := do
  let (handle, next) ← Tag.handle .tagDirective since (place.skipWhile isSpace)
  if handle ≠ Tag.bang ∧ !Tag.isClosed handle then
    throw (.shape .noBang next.mark (some (.tagDirectiveHandle, since)))
  if !(next.rest.head?.map isSpace).getD false then
    throw (.shape .noBlank next.mark (some (.tagDirectiveValue, since)))
  let (opening, next) ← Tag.uri .tagDirectiveUri since true (next.skipWhile isSpace)
  if !startsBlank next.rest then
    throw (.shape .noBlankOrBreak next.mark (some (.tagDirectiveValue, since)))
  return (.tagHandle (String.ofList handle) opening, next)

end Directive

/-- Reads the directive at a place, and the rest of its line; the second mark is the end of the
directive itself. -/
def Place.directive (place : Place) : Except Fault (TokenKind × Mark × Place) := do
  let since := place.mark
  let (name, next) := (place.skip 1).span isNameChar
  if name.isEmpty then throw (.shape .noDirectiveName next.mark (some (.directive, since)))
  if !startsBlank next.rest then
    throw (.shape .badDirectiveName next.mark (some (.directive, since)))
  let (kind, next) ←
    if name == "YAML".toList then Directive.version since next
    else if name == "TAG".toList then Directive.tagHandle since next
    else throw (.shape .unknownDirective next.mark (some (.directive, since)))
  let stop := next.mark
  let next := next.skipComment
  if !endsLine next.rest then throw (.shape .noLineEnd next.mark (some (.directive, since)))
  return (kind, stop, next.skipBreak)

end BundleInstaller.Yaml
