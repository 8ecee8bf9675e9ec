import BundleInstaller.Text.Utf8

/-!
# Targets of requests

A target says where a request goes: a path, perhaps with a query, or a whole address.  `Target.read`
accepts what may be sent as it is; nothing is encoded, so a blank is refused, but a few characters
that should have been encoded are let through.  A fragment is dropped.
-/

namespace BundleInstaller.Http

/-- Where a request goes. -/
structure Target where
  path : String
  query? : Option String
  deriving Repr, DecidableEq

/-- What may be wrong with a target. -/
inductive TargetError where
  | character
  | authority
  | format
  | tooLong
  | empty
  | schemeTooLong
  deriving Repr, DecidableEq

def TargetError.message : TargetError → String
  | character => "invalid uri character"
  | authority => "invalid authority"
  | format => "invalid format"
  | tooLong => "uri too long"
  | empty => "empty string"
  | schemeTooLong => "scheme too long"

namespace Target

/-- What is let through anywhere above ASCII, and ASCII without blanks, controls and brackets. -/
def isPlain (c : Char) : Bool := 0x20 < c.toNat && !"\"#<>?`\x7b\x7d".toList.contains c

def inPath (c : Char) : Bool := isPlain c || "\"\x7b\x7d".toList.contains c

def inQuery (c : Char) : Bool := isPlain c || "?`\x7b\x7d".toList.contains c

/-- Whether a character may stand before the path of an address. -/
def inAuthority (c : Char) : Bool := c.isAlphanum || "!$&'()*+,-.:;=@[]_~%".toList.contains c

/-- Reads a path and a query; a fragment is dropped. -/
def readPath (s : List Char) : Except TargetError Target := do
  let s := s.takeWhile (· != '#')
  let (path, rest) := s.span (· != '?')
  let query := rest.drop 1
  if !path.all inPath || !query.all inQuery then throw .character
  let query? := if rest.isEmpty then none else some (String.ofList query)
  return ⟨String.ofList path, query?⟩

/-- What must hold of brackets, colons and percent signs, from left to right. -/
structure Marks where
  colons : Nat
  opened : Bool
  closed : Bool
  percent : Bool

/-- Takes note of one more character; `none` if it may not stand here. -/
def Marks.step (m : Marks) (c : Char) : Option Marks :=
  if c == ':' then if 8 ≤ m.colons then none else some { m with colons := m.colons + 1 }
  else if c == '[' then if m.percent || m.opened then none else some { m with opened := true }
  else if c == ']' then
    if !m.opened || m.closed then none
    else some { m with colons := 0, closed := true, percent := false }
  else if c == '@' then some { m with colons := 0, percent := false }
  else if c == '%' then some { m with percent := true }
  else some m

/-- Checks what stands before the path of an address. -/
def checkMarks (m : Marks) : List Char → Except TargetError Marks
  | [] => .ok m
  | c :: rest =>
    if !inAuthority c then .error .character
    else match m.step c with
      | some m => checkMarks m rest
      | none => .error .authority

/-- Cuts an address at its path, once what stands before it is checked. -/
def cutAuthority (s : List Char) : Except TargetError (List Char × List Char) := do
  let (authority, rest) := s.span fun c => !(c == '/' || c == '?' || c == '#')
  let m ← checkMarks ⟨0, false, false, false⟩ authority
  if m.opened != m.closed || 1 < m.colons || m.percent || authority.getLast? = some '@' then
    throw .authority
  return (authority, rest)

def inScheme (c : Char) : Bool := c.isAlphanum || "+-.".toList.contains c

/-- The name of the scheme and what stands behind its two slashes, if there is a scheme. -/
def cutScheme (s : List Char) : Option (List Char × List Char) :=
  if s.length ≤ 3 then none
  else match s.span inScheme with
    | (name, ':' :: '/' :: '/' :: rest) => some (name, rest)
    | _ => none

def read (s : String) : Except TargetError Target := do
  if 65534 < s.utf8ByteSize then throw .tooLong
  match s.toList with
  | [] => throw .empty
  | '/' :: rest => readPath ('/' :: rest)
  | ['*'] => return ⟨"*", none⟩
  | [c] =>
    let (authority, _) ← cutAuthority [c]
    if authority.isEmpty then throw .character else return ⟨"", none⟩
  | cs =>
    match cutScheme cs with
    | none =>
      let (_, rest) ← cutAuthority cs
      if rest.isEmpty then return ⟨"", none⟩ else throw .format
    | some (name, rest) =>
      if 64 < name.length then throw .schemeTooLong
      let (authority, rest) ← cutAuthority rest
      if authority.isEmpty then throw .format
      let target ← readPath rest
      return if target.path.isEmpty then { target with path := "/" } else target

end Target
end BundleInstaller.Http
