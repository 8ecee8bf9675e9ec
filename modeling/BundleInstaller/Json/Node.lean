import BundleInstaller.Decode.Format

/-!
# JSON texts

A `Node` is a value as it stands in a text, with the places where it starts and stops.  A text that
breaks off or goes wrong is kept up to there: the tree then ends in a `bad` node with the fault.
Passing over a value finds fewer faults than reading it, and calls some of them differently; a node
knows both.
-/

namespace BundleInstaller.Json

open Decode (Mismatch Wording)

/-- A place in a text: the number of line feeds before it, from one, and of octets since the last
of them. -/
structure Spot where
  line : Nat
  column : Nat
  deriving DecidableEq, Repr

namespace Spot

def start : Spot := ⟨1, 0⟩

def right (s : Spot) (n : Nat) : Spot := { s with column := s.column + n }

/-- After a character. -/
def after (s : Spot) (c : Char) : Spot :=
  if c == '\n' then ⟨s.line + 1, 0⟩ else s.right c.utf8Size

/-- After the first octet of what follows, if anything does. -/
def peek (s : Spot) : List Char → Spot
  | [] => s
  | c :: _ => if c == '\n' then ⟨s.line + 1, 0⟩ else s.right 1

/-- After the first `n` octets of what follows, in which a character may be cut. -/
def afterOctets (s : Spot) : (n : Nat) → List Char → Spot
  | 0, _ => s
  | _, [] => s
  | n + 1, c :: rest =>
    if n + 1 < c.utf8Size then s.right (n + 1)
    else (s.after c).afterOctets (n + 1 - c.utf8Size) rest
termination_by n => n
decreasing_by have := c.utf8Size_pos; omega

end Spot

/-- What is wrong with a text. -/
inductive Problem where
  | endInValue | endInString | endInList | endInObject
  | noValue | noIdent | noColon | noCommaOrBracket | noCommaOrBrace
  | keyNotText | trailingComma | trailing
  | badEscape | endOfEscape | loneSurrogate | control
  | badNumber | outOfRange
  | tooDeep
  | content (mismatch : Mismatch)
  deriving Repr, DecidableEq

/-- JSON calls a null by its name and writes numbers as it would in a text. -/
def wording : Wording := ⟨"null", Double.text⟩

def Problem.message : Problem → String
  | endInValue => "EOF while parsing a value"
  | endInString => "EOF while parsing a string"
  | endInList => "EOF while parsing a list"
  | endInObject => "EOF while parsing an object"
  | noValue => "expected value"
  | noIdent => "expected ident"
  | noColon => "expected `:`"
  | noCommaOrBracket => "expected `,` or `]`"
  | noCommaOrBrace => "expected `,` or `\x7d`"
  | keyNotText => "key must be a string"
  | trailingComma => "trailing comma"
  | trailing => "trailing characters"
  | badEscape => "invalid escape"
  | endOfEscape => "unexpected end of hex escape"
  | loneSurrogate => "lone leading surrogate in hex escape"
  | control => "control character (\\u0000-\\u001F) found while parsing a string"
  | badNumber => "invalid number"
  | outOfRange => "number out of range"
  | tooDeep => "recursion limit exceeded"
  | content mismatch => mismatch.message wording

/-- Why a text could not be read, and where, unless the value comes from no text. -/
structure Fault where
  problem : Problem
  spot : Option Spot
  deriving Repr, DecidableEq

def Fault.message (f : Fault) : String :=
  f.problem.message ++
    match f.spot with
    | some s => " at line " ++ toString s.line ++ " column " ++ toString s.column
    | none => ""

/-- A number of a text. -/
inductive Number where
  | int (n : Int)
  | float (x : Double)
  deriving Repr

/-- Where a value stands, if it comes from a text. -/
structure Extent where
  start : Option Spot
  /-- The first octet counts as passed. -/
  peek : Option Spot
  stop : Option Spot
  deriving Repr

/-- The places around the colon of an entry, if it comes from a text. -/
structure EntryPlace where
  key : Option Spot
  colon : Option Spot
  /-- Behind the value and the blanks after it. -/
  stop : Option Spot
  deriving Repr

/-- A value as it stands in a text. -/
inductive Node where
  | null (extent : Extent)
  | bool (extent : Extent) (b : Bool)
  /-- A number, or why it is none that can be read. -/
  | number (extent : Extent) (n : Except Fault Number)
  /-- A text, or why it is none that can be read. -/
  | string (extent : Extent) (s : Except Fault String)
  /-- The items, and the faults of reading and of passing over what follows them. -/
  | array (extent : Extent) (items : List Node) (ending : Option (Fault × Fault))
  /-- The entries: the key, the places around its colon, and the value. -/
  | object (extent : Extent) (entries : List (Except Fault String × EntryPlace × Node))
    (ending : Option (Fault × Fault))
  /-- The faults of reading and of passing over what stands here. -/
  | bad (read skip : Fault)

mutual

/-- A value that comes from no text. -/
def Node.ofJson : Json → Node
  | .null => .null ⟨none, none, none⟩
  | .bool b => .bool ⟨none, none, none⟩ b
  | .int n => .number ⟨none, none, none⟩ (.ok (.int n))
  | .float x => .number ⟨none, none, none⟩ (.ok (.float x))
  | .str s => .string ⟨none, none, none⟩ (.ok s)
  | .arr items => .array ⟨none, none, none⟩ (Node.ofItems items) none
  | .obj entries => .object ⟨none, none, none⟩ (Node.ofEntries entries) none

def Node.ofItems : List Json → List Node
  | [] => []
  | j :: rest => Node.ofJson j :: Node.ofItems rest

def Node.ofEntries : List (String × Json) → List (Except Fault String × EntryPlace × Node)
  | [] => []
  | (k, j) :: rest => (.ok k, ⟨none, none, none⟩, Node.ofJson j) :: Node.ofEntries rest

end

end BundleInstaller.Json
