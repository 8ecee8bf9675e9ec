import BundleInstaller.Decode.Format
import BundleInstaller.Yaml.Node
import BundleInstaller.Yaml.Scalar

/-!
# Reading typed values from YAML

A `Cursor` is a value in its place in a document.  Reading follows aliases, and counts them: a
document may have at most a hundred aliases followed for each of its events, and collections may
be nested at most `maxDepth` deep.  Where a fault cuts the document off, reading ends with it.

`Cursor.assemble` reads a value of unknown type, built as an `Assembly` says; the instance of
`Format` reads typed ones.
-/

namespace BundleInstaller.Yaml

open Decode

/-- A value in its place in a document. -/
structure Cursor where
  document : Document
  node : Node
  path : Path
  /-- How many more collections may be nested here. -/
  depth : Nat
  /-- Whether the tag of the value has been read already. -/
  tagged : Bool

/-- Reading counts the aliases that it follows. -/
abbrev Read := StateT Nat (Except Fault)

/-- How deep collections may be nested. -/
def maxDepth : Nat := 128

/-- How many aliases may be followed for each event of a document. -/
def aliasesPerEvent : Nat := 100

namespace Document

/-- The fault that ends a document. -/
def ending (d : Document) : Fault := d.fault.getD .noDocument

def cursor (d : Document) : Cursor := ⟨d, d.root, .root, maxDepth, false⟩

end Document

mutual

/-- Whether a value is whole. -/
def Node.isWhole : Node → Bool
  | .cut => false
  | .sequence _ _ items => wholeItems items
  | .mapping _ _ entries => wholeEntries entries
  | _ => true

def wholeItems : List Node → Bool
  | [] => true
  | n :: rest => n.isWhole && wholeItems rest

def wholeEntries : List (Node × Node) → Bool
  | [] => true
  | (k, v) :: rest => k.isWhole && v.isWhole && wholeEntries rest

end

namespace Cursor

/-- Gives the mismatches of a reader a place, unless they have one. -/
def locate {α : Type} (c : Cursor) (mark : Mark) (read : Read α) : Read α := fun n =>
  match read n with
  | .error (.content mismatch none) => .error (.content mismatch (some (c.path, mark)))
  | result => result

def mismatch {α : Type} (m : Mismatch) : Read α := throw (.content m none)

def ofExcept {α : Type} : Except Mismatch α → Read α
  | .ok a => pure a
  | .error m => mismatch m

/-- Follows an alias. -/
def resolve (c : Cursor) : Read Cursor := do
  match c.node with
  | .alias _ number =>
    modify (· + 1)
    if c.document.size * aliasesPerEvent < (← get) then throw .tooManyAliases
    return { c with node := (c.document.anchor? number).getD .cut, tagged := false }
  | _ => return c

/-- The tag of a scalar or collection, unless it has been read. -/
def tag (c : Cursor) : Option Bytes :=
  if c.tagged then none
  else match c.node with
    | .scalar _ tag _ _ | .sequence _ tag _ | .mapping _ tag _ => tag
    | _ => none

/-- The mismatch of a value of the wrong kind; a missing document is a fault of its own. -/
def wrongKind {α : Type} (c : Cursor) (expected : String) : Read α :=
  match c.node with
  | .scalar _ tag text style =>
    match Meaning.ofScalar tag text style with
    | .ok meaning => mismatch (.kind (meaning.found text) expected)
    | .error m => mismatch m
  | .sequence _ _ _ => mismatch (.kind .sequence expected)
  | .mapping _ _ _ => mismatch (.kind .map expected)
  | _ => throw (if c.node matches .absent _ then .noDocument else c.document.ending)

/-- The mark of a value; a value that is cut off has none. -/
def mark? (c : Cursor) : Option Mark :=
  match c.node with
  | .scalar mark _ _ _ | .sequence mark _ _ | .mapping mark _ _ | .alias mark _ | .absent mark =>
    some mark
  | .cut => none

/-- Follows an alias and reads the value there; mismatches are placed at the value. -/
def enter {α : Type} (c : Cursor) (read : Cursor → Read α) : Read α := do
  let c ← c.resolve
  match c.mark? with
  | none => throw c.document.ending
  | some mark => c.locate mark (read c)

def deeper (c : Cursor) (mark : Mark) : Read Cursor :=
  match c.depth with
  | 0 => throw (.tooDeep mark)
  | depth + 1 => return { c with depth := depth }

/-- Whether a value is an empty plain scalar, or absent. -/
def isBlank (c : Cursor) : Bool :=
  match c.node with
  | .scalar _ _ text style => text.isEmpty && style == .plain
  | .absent _ => true
  | _ => false

def item (c : Cursor) (index : Nat) (node : Node) : Cursor :=
  { c with node := node, path := .item c.path index, tagged := false }

def key (c : Cursor) (node : Node) : Cursor := { c with node := node }

def value (c : Cursor) (key node : Node) : Cursor :=
  let path := match key with
    | .scalar _ _ text _ => Path.entry c.path text
    | _ => .unnamed c.path
  { c with node := node, path := path, tagged := false }

def skip (c : Cursor) : Read Unit :=
  if c.node.isWhole then pure () else throw c.document.ending

/-! ## Values of unknown type -/

/-- How a value of unknown type is built. -/
structure Assembly (α : Type) where
  expected : String
  scalar : Meaning → String → α
  /-- What a tag makes of a value, if it may have one. -/
  tag : String → Except Mismatch (α → α)
  sequence : List α → α
  mapping : List (α × α) → α
  textKeys : Option String
  /-- What is wrong with a key after the entries before it, the last of them first. -/
  wrongKey : List (α × α) → α → Option Mismatch

def readItems {α : Type} (read : Cursor → Read α) (c : Cursor) (index : Nat) :
    List Node → Read (List α)
  | [] => return []
  | node :: rest => do
    let a ← read (c.item index node)
    return a :: (← readItems read c (index + 1) rest)

/-- Reads entries one after another; `seen` stands before them, the last one first. -/
def readEntries {α : Type} (readKey read : Cursor → Read α)
    (wrong : List (α × α) → α → Option Mismatch) (c : Cursor) (seen : List (α × α)) :
    List (Node × Node) → Read (List (α × α))
  | [] => return seen.reverse
  | (k, v) :: rest => do
    let key ← readKey (c.key k)
    match wrong seen key with
    | some m => mismatch m
    | none =>
      let a ← read (c.value k v)
      readEntries readKey read wrong c ((key, a) :: seen) rest

def readTextOf {α : Type} (expected : String) (read : String → Except Mismatch α) (c : Cursor) :
    Read α :=
  c.enter fun c =>
    match c.node with
    | .scalar _ _ text _ => ofExcept (read text)
    | _ => c.wrongKind expected

/-- Reads a value of unknown type, at most `depth` levels deep. -/
def assembleAt {α : Type} (a : Assembly α) : (depth : Nat) → Cursor → Read α
  | depth, c => c.enter fun c => do
    let name := c.tag.bind tagName?
    let wrap ← match name with
      | some name => ofExcept (a.tag name)
      | none => pure id
    let c := { c with tagged := c.tagged || name.isSome }
    match c.node with
    | .scalar _ _ text style =>
      match ← ofExcept (Meaning.ofScalar c.tag text style) with
      | .wide n => mismatch (.kind ((Meaning.wide n).found text) a.expected)
      | meaning => return wrap (a.scalar meaning text)
    | .sequence mark _ items =>
      match depth with
      | 0 => throw (.tooDeep mark)
      | depth + 1 => return wrap (a.sequence (← readItems (assembleAt a depth) c 0 items))
    | .mapping mark _ entries =>
      match depth with
      | 0 => throw (.tooDeep mark)
      | depth + 1 =>
        let readKey := match a.textKeys with
          | some expected => readTextOf expected fun s => .ok (a.scalar .text s)
          | none => assembleAt a depth
        return wrap (a.mapping
          (← readEntries readKey (assembleAt a depth) a.wrongKey c [] entries))
    | _ => return wrap (a.scalar .null "")

def assemble {α : Type} (a : Assembly α) (c : Cursor) : Read α := assembleAt a c.depth c

def scalarContent (meaning : Meaning) (text : String) : Content :=
  match meaning with
  | .null => .null
  | .bool b => .bool b
  | .int n | .wide n => .int n
  | .float x => .float x
  | .text => .text text

/-- Content has no tags. -/
def contentAssembly : Assembly Content where
  expected := "any value"
  scalar := scalarContent
  tag _ := .error (.other "untagged and internally tagged enums do not support enum input")
  sequence := .list
  mapping := .map
  textKeys := none
  wrongKey _ _ := none

def scalarJson (meaning : Meaning) (text : String) : Json :=
  match meaning with
  | .null => .null
  | .bool b => .bool b
  | .int n | .wide n => .int n
  | .float x => .ofDouble x
  | .text => .str text

/-- JSON has no tags, and its keys are texts. -/
def jsonAssembly : Assembly Json where
  expected := "any valid JSON value"
  scalar := scalarJson
  tag _ := .error (.kind .tagged "any valid JSON value")
  sequence := .arr
  mapping entries := .ofEntries (entries.map fun (k, v) => (k.str?.getD "", v))
  textKeys := some "a string key"
  wrongKey _ _ := none

/-! ## Typed values -/

/-- Whether a scalar may be read as the type of a core tag: it is plain, or literal with the tag. -/
def isLiteral (c : Cursor) (core : Bytes) : Bool :=
  match c.node with
  | .scalar _ _ _ .plain => true
  | .scalar _ _ _ .literal => c.tag == some core
  | _ => false

def text? (c : Cursor) : Option String :=
  match c.node with
  | .scalar _ _ text _ => some text
  | _ => none

def readBool (c : Cursor) : Read Bool :=
  c.enter fun c =>
    match if c.isLiteral CoreTag.bool then c.text?.bind Meaning.bool? else none with
    | some b => pure b
    | none => c.wrongKind "a boolean"

def readInt64 (c : Cursor) : Read Int :=
  c.enter fun c =>
    let n? := if c.isLiteral CoreTag.int then c.text?.bind fun s => Meaning.int? s.toList else none
    match n?.filter fun n : Int => -Nat.pow 2 63 ≤ n && n < Nat.pow 2 63 with
    | some n => pure n
    | none => c.wrongKind "i64"

/-- Whether a value stands for an absent one. -/
def isNull (c : Cursor) : Except Mismatch Bool :=
  match c.node with
  | .scalar _ _ text .plain =>
    match c.tag with
    | some tag =>
      if tag == CoreTag.null then
        if Meaning.isNull text then .ok true else .error (.value (.text text) "null")
      else .ok false
    | none => .ok (text.isEmpty || Meaning.isNull text)
  | .absent _ => .ok true
  | _ => .ok false

def readOption {α : Type} (read : Cursor → Read α) (c : Cursor) : Read (Option α) := do
  let c ← c.resolve
  if c.mark?.isNone then throw c.document.ending
  if ← ofExcept c.isNull then return none
  return some (← read c)

def readList {α : Type} (expected : String) (read : Cursor → Read α) (c : Cursor) :
    Read (List α) :=
  c.enter fun c => do
    match c.node with
    | .sequence mark _ items => readItems read (← c.deeper mark) 0 items
    | _ => if c.isBlank then return [] else c.wrongKind expected

def readFields {τ : Type} (shape : RecordShape) (step : String → Option (τ → Cursor → Read τ))
    (c : Cursor) (state : τ) : List (Node × Node) → Read τ
  | [] => return state
  | (k, v) :: rest => do
    let name ← readTextOf shape.keyExpected .ok (c.key k)
    let state ← match step name with
      | some read => read state (c.value k v)
      | none => do (c.value k v).skip; pure state
    readFields shape step c state rest

def readRecord {τ α : Type} (shape : RecordShape) (init : τ)
    (step : String → Option (τ → Cursor → Read τ)) (finish : τ → Except Mismatch α) (c : Cursor) :
    Read α :=
  c.enter fun c => do
    match c.node with
    | .mapping mark _ entries =>
      ofExcept (finish (← readFields shape step (← c.deeper mark) init entries))
    | _ => if c.isBlank then ofExcept (finish init) else c.wrongKind shape.expected

def checkVariant (known : List String) (name : String) : Except Mismatch String :=
  if known.contains name then .ok name else .error (.unknownVariant name known)

/-- Reads the empty value after a tag that names a variant. -/
def readUnit (c : Cursor) : Read Unit :=
  c.enter fun c =>
    match c.node with
    | .scalar _ _ text style =>
      if style == .plain && (text.isEmpty || Meaning.isNull text) then pure ()
      else mismatch (.value (.text text) "null")
    | .absent _ => pure ()
    | _ => c.wrongKind "unit"

/-- Reads one of several names, which is a scalar or a tag. -/
def readVariant (known : List String) (c : Cursor) : Read String := do
  let target ← c.resolve
  let read : Read String := do
    match target.tag.bind tagName? with
    | some name =>
      -- a tag that names no variant has no place of its own
      let name ← ofExcept (checkVariant known name)
      readUnit { target with tagged := true }
      return name
    | none =>
      match target.node with
      | .scalar _ _ _ _ => readTextOf "variant identifier" (checkVariant known) target
      | _ => target.enter fun c => c.wrongKind "a YAML tag starting with '!'"
  match c.node with
  | .alias mark _ => c.locate mark read
  | _ => read

instance : Format Cursor Read where
  fail _ m := mismatch m
  text := readTextOf
  bool := readBool
  int64 := readInt64
  option := readOption
  list := readList
  record := readRecord
  variant _ := readVariant
  json := assemble jsonAssembly
  content := assemble contentAssembly
  wrapped read c := do
    match c.mark? with
    | none => throw c.document.ending
    | some mark => read (← c.deeper mark)

end Cursor

/-- Reads the only document of a text.  A mismatch in what was read comes before a fault behind
it. -/
def readDocument {α : Type} (read : Cursor → Read α) (bytes : Bytes) : Except Fault α := do
  match Document.ofBytes bytes with
  | [] => throw .noDocument
  | document :: others =>
    let (a, _) ← (read document.cursor).run 0
    match document.fault with
    | some fault => throw fault
    | none => if others.isEmpty then return a else throw .severalDocuments

end BundleInstaller.Yaml
