import BundleInstaller.Json.Reading

/-!
# Reading typed values from JSON

The instance of `Format` for JSON.  A record may be written as an array of its fields.  A mismatch
is placed where reading has come to: after a scalar, before a list or record that is not expected,
and behind the closing bracket of a record that lacks a field.
-/

namespace BundleInstaller.Json

open Decode

/-- A value as it stands in a text. -/
structure Cursor where
  node : Node
  /-- How many more lists and records may be nested here. -/
  depth : Nat

/-- Reading may find a fault. -/
abbrev Read := Except Fault

/-- How deep lists and records may be nested. -/
def maxDepth : Nat := 127

def Number.found : Number → Found
  | .int n => .int n
  | .float x => .float x

namespace Cursor

/-- A result that may be a mismatch, at a place. -/
def ofExceptAt {α : Type} (spot : Option Spot) : Except Mismatch α → Read α
  | .ok a => .ok a
  | .error m => .error ⟨.content m, spot⟩

/-- Gives a mismatch a place, unless it has one. -/
def locate {α : Type} (spot : Option Spot) : Read α → Read α
  | .error ⟨.content m, none⟩ => .error ⟨.content m, spot⟩
  | result => result

/-- The mismatch of a value of the wrong kind, or the fault of a bad one. -/
def wrongKind {α : Type} (c : Cursor) (expected : String) : Read α :=
  let kind (spot : Option Spot) (found : Found) : Read α :=
    .error ⟨.content (.kind found expected), spot⟩
  match c.node with
  | .null e => kind e.stop .null
  | .bool e b => kind e.stop (.bool b)
  | .number e (.ok n) => kind e.stop n.found
  | .string e (.ok s) => kind e.stop (.text s)
  | .array e _ _ => kind e.start .sequence
  | .object e _ _ => kind e.start .map
  | .number _ (.error f) | .string _ (.error f) => .error f
  | .bad f _ => .error f

/-- One level deeper into the list or record with this extent. -/
def deeper (c : Cursor) (e : Extent) : Read Cursor :=
  match c.depth with
  | 0 => .error ⟨.tooDeep, e.peek⟩
  | depth + 1 => .ok { c with depth := depth }

def part (c : Cursor) (node : Node) : Cursor := { c with node := node }

/-- The fault of reading what follows the parts of a list or record. -/
def checkEnding (ending : Option (Fault × Fault)) : Read Unit :=
  match ending with
  | some (f, _) => .error f
  | none => .ok ()

mutual

/-- Passes over a value. -/
def skipNode : Node → Read Unit
  | .array _ items ending =>
    match skipItems items with
    | .error f => .error f
    | .ok () => match ending with
      | some (_, f) => .error f
      | none => .ok ()
  | .object _ entries ending =>
    match skipEntries entries with
    | .error f => .error f
    | .ok () => match ending with
      | some (_, f) => .error f
      | none => .ok ()
  | .bad _ f => .error f
  | _ => .ok ()

def skipItems : List Node → Read Unit
  | [] => .ok ()
  | n :: rest =>
    match skipNode n with
    | .error f => .error f
    | .ok () => skipItems rest

def skipEntries : List (Except Fault String × EntryPlace × Node) → Read Unit
  | [] => .ok ()
  | (_, _, n) :: rest =>
    match skipNode n with
    | .error f => .error f
    | .ok () => skipEntries rest

end

/-! ## Values of unknown type -/

mutual

/-- Reads a value as JSON, at most `depth` levels deep. -/
def nodeToJson (depth : Nat) : Node → Read Json
  | .null _ => .ok .null
  | .bool _ b => .ok (.bool b)
  | .number _ n => n.map fun
    | .int n => .int n
    | .float x => .float x
  | .string _ s => s.map .str
  | .array e items ending =>
    if depth = 0 then .error ⟨.tooDeep, e.peek⟩
    else match itemsToJson (depth - 1) items with
      | .error f => .error f
      | .ok js => (checkEnding ending).map fun _ => .arr js
  | .object e entries ending =>
    if depth = 0 then .error ⟨.tooDeep, e.peek⟩
    else match entriesToJson (depth - 1) entries with
      | .error f => .error f
      | .ok js => (checkEnding ending).map fun _ => .ofEntries js
  | .bad f _ => .error f

def itemsToJson (depth : Nat) : List Node → Read (List Json)
  | [] => .ok []
  | n :: rest =>
    match nodeToJson depth n with
    | .error f => .error f
    | .ok j => (itemsToJson depth rest).map (j :: ·)

def entriesToJson (depth : Nat) :
    List (Except Fault String × EntryPlace × Node) → Read (List (String × Json))
  | [] => .ok []
  | (key, _, n) :: rest =>
    match key with
    | .error f => .error f
    | .ok k =>
      match nodeToJson depth n with
      | .error f => .error f
      | .ok j => (entriesToJson depth rest).map ((k, j) :: ·)

end

mutual

/-- Reads a value as content, at most `depth` levels deep. -/
def nodeToContent (depth : Nat) : Node → Read Content
  | .null _ => .ok .null
  | .bool _ b => .ok (.bool b)
  | .number _ n => n.map fun
    | .int n => .int n
    | .float x => .float x
  | .string _ s => s.map .text
  | .array e items ending =>
    if depth = 0 then .error ⟨.tooDeep, e.peek⟩
    else match itemsToContent (depth - 1) items with
      | .error f => .error f
      | .ok cs => (checkEnding ending).map fun _ => .list cs
  | .object e entries ending =>
    if depth = 0 then .error ⟨.tooDeep, e.peek⟩
    else match entriesToContent (depth - 1) entries with
      | .error f => .error f
      | .ok cs => (checkEnding ending).map fun _ => .map cs
  | .bad f _ => .error f

def itemsToContent (depth : Nat) : List Node → Read (List Content)
  | [] => .ok []
  | n :: rest =>
    match nodeToContent depth n with
    | .error f => .error f
    | .ok c => (itemsToContent depth rest).map (c :: ·)

def entriesToContent (depth : Nat) :
    List (Except Fault String × EntryPlace × Node) → Read (List (Content × Content))
  | [] => .ok []
  | (key, _, n) :: rest =>
    match key with
    | .error f => .error f
    | .ok k =>
      match nodeToContent depth n with
      | .error f => .error f
      | .ok c => (entriesToContent depth rest).map ((.text k, c) :: ·)

end

/-! ## Typed values -/

def readText {α : Type} (expected : String) (read : String → Except Mismatch α) (c : Cursor) :
    Read α :=
  match c.node with
  | .string e (.ok s) => ofExceptAt e.stop (read s)
  | _ => c.wrongKind expected

def readBool (c : Cursor) : Read Bool :=
  match c.node with
  | .bool _ b => .ok b
  | _ => c.wrongKind "a boolean"

def readInt64 (c : Cursor) : Read Int :=
  match c.node with
  | .number e (.ok (.int n)) =>
    if n < Nat.pow 2 63 then .ok n else .error ⟨.content (.value (.int n) "i64"), e.stop⟩
  | _ => c.wrongKind "i64"

/-- Reads a value that may be null. -/
def readOption {α : Type} (read : Cursor → Read α) (c : Cursor) : Read (Option α) :=
  match c.node with
  | .null _ => .ok none
  | _ => (read c).map some

def readItems {α : Type} (read : Cursor → Read α) (c : Cursor) : List Node → Read (List α)
  | [] => .ok []
  | n :: rest => do
    let a ← read (c.part n)
    return a :: (← readItems read c rest)

def readList {α : Type} (expected : String) (read : Cursor → Read α) (c : Cursor) :
    Read (List α) :=
  match c.node with
  | .array e items ending => do
    let as ← readItems read (← c.deeper e) items
    checkEnding ending
    return as
  | _ => c.wrongKind expected

/-- Reads the fields of a record. -/
def readFields {τ : Type} (step : String → Option (τ → Cursor → Read τ)) (c : Cursor) (state : τ) :
    List (Except Fault String × EntryPlace × Node) → Read τ
  | [] => .ok state
  | (key, place, n) :: rest => do
    let name ← key
    let state ← match step name with
      | some read => locate place.colon (read state (c.part n))
      | none => do skipNode n; pure state
    readFields step c state rest

/-- Behind the last field an array should close. -/
def checkClosing (ending : Option (Fault × Fault)) : Read Unit :=
  match ending with
  | some (f, _) =>
    match f.problem with
    | .trailingComma | .endInList => .error f
    | _ => .error { f with problem := .trailing }
  | none => .ok ()

/-- Reads the fields of a record that is written as an array.  `stop` is where the array ends;
`index` fields were read. -/
def readPositions {τ : Type} (expected : String) (stop : Option Spot) (ending : Option (Fault × Fault))
    (step : String → Option (τ → Cursor → Read τ)) (c : Cursor) (index : Nat) (state : τ) :
    List (String × Bool) → List Node → Read τ
  | [], [] => (checkClosing ending).map fun _ => state
  | [], n :: _ =>
    let start := match n with
      | .null e | .bool e _ | .number e _ | .string e _ | .array e _ _ | .object e _ _ => e.peek
      | .bad f _ => f.spot
    .error ⟨.trailing, start⟩
  | (_, optional) :: fields, [] => do
    checkEnding ending
    if optional then readPositions expected stop ending step c (index + 1) state fields []
    else .error ⟨.content (.length index expected), stop⟩
  | (name, _) :: fields, n :: rest => do
    let state ← match step name with
      | some read => read state (c.part n)
      | none => pure state
    readPositions expected stop ending step c (index + 1) state fields rest

def readRecord {τ α : Type} (shape : RecordShape) (init : τ)
    (step : String → Option (τ → Cursor → Read τ)) (finish : τ → Except Mismatch α) (c : Cursor) :
    Read α :=
  match c.node, shape.positional with
  | .object e entries ending, _ => do
    let state ← readFields step (← c.deeper e) init entries
    checkEnding ending
    ofExceptAt e.stop (finish state)
  | .array e items ending, some fields => do
    let count := toString fields.length ++ " element" ++ if fields.length = 1 then "" else "s"
    let state ← readPositions (shape.expected ++ " with " ++ count) e.stop ending step
      (← c.deeper e) 0 init fields items
    ofExceptAt e.stop (finish state)
  | _, _ => c.wrongKind shape.expected

/-- One of several names. -/
def checkVariant (known : List String) (name : String) : Except Mismatch String :=
  if known.contains name then .ok name else .error (.unknownVariant name known)

/-- Reads one of several names, which is a text, or the key of a null. -/
def readVariant (known : List String) (c : Cursor) : Read String :=
  match c.node with
  | .string e s => do ofExceptAt e.stop (checkVariant known (← s))
  | .object e entries ending => do
    let c ← c.deeper e
    match entries with
    | [] =>
      match ending with
      | some (f, _) =>
        match f.problem with
        | .endInObject => .error { f with problem := .endInValue }
        | .keyNotText => .error { f with problem := .noValue }
        | _ => .error f
      | none => .error ⟨.noValue, e.stop⟩
    | (key, place, n) :: rest =>
      let name ← ofExceptAt place.key (checkVariant known (← key))
      match n with
      | .null _ =>
        match rest, ending with
        | [], none => return name
        | [], some (f, _) =>
          if f.problem = .endInObject then .error f else .error ⟨.noValue, place.stop⟩
        | _, _ => .error ⟨.noValue, place.stop⟩
      | _ => (c.part n).wrongKind "unit"
  | .bad f _ => .error f
  | .null e | .bool e _ | .number e _ | .array e _ _ => .error ⟨.noValue, e.peek⟩

instance : Format Cursor Read where
  fail _ m := .error ⟨.content m, none⟩
  text := readText
  bool := readBool
  int64 := readInt64
  option := readOption
  list := readList
  record := readRecord
  variant _ := readVariant
  json c := nodeToJson c.depth c.node
  content c := nodeToContent c.depth c.node
  wrapped read c := read c

end Cursor

/-- Reads the only value of a text. -/
def readText {α : Type} (read : Cursor → Read α) (text : String) : Except Fault α := do
  let (node, trailing) := Node.ofText text.toList
  let a ← read ⟨node, maxDepth⟩
  match trailing with
  | some fault => throw fault
  | none => return a

/-- Reads a value that comes from no text. -/
def readJson {α : Type} (read : Cursor → Read α) (j : Json) : Except Fault α :=
  read ⟨Node.ofJson j, maxDepth⟩

def parse (text : String) : Except Fault Json := readText Format.json text

end BundleInstaller.Json
