import BundleInstaller.Yaml.Event

/-!
# Documents of YAML

A `Document` is a tree of nodes, with the nodes that its aliases stand for.  Where a fault cuts a
text off, the document keeps what stands before it: the tree then ends in a node `cut`, so that
whoever reads it comes upon the fault just where the text does.

`Document.ofBytes` reads all documents of a text.  A document with a fault is the last one.
-/

namespace BundleInstaller.Yaml

inductive Node where
  | scalar (mark : Mark) (tag : Option Bytes) (text : String) (style : ScalarStyle)
  | sequence (mark : Mark) (tag : Option Bytes) (items : List Node)
  | mapping (mark : Mark) (tag : Option Bytes) (entries : List (Node × Node))
  /-- Stands for the anchored node with this number. -/
  | alias (mark : Mark) (number : Nat)
  | absent (mark : Mark)
  | cut
  deriving Repr, Inhabited

structure Document where
  root : Node
  fault : Option Fault
  /-- How many values start or end in the document. -/
  size : Nat
  anchored : List (Nat × Node)
  deriving Repr

/-- A collection that is not closed yet; its parts stand with the last one first. -/
inductive Open where
  | sequence (items : List Node)
  | mapping (entries : List (Node × Node))
  | value (entries : List (Node × Node)) (key : Node)

/-- A collection that is not closed yet, with what is known from its start. -/
structure Frame where
  mark : Mark
  tag : Option Bytes
  position : Nat
  isAnchored : Bool
  parts : Open

/-- A document that is being read. -/
structure Draft where
  root : Option Node
  /-- The open collections, the innermost first. -/
  frames : List Frame
  size : Nat
  names : List (String × Nat)
  /-- Where the node of each number starts; of two entries for a number the first one counts. -/
  starts : List (Nat × Nat)
  anchored : List (Nat × Node)

namespace Draft

def empty : Draft := ⟨none, [], 0, [], [], []⟩

/-- Gives the next node its anchor.  Its number is the number of names in use before, so a name that
is given again may take the number of another one. -/
def name (d : Draft) : Option String → Draft
  | none => d
  | some anchor =>
    let number := d.names.length
    { d with
      names := (anchor, number) :: d.names.filter (·.1 != anchor)
      starts := (number, d.size) :: d.starts }

def count (d : Draft) : Draft := { d with size := d.size + 1 }

/-- Puts a node where it belongs. -/
def put (d : Draft) (node : Node) : Draft :=
  match d.frames with
  | [] => { d with root := some node }
  | f :: outer =>
    let parts := match f.parts with
      | .sequence items => .sequence (node :: items)
      | .mapping entries => .value entries node
      | .value entries key => .mapping ((key, node) :: entries)
    { d with frames := { f with parts := parts } :: outer }

/-- Puts a node that starts at `position`, and remembers it if it has an anchor. -/
def putAnchored (d : Draft) (node : Node) (position : Nat) (isAnchored : Bool) : Draft :=
  let d := d.put node
  if isAnchored then { d with anchored := (position, node) :: d.anchored } else d

def collection (f : Frame) : Node :=
  match f.parts with
  | .sequence items => .sequence f.mark f.tag items.reverse
  | .mapping entries => .mapping f.mark f.tag entries.reverse
  | .value entries key => .mapping f.mark f.tag ((key, .cut) :: entries).reverse

def close (d : Draft) : Draft :=
  match d.frames with
  | [] => d
  | f :: outer => { d with frames := outer }.putAnchored (collection f) f.position f.isAnchored

/-- Closes all collections where a fault cuts the text off. -/
def cutOff (d : Draft) : Draft :=
  let close (d : Draft) (_ : Frame) : Draft :=
    match d.frames with
    | ⟨_, _, _, _, .mapping _⟩ :: _ => ((d.put .cut).put .cut).close
    | _ => (d.put .cut).close
  d.frames.foldl close d

/-- The document as far as it is read. -/
def finish (d : Draft) (fault : Option Fault) : Document :=
  let d := if fault.isSome then d.cutOff else d
  let node (start : Nat) : Node := (d.anchored.lookup start).getD .cut
  ⟨d.root.getD .cut, fault, d.size, d.starts.map fun (number, start) => (number, node start)⟩

/-- Adds the value that an event tells of; the fault is that of an unknown anchor. -/
def add (d : Draft) (event : Event) : Except Fault Draft :=
  let startOf (anchor : Option String) (tag : Option Bytes) (parts : Open) : Draft :=
    let frame := ⟨event.mark, tag, d.size, anchor.isSome, parts⟩
    ({ d.name anchor with frames := frame :: d.frames }).count
  match event.kind with
  | .alias name =>
    match d.names.lookup name with
    | some number => .ok (d.put (.alias event.mark number)).count
    | none => .error (.unknownAnchor event.mark)
  | .scalar anchor tag text style =>
    let node := .scalar event.mark tag text style
    .ok ((d.name anchor).putAnchored node d.size anchor.isSome).count
  | .sequenceStart anchor tag => .ok (startOf anchor tag (.sequence []))
  | .mappingStart anchor tag => .ok (startOf anchor tag (.mapping []))
  | .sequenceEnd | .mappingEnd => .ok d.close.count
  | _ => .ok d

end Draft

namespace Document

/-- The documents that a list of events tells of, where `draft` is read so far and `first` tells
whether no document was before it. -/
def ofEventList (fault : Option Fault) (first : Bool) (draft : Draft) : List Event → List Document
  | [] => if fault.isSome then [draft.finish fault] else []
  | event :: rest =>
    match event.kind with
    | .documentStart => ofEventList fault first draft rest
    | .documentEnd => draft.finish none :: ofEventList fault false .empty rest
    | .streamEnd => if first then [⟨.absent event.mark, none, 1, []⟩] else []
    | _ =>
      match draft.add event with
      | .ok draft => ofEventList fault first draft rest
      | .error found => [draft.finish (some found)]

def ofBytes (bytes : Bytes) : List Document :=
  let events := Events.ofTokens (Tokens.ofSource (Source.ofBytes bytes))
  ofEventList events.fault true .empty events.events

/-- The node that an alias stands for. -/
def anchor? (d : Document) (number : Nat) : Option Node := d.anchored.lookup number

end Document
end BundleInstaller.Yaml
