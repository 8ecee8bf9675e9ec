import BundleInstaller.Decode.Mismatch
import BundleInstaller.Json.Value

/-!
# Values of any format

`Content` is a value as a format gives it when nothing is known of its type: a format may have keys
that are no text.  `Content.toJson` turns it into JSON where all keys are text.
-/

namespace BundleInstaller.Decode

/-- A value of unknown type. -/
inductive Content where
  | null
  | bool (b : Bool)
  | int (n : Int)
  | float (x : Double)
  | text (s : String)
  | list (items : List Content)
  | map (entries : List (Content × Content))
  deriving Repr, Inhabited

namespace Content

/-- What a mismatch calls a value. -/
def found : Content → Found
  | .null => .null
  | .bool b => .bool b
  | .int n => .int n
  | .float x => .float x
  | .text s => .text s
  | .list _ => .sequence
  | .map _ => .map

def text? : Content → Option String
  | .text s => some s
  | _ => none

/-- A key, which has to be a text. -/
def key : Content → Except Mismatch String
  | .text s => .ok s
  | other => .error (.kind other.found "a string key")

mutual

/-- A value as JSON; of two entries with one key the last one counts. -/
def toJson : Content → Except Mismatch Json
  | .null => .ok .null
  | .bool b => .ok (.bool b)
  | .int n => .ok (.int n)
  | .float x => .ok (.ofDouble x)
  | .text s => .ok (.str s)
  | .list items => (itemsToJson items).map .arr
  | .map entries => (entriesToJson entries).map .ofEntries

def itemsToJson : List Content → Except Mismatch (List Json)
  | [] => .ok []
  | c :: rest =>
    match toJson c with
    | .error e => .error e
    | .ok j => (itemsToJson rest).map (j :: ·)

def entriesToJson : List (Content × Content) → Except Mismatch (List (String × Json))
  | [] => .ok []
  | (k, c) :: rest =>
    match key k with
    | .error e => .error e
    | .ok s =>
      match toJson c with
      | .error e => .error e
      | .ok j => (entriesToJson rest).map ((s, j) :: ·)

end

end Content
end BundleInstaller.Decode
