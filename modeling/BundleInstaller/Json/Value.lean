import BundleInstaller.Decimal.Shortest
import BundleInstaller.Text.Utf8

/-!
# JSON values

An object is a list of entries in ascending order of their keys, each key once.  `Json.set` keeps
it so, `Json.get?` looks a key up, and `Json.text` writes a value without blanks.
-/

namespace BundleInstaller

inductive Json where
  | null
  | bool (b : Bool)
  | int (n : Int)
  | float (x : Double)
  | str (s : String)
  | arr (items : List Json)
  /-- The keys ascend. -/
  | obj (entries : List (String × Json))
  deriving Repr, BEq, Inhabited

namespace Json

/-- Sets a key in a list of entries with ascending keys. -/
def setEntry (key : String) (value : Json) : List (String × Json) → List (String × Json)
  | [] => [(key, value)]
  | (k, v) :: rest =>
    if key < k then (key, value) :: (k, v) :: rest
    else if key = k then (key, value) :: rest
    else (k, v) :: setEntry key value rest

/-- The object with the given entries; of two entries with one key the last one counts. -/
def ofEntries (entries : List (String × Json)) : Json :=
  .obj (entries.foldl (fun acc (k, v) => setEntry k v acc) [])

/-- The value of a key; `none` if there is none or the value is no object. -/
def get? : Json → String → Option Json
  | .obj entries, key => entries.lookup key
  | _, _ => none

/-- Sets a key of an object; any other value becomes an object first. -/
def set : Json → String → Json → Json
  | .obj entries, key, value => .obj (setEntry key value entries)
  | _, key, value => .obj [(key, value)]

def erase : Json → String → Json
  | .obj entries, key => .obj (entries.filter (·.1 != key))
  | j, _ => j

def str? : Json → Option String
  | .str s => some s
  | _ => none

def arr? : Json → Option (List Json)
  | .arr items => some items
  | _ => none

/-- A number with a fraction; infinity and not-a-number have no JSON form and become null. -/
def ofDouble (x : Double) : Json := if x.isFinite then .float x else .null

/-- An optional value, null if it is absent. -/
def ofOption : Option Json → Json
  | some j => j
  | none => .null

def ofText? (s : Option String) : Json := ofOption (s.map .str)

/-! ## Writing -/

/-- A number below 65536 as four hexadecimal digits. -/
def hex4 (n : Nat) : List Char :=
  let ds := Nat.toDigits 16 n
  List.replicate (4 - ds.length) '0' ++ ds

def escapeChar (c : Char) : List Char :=
  match c with
  | '"' => ['\\', '"']
  | '\\' => ['\\', '\\']
  | '\n' => ['\\', 'n']
  | '\r' => ['\\', 'r']
  | '\t' => ['\\', 't']
  | '\x08' => ['\\', 'b']
  | '\x0c' => ['\\', 'f']
  | _ => if c.toNat < 0x20 then ['\\', 'u'] ++ hex4 c.toNat else [c]

def quoteText (s : String) : String :=
  String.ofList ('"' :: (s.toList.flatMap escapeChar ++ ['"']))

mutual

/-- A value without blanks. -/
def text : Json → String
  | .null => "null"
  | .bool b => toString b
  | .int n => toString n
  | .float x => if x.isFinite then x.text else "null"
  | .str s => quoteText s
  | .arr items => "[" ++ itemsText items ++ "]"
  | .obj entries => "\x7b" ++ entriesText entries ++ "\x7d"

def itemsText : List Json → String
  | [] => ""
  | [j] => text j
  | j :: rest => text j ++ "," ++ itemsText rest

def entriesText : List (String × Json) → String
  | [] => ""
  | [(k, j)] => quoteText k ++ ":" ++ text j
  | (k, j) :: rest => quoteText k ++ ":" ++ text j ++ "," ++ entriesText rest

end

def bytes (j : Json) : Bytes := Text.Utf8.ofString j.text

end Json
end BundleInstaller
