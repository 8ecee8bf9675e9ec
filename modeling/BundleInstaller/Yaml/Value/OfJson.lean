import BundleInstaller.Json.Value
import BundleInstaller.Yaml.Value

/-!
# JSON values as YAML

Every JSON value is a YAML value; an object becomes a mapping with its keys in the same order.
-/

namespace BundleInstaller.Yaml.Value

mutual

def ofJson : Json → Value
  | .null => .null
  | .bool b => .bool b
  | .int n => .int n
  | .float x => .float x
  | .str s => .text s
  | .arr items => .sequence (ofJsonItems items)
  | .obj entries => .mapping (ofJsonEntries entries)

def ofJsonItems : List Json → List Value
  | [] => []
  | j :: rest => ofJson j :: ofJsonItems rest

def ofJsonEntries : List (String × Json) → List (Value × Value)
  | [] => []
  | (k, j) :: rest => (.text k, ofJson j) :: ofJsonEntries rest

end

end BundleInstaller.Yaml.Value
