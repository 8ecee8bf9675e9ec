import BundleInstaller.Yaml.Cursor
import BundleInstaller.Yaml.Value

/-!
# Reading values of YAML

`Value.ofDocument` gives the value of a document with its tags.  A mapping in which two keys are
the same is a mismatch.
-/

namespace BundleInstaller.Yaml.Value

open Decode

def ofMeaning (meaning : Meaning) (text : String) : Value :=
  match meaning with
  | .null => .null
  | .bool b => .bool b
  | .int n | .wide n => .int n
  | .float x => .float x
  | .text => .text text

/-- What a mismatch says of a key that stands twice. -/
def describeKey : Value → String
  | .null => "with null key"
  | .bool b => "with key `" ++ toString b ++ "`"
  | .int n => "with key " ++ toString n
  | .float x =>
    "with key " ++
      (if x.isFinite then x.text
      else if x.isNaN then ".nan"
      else if x.isNegative then "-.inf" else ".inf")
  | .text s => "with key " ++ Text.quoted s
  | _ => "in YAML map"

def assembly : Cursor.Assembly Value where
  expected := "any YAML value"
  scalar := ofMeaning
  tag name := .ok (.tagged name)
  sequence := .sequence
  mapping := .mapping
  textKeys := none
  wrongKey seen key :=
    if seen.any fun (k, _) => k.same key then some (.duplicateEntry (describeKey key)) else none

def read (c : Cursor) : Read Value := c.assemble assembly

def ofDocument (d : Document) : Except Fault Value := do
  let (v, _) ← (read d.cursor).run 0
  match d.fault with
  | some fault => throw fault
  | none => return v

def ofBytes (bytes : Bytes) : Except Fault Value := readDocument read bytes

end BundleInstaller.Yaml.Value
