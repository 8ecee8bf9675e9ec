import BundleInstaller.Decimal.Shortest
import BundleInstaller.Text.Escaped

/-!
# Mismatches

A `Mismatch` is what a typed reader says of a well-formed text that holds the wrong thing: a value
of another kind, an unknown variant, a field that is missing or stands twice.  The formats differ
only in how they word a null and a floating point number; a `Wording` holds these two.
-/

namespace BundleInstaller.Decode

/-- What was found in place of the expected value. -/
inductive Found where
  | bool (b : Bool)
  | int (n : Int)
  | float (x : Double)
  | text (s : String)
  | null
  | sequence
  | map
  | tagged
  /-- Described by its own words. -/
  | other (words : String)
  deriving Repr, DecidableEq

/-- How a format words a null and a number with a fraction. -/
structure Wording where
  null : String
  float : Double → String

def Found.words (w : Wording) : Found → String
  | .bool b => "boolean `" ++ toString b ++ "`"
  | .int n => "integer `" ++ toString n ++ "`"
  | .float x => "floating point `" ++ w.float x ++ "`"
  | .text s => "string " ++ Text.quoted s
  | .null => w.null
  | .sequence => "sequence"
  | .map => "map"
  | .tagged => "enum"
  | .other words => words

/-- What a typed reader has against a value. -/
inductive Mismatch where
  | kind (found : Found) (expected : String)
  /-- A value of the right kind, but not one of those allowed. -/
  | value (found : Found) (expected : String)
  | length (found : Nat) (expected : String)
  | unknownVariant (name : String) (known : List String)
  | missingField (name : String)
  | duplicateField (name : String)
  /-- A key that stands twice in a mapping; `key` says which. -/
  | duplicateEntry (key : String)
  | other (words : String)
  deriving Repr, DecidableEq

/-- The allowed names: one, either of two, or a list. -/
def oneOf : List String → String
  | [] => "there are no variants"
  | [a] => "expected `" ++ a ++ "`"
  | [a, b] => "expected `" ++ a ++ "` or `" ++ b ++ "`"
  | names => "expected one of " ++ ", ".intercalate (names.map fun n => "`" ++ n ++ "`")

def Mismatch.message (w : Wording) : Mismatch → String
  | .kind found expected => "invalid type: " ++ found.words w ++ ", expected " ++ expected
  | .value found expected => "invalid value: " ++ found.words w ++ ", expected " ++ expected
  | .length found expected => "invalid length " ++ toString found ++ ", expected " ++ expected
  | .unknownVariant name known => "unknown variant `" ++ name ++ "`, " ++ oneOf known
  | .missingField name => "missing field `" ++ name ++ "`"
  | .duplicateField name => "duplicate field `" ++ name ++ "`"
  | .duplicateEntry key => "duplicate entry " ++ key
  | .other words => words

end BundleInstaller.Decode
