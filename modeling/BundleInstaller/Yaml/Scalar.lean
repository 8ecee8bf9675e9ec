import BundleInstaller.Decimal.Reading
import BundleInstaller.Decode.Mismatch
import BundleInstaller.Yaml.Token

/-!
# What a plain scalar means

A plain scalar without a tag is a null, a boolean, a number or a text, and `Meaning.of` tells which.
Integers may be hexadecimal, octal or binary; a decimal with a zero in front is a text.  A tag of
the core schema asks for one of these, and then any other text is a mismatch.
-/

namespace BundleInstaller.Yaml

open Decode (Mismatch Found)

/-- What the text of a scalar means. -/
inductive Meaning where
  | null
  | bool (b : Bool)
  /-- An integer of 64 bits, signed or not. -/
  | int (n : Int)
  /-- An integer that needs up to 128 bits. -/
  | wide (n : Int)
  | float (x : Double)
  | text
  deriving Repr, DecidableEq

namespace Meaning

/-- The four spellings of null. -/
def isNull (s : String) : Bool := s == "null" || s == "Null" || s == "NULL" || s == "~"

/-- The six spellings of a boolean. -/
def bool? (s : String) : Option Bool :=
  if s == "true" || s == "True" || s == "TRUE" then some true
  else if s == "false" || s == "False" || s == "FALSE" then some false
  else none

def unsigned : List Char → List Char
  | '+' :: cs => cs
  | '-' :: cs => cs
  | cs => cs

/-- Whether a decimal has a zero in front, which makes it a text. -/
def isPadded (cs : List Char) : Bool :=
  match unsigned cs with
  | '0' :: c :: rest => (c :: rest).all Char.isDigit
  | _ => false

/-- Reads a natural in base ten, or in the base that a zero and a letter in front tell. -/
def nat? : List Char → Option Nat
  | '0' :: 'x' :: cs => Decimal.readNat? 16 cs
  | '0' :: 'o' :: cs => Decimal.readNat? 8 cs
  | '0' :: 'b' :: cs => Decimal.readNat? 2 cs
  | cs => if isPadded cs then none else Decimal.readNat? 10 cs

def int? : List Char → Option Int
  | '-' :: cs => (nat? cs).map fun n => -(n : Int)
  | '+' :: cs => (nat? cs).map fun n => (n : Int)
  | cs => (nat? cs).map fun n => (n : Int)

/-- Whether an integer has 64 bits, signed or not. -/
def fits64 (n : Int) : Bool := -Nat.pow 2 63 ≤ n && n < Nat.pow 2 64

def fits128 (n : Int) : Bool := -Nat.pow 2 127 ≤ n && n < Nat.pow 2 128

/-- Reads a number with a fraction, or infinity, or not a number. -/
def float? (s : String) : Option Double :=
  if [".inf", ".Inf", ".INF", "+.inf", "+.Inf", "+.INF"].contains s then some (.infinity false)
  else if ["-.inf", "-.Inf", "-.INF"].contains s then some (.infinity true)
  else if [".nan", ".NaN", ".NAN"].contains s then some .nan
  else (Decimal.readFloat? s.toList).filter Double.isFinite

/-- What an untagged plain scalar means. -/
def of (s : String) : Meaning :=
  if s.isEmpty || isNull s then .null
  else match bool? s with
    | some b => .bool b
    | none =>
      let cs := s.toList
      let float := if isPadded cs then .text else match float? s with
        | some x => .float x
        | none => .text
      match int? cs with
      | some n => if fits64 n then .int n else if fits128 n then .wide n else float
      | none => float

/-- What a mismatch calls a value. -/
def found (s : String) : Meaning → Found
  | .null => .null
  | .bool b => .bool b
  | .int n => .int n
  | .wide n =>
    .other ("integer `" ++ toString n ++ "` as " ++ if 0 ≤ n then "u128" else "i128")
  | .float x => .float x
  | .text => .text s

end Meaning

namespace CoreTag

/-- A tag of the core schema. -/
def named (name : String) : Bytes := Text.Utf8.ofString ("tag:yaml.org,2002:" ++ name)

/-- The tags that ask for a meaning. -/
def bool : Bytes := named "bool"
def int : Bytes := named "int"
def float : Bytes := named "float"
def null : Bytes := named "null"

end CoreTag

/-- The name of a tag that starts with an exclamation mark, without it. -/
def tagName? : Bytes → Option String
  | 0x21 :: [] => some "!"
  | 0x21 :: rest => Text.Utf8.decode? rest
  | _ => none

/-- What a scalar means by its tag and style. -/
def Meaning.ofScalar (tag : Option Bytes) (text : String) (style : ScalarStyle) :
    Except Mismatch Meaning :=
  let untagged := if style == .plain then Meaning.of text else .text
  match tag with
  | none => .ok untagged
  | some tag =>
    let wrong (expected : String) : Except Mismatch Meaning := .error (.value (.text text) expected)
    if tag == CoreTag.bool then
      match bool? text with
      | some b => .ok (.bool b)
      | none => wrong "a boolean"
    else if tag == CoreTag.int then
      match int? text.toList with
      | some n =>
        if fits64 n then .ok (.int n) else if fits128 n then .ok (.wide n) else wrong "an integer"
      | none => wrong "an integer"
    else if tag == CoreTag.float then
      match float? text with
      | some x => .ok (.float x)
      | none => wrong "a float"
    else if tag == CoreTag.null then if isNull text then .ok .null else wrong "null"
    else if tag.head? == some 0x21 then .ok untagged
    else .ok .text

end BundleInstaller.Yaml
