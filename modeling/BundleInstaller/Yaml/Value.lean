import BundleInstaller.Decimal.Double

/-!
# Values of YAML

A `Value` is what a document means, apart from how it is written.  A mapping keeps the order of its
entries, but two mappings are the same if they have the same entries in any order.
-/

namespace BundleInstaller.Yaml

/-- A value: a scalar, a sequence, a mapping, or a value with a tag. -/
inductive Value where
  | null
  | bool (b : Bool)
  | int (n : Int)
  | float (x : Double)
  | text (s : String)
  | sequence (items : List Value)
  | mapping (entries : List (Value × Value))
  | tagged (tag : String) (value : Value)
  deriving Repr, Inhabited

namespace Value

/-- Two numbers are the same if they are equal or both are not a number; zero has no sign. -/
def sameFloat (x y : Double) : Bool :=
  x == y || (x.isNaN && y.isNaN) || (x.parts.1 == 0 && y.parts.1 == 0)

/-- A tag without an exclamation mark in front. -/
def tagWord (tag : String) : List Char :=
  match tag.toList with
  | '!' :: c :: rest => c :: rest
  | cs => cs

mutual

def same : Value → Value → Bool
  | .null, .null => true
  | .bool a, .bool b => a == b
  | .int a, .int b => a == b
  | .float a, .float b => sameFloat a b
  | .text a, .text b => a == b
  | .sequence a, .sequence b => sameItems a b
  | .mapping a, .mapping b => a.length == b.length && within a b
  | .tagged s a, .tagged t b => tagWord s == tagWord t && same a b
  | _, _ => false

def sameItems : List Value → List Value → Bool
  | [], [] => true
  | a :: as, b :: bs => same a b && sameItems as bs
  | _, _ => false

/-- Whether all entries of the first list are in the second one. -/
def within : List (Value × Value) → List (Value × Value) → Bool
  | [], _ => true
  | (k, v) :: rest, b => b.any (fun (k', v') => same k k' && same v v') && within rest b

end

def untagged : Value → Value
  | .tagged _ value => untagged value
  | value => value

/-- The text of a text, whatever its tags. -/
def text? (v : Value) : Option String :=
  match v.untagged with
  | .text s => some s
  | _ => none

def isText (s : String) : Value → Bool
  | .text t => t == s
  | _ => false

/-- The value of a key of a mapping, whatever its tags. -/
def get? (v : Value) (key : String) : Option Value :=
  match v.untagged with
  | .mapping entries => (entries.find? fun (k, _) => isText key k).map (·.2)
  | _ => none

end Value
end BundleInstaller.Yaml
