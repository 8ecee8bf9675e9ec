import BundleInstaller.Decimal.Arithmetic
import BundleInstaller.Decimal.Reading
import BundleInstaller.Json.Node

/-!
# Reading JSON texts

`Node.ofText` reads one value and what follows it.  A number without point and exponent is an
integer if it has at most 64 bits; any other is a double, the significant digits times a power of
ten, each rounded before they are multiplied.
-/

namespace BundleInstaller.Json

/-- The blanks of JSON. -/
def isBlank (c : Char) : Bool := c == ' ' || c == '\n' || c == '\t' || c == '\r'

/-- A place and the text that follows it. -/
structure Input where
  spot : Spot
  rest : List Char

namespace Input

def next (i : Input) : Input :=
  match i.rest with
  | [] => i
  | c :: rest => ⟨i.spot.after c, rest⟩

def skipBlanks (i : Input) : Input :=
  go i.spot i.rest
where
  go (spot : Spot) : List Char → Input
    | c :: rest => if isBlank c then go (spot.after c) rest else ⟨spot, c :: rest⟩
    | [] => ⟨spot, []⟩

def fault (i : Input) (problem : Problem) : Fault := ⟨problem, some i.spot⟩

/-- A fault in the next octet. -/
def peekFault (i : Input) (problem : Problem) : Fault := ⟨problem, some (i.spot.peek i.rest)⟩

def head? (i : Input) : Option Char := i.rest.head?

end Input

/-- A value and where it stops; nothing follows a bad one. -/
abbrev Parsed := Node × Option Input

def Parsed.bad (read skip : Fault) : Parsed := (.bad read skip, none)

/-! ## Words and numbers -/

def readWord (make : Extent → Node) (start i : Input) : List Char → Parsed
  | [] => (make ⟨start.spot, start.spot.peek start.rest, i.spot⟩, some i)
  | c :: word =>
    match i.rest with
    | [] => Parsed.bad (i.fault .endInValue) (i.fault .endInValue)
    | d :: _ =>
      if c == d then readWord make start i.next word
      else Parsed.bad (i.peekFault .noIdent) (i.peekFault .noIdent)

def readDigits (i : Input) : List Char × Input :=
  let ds := i.rest.takeWhile Char.isDigit
  (ds, ⟨i.spot.right ds.length, i.rest.drop ds.length⟩)

/-- The digits that fit in 64 bits, and how many more there are. -/
def significant (n : Nat) : List Char → Nat × List Char
  | [] => (n, [])
  | d :: ds =>
    let more := n * 10 + (d.toNat - 48)
    if more < Nat.pow 2 64 then significant more ds else (n, d :: ds)

/-- A power of ten up to 308, rounded. -/
def powerOfTen (n : Nat) : Double := .ofRatio false (Nat.pow 10 n) 1

/-- A natural times a power of ten: both are rounded, then the product or quotient; a quotient is
taken in steps of 308. -/
def scale (significand : Nat) (exponent : Int) : Option Double :=
  let f := Double.ofNat significand
  if 0 ≤ exponent then
    if 308 < exponent then if f.isZero then some f else none
    else some (f.mul (powerOfTen exponent.toNat)) |>.filter Double.isFinite
  else shrink f (-exponent).toNat 3
where
  shrink (f : Double) (n : Nat) : Nat → Option Double
    | 0 => some (.zero false)
    | steps + 1 =>
      if n ≤ 308 then some (f.div (powerOfTen n))
      else if f.isZero then some f
      else shrink (f.div (powerOfTen 308)) (n - 308) steps

/-- The value of a number with a point or an exponent, or with more than 64 bits. -/
def floatOf (negative : Bool) (whole fraction : List Char) (exponent : Int) : Option Double :=
  let (n, more) := significant 0 whole
  let (n, rest) := significant n fraction
  let shift : Int := more.length - (fraction.length - rest.length : Nat)
  (scale n (shift + exponent)).map fun x => if negative then x.neg else x

def integerOf (negative : Bool) (digits : List Char) : Option Number :=
  let n := Decimal.digitsValue digits
  if negative then
    if n = 0 then some (.float (.zero true))
    else if n ≤ Nat.pow 2 63 then some (.int (-(n : Int)))
    else (floatOf true digits [] 0).map .float
  else if n < Nat.pow 2 64 then some (.int n)
  else (floatOf false digits [] 0).map .float

/-- The largest exponent that is looked at. -/
def exponentLimit : Nat := 2147483647

/-- The value of an exponent, up to the limit, and how many of its digits it took to find it. -/
def readExponent (e count : Nat) : List Char → Nat × Nat
  | [] => (e, count)
  | d :: ds =>
    let more := e * 10 + (d.toNat - 48)
    if exponentLimit < more then (exponentLimit, count + 1) else readExponent more (count + 1) ds

def readNumber (start i : Input) (negative : Bool) : Parsed :=
  let extent (stop : Input) : Extent :=
    ⟨start.spot, start.spot.peek start.rest, stop.spot⟩
  let value (stop : Input) (seen : Spot) (x : Option Double) : Parsed :=
    let n := match x with
      | some x => .ok (.float x)
      | none => .error ⟨.outOfRange, some seen⟩
    (.number (extent stop) n, some stop)
  let withExponent (whole fraction : List Char) (i : Input) : Parsed :=
    match i.head? with
    | some 'e' | some 'E' =>
      let j := i.next
      let (down, j) := match j.head? with
        | some '-' => (true, j.next)
        | some '+' => (false, j.next)
        | _ => (false, j)
      let (ds, k) := readDigits j
      if ds.isEmpty then
        match j.head? with
        | none => Parsed.bad (j.fault .endInValue) (j.fault .badNumber)
        | some _ => Parsed.bad (j.peekFault .badNumber) (j.peekFault .badNumber)
      else
        let (e, seen) := readExponent 0 0 ds
        value k (j.spot.right seen) (floatOf negative whole fraction (if down then -(e : Int) else e))
    | _ => value i i.spot (floatOf negative whole fraction 0)
  let (ds, j) := readDigits i
  match ds with
  | [] =>
    match i.head? with
    | none => Parsed.bad (i.fault .endInValue) (i.fault .badNumber)
    | some _ => Parsed.bad (i.peekFault .badNumber) (i.peekFault .badNumber)
  | '0' :: _ :: _ =>
    let k := i.next
    Parsed.bad (k.peekFault .badNumber) (k.peekFault .badNumber)
  | _ =>
    match j.head? with
    | some '.' =>
      let k := j.next
      let (fraction, l) := readDigits k
      if fraction.isEmpty then
        let problem := if k.rest.isEmpty then Problem.endInValue else .badNumber
        Parsed.bad (k.peekFault problem) (k.peekFault .badNumber)
      else withExponent ds fraction l
    | some 'e' | some 'E' => withExponent ds [] j
    | _ =>
      let n := match integerOf negative ds with
        | some n => .ok n
        | none => .error (j.fault .outOfRange)
      (.number (extent j) n, some j)

/-! ## Strings -/

def readHex (i : Input) : Except Fault (Nat × Input) :=
  let ds := i.rest.take 4
  let width := ds.foldl (fun n c => n + c.utf8Size) 0
  if width < 4 then
    .error ⟨.endInString, some (ds.foldl Spot.after i.spot)⟩
  else
    match Decimal.readNat? 16 ds with
    | some n => .ok (n, ⟨i.spot.right 4, i.rest.drop 4⟩)
    | none => .error ⟨.badEscape, some (i.spot.afterOctets 4 i.rest)⟩

def escapeLetter? : Char → Option Char
  | '"' => some '"'
  | '\\' => some '\\'
  | '/' => some '/'
  | 'b' => some '\x08'
  | 'f' => some '\x0c'
  | 'n' => some '\n'
  | 'r' => some '\r'
  | 't' => some '\t'
  | _ => none

/-- The character of a number, after its digits have been read.  A number that is the first half of
a pair needs the second one right behind it. -/
def pairUp (n : Nat) (i : Input) : Except Fault Char :=
  if h : n.isValidChar then .ok (Char.ofNatAux n h)
  else if 0xDC00 ≤ n then .error (i.fault .loneSurrogate)
  else match i.rest with
    | [] => .error (i.fault .endInString)
    | '\\' :: [] => .error (i.next.fault .endInString)
    | '\\' :: 'u' :: _ =>
      match readHex i.next.next with
      | .error f => .error f
      | .ok (m, j) =>
        if 0xDC00 ≤ m ∧ m ≤ 0xDFFF then
          .ok (Char.ofNat (0x10000 + (n - 0xD800) * 0x400 + (m - 0xDC00)))
        else .error (j.fault .loneSurrogate)
    | '\\' :: _ :: _ => .error (i.next.peekFault .endOfEscape)
    | _ :: _ => .error (i.peekFault .endOfEscape)

/-- Whether a number is the first half of a pair. -/
def isFirstHalf (n : Nat) : Bool := 0xD800 ≤ n && n < 0xDC00

/-- Reads a string after its opening quote.  A fault that only reading finds is kept in `text`, and
the string goes on; `text` has the last character first.  The answer is the string and where it
stops, or the fault that ends the text. -/
def readString (text : Except Fault (List Char)) (spot : Spot) :
    (rest : List Char) → (steps : Nat) → Except (Fault × Fault) (Except Fault String × Input)
  | _, 0 => .error (⟨.endInString, some spot⟩, ⟨.endInString, some spot⟩)
  | [], _ =>
    let f : Fault := ⟨.endInString, some spot⟩
    .error (match text with | .error found => found | .ok _ => f, f)
  | c :: rest, steps + 1 =>
    let stopAt (f skip : Fault) : Except (Fault × Fault) (Except Fault String × Input) :=
      .error (match text with | .error found => found | .ok _ => f, skip)
    let stop (f : Fault) := stopAt f f
    let push (c : Char) : Except Fault (List Char) := text.map (c :: ·)
    if c == '"' then .ok (text.map fun s => String.ofList s.reverse, ⟨spot.right 1, rest⟩)
    else if c == '\\' then
      match rest with
      | [] => stop ⟨.endInString, some (spot.right 1)⟩
      | 'u' :: more =>
        match readHex ⟨spot.right 2, more⟩ with
        | .error f => stop f
        | .ok (n, i) =>
          match text with
          | .error _ => readString text i.spot i.rest steps
          | .ok s =>
            match pairUp n i with
            | .error f => readString (.error f) i.spot i.rest steps
            | .ok c =>
              let i := if isFirstHalf n then ⟨i.spot.right 6, i.rest.drop 6⟩ else i
              readString (.ok (c :: s)) i.spot i.rest steps
      | e :: more =>
        match escapeLetter? e with
        | some c => readString (push c) (spot.right 2) more steps
        | none => stop ⟨.badEscape, some ((spot.right 1).peek rest)⟩
    else if c.toNat < 0x20 then stopAt ⟨.control, some (spot.after c)⟩ ⟨.control, some spot⟩
    else readString (push c) (spot.after c) rest steps

def stringAt (i : Input) : Except (Fault × Fault) (Except Fault String × Input) :=
  readString (.ok []) (i.spot.right 1) (i.rest.drop 1) (i.rest.length + 1)

/-! ## Values -/

mutual

/-- Reads a value that no blank precedes, in at most `steps` steps. -/
def readValue (i : Input) : (steps : Nat) → Parsed
  | 0 => Parsed.bad (i.fault .tooDeep) (i.fault .tooDeep)
  | steps + 1 =>
    let extent (stop : Input) : Extent := ⟨i.spot, i.spot.peek i.rest, stop.spot⟩
    let isOpen : Extent := ⟨i.spot, i.spot.peek i.rest, none⟩
    match i.rest with
    | [] => Parsed.bad (i.peekFault .endInValue) (i.peekFault .endInValue)
    | c :: _ =>
      if c == 'n' then readWord .null i i.next "ull".toList
      else if c == 't' then readWord (.bool · true) i i.next "rue".toList
      else if c == 'f' then readWord (.bool · false) i i.next "alse".toList
      else if c == '-' then readNumber i i.next true
      else if c.isDigit then readNumber i i false
      else if c == '"' then
        match stringAt i with
        | .ok (s, stop) => (.string (extent stop) s, some stop)
        | .error (read, skip) => Parsed.bad read skip
      else if c == '[' then
        match readItems [] i.next.skipBlanks steps with
        | (items, .ok stop) => (.array (extent stop) items none, some stop)
        | (items, .error faults) => (.array isOpen items faults, none)
      else if c == '\x7b' then
        match readEntries [] i.next.skipBlanks steps with
        | (entries, .ok stop) => (.object (extent stop) entries none, some stop)
        | (entries, .error faults) => (.object isOpen entries faults, none)
      else Parsed.bad (i.peekFault .noValue) (i.peekFault .noValue)

/-- Reads the items of an array, up to its closing bracket; `before` has the last item first.  The
answer is where the array stops, or the faults of reading and passing over what follows. -/
def readItems (before : List Node) (i : Input) :
    (steps : Nat) → List Node × Except (Option (Fault × Fault)) Input
  | 0 => (before.reverse, .error none)
  | steps + 1 =>
    let item (i : Input) : List Node × Except (Option (Fault × Fault)) Input :=
      match readValue i steps with
      | (node, none) => ((node :: before).reverse, .error none)
      | (node, some next) => readItems (node :: before) next.skipBlanks steps
    let stop (read skip : Fault) : List Node × Except (Option (Fault × Fault)) Input :=
      (before.reverse, .error (some (read, skip)))
    match i.head? with
    | none => stop (i.peekFault .endInList) (i.peekFault .endInList)
    | some c =>
      if c == ']' then (before.reverse, .ok i.next)
      else if before.isEmpty then item i
      else if c == ',' then
        let j := i.next.skipBlanks
        match j.head? with
        | none => stop (j.peekFault .endInValue) (j.peekFault .endInValue)
        | some d =>
          if d == ']' then stop (j.peekFault .trailingComma) (j.peekFault .noValue)
          else item j
      else stop (i.peekFault .noCommaOrBracket) (i.peekFault .noCommaOrBracket)

/-- Reads the entries of an object, like `readItems`. -/
def readEntries (before : List (Except Fault String × EntryPlace × Node)) (i : Input) :
    (steps : Nat) →
      List (Except Fault String × EntryPlace × Node) × Except (Option (Fault × Fault)) Input
  | 0 => (before.reverse, .error none)
  | steps + 1 =>
    let stop (read skip : Fault) := (before.reverse, .error (some (read, skip)))
    let entry (i : Input) :
        List (Except Fault String × EntryPlace × Node) × Except (Option (Fault × Fault)) Input :=
      match stringAt i with
      | .error (read, skip) => stop read skip
      | .ok (key, next) =>
        let colon := next.skipBlanks
        let value := match colon.head? with
          | none => Parsed.bad (colon.peekFault .endInObject) (colon.peekFault .endInObject)
          | some c =>
            if c == ':' then readValue colon.next.skipBlanks steps
            else Parsed.bad (colon.peekFault .noColon) (colon.peekFault .noColon)
        let place : EntryPlace := ⟨some next.spot, some colon.spot, none⟩
        match value.2 with
        | none => (((key, place, value.1) :: before).reverse, .error none)
        | some next =>
          let next := next.skipBlanks
          readEntries ((key, { place with stop := some next.spot }, value.1) :: before) next steps
    match i.head? with
    | none => stop (i.peekFault .endInObject) (i.peekFault .endInObject)
    | some c =>
      if c == '\x7d' then (before.reverse, .ok i.next)
      else if before.isEmpty then
        if c == '"' then entry i else stop (i.peekFault .keyNotText) (i.peekFault .keyNotText)
      else if c == ',' then
        let j := i.next.skipBlanks
        match j.head? with
        | none => stop (j.peekFault .endInValue) (j.peekFault .endInObject)
        | some d =>
          if d == '"' then entry j
          else if d == '\x7d' then stop (j.peekFault .trailingComma) (j.peekFault .keyNotText)
          else stop (j.peekFault .keyNotText) (j.peekFault .keyNotText)
      else stop (i.peekFault .noCommaOrBrace) (i.peekFault .noCommaOrBrace)

end

/-- The value of a text, and the fault of what follows it. -/
def Node.ofText (text : List Char) : Node × Option Fault :=
  let i := Input.skipBlanks ⟨.start, text⟩
  match readValue i (2 * text.length + 2) with
  | (node, none) => (node, none)
  | (node, some next) =>
    let next := next.skipBlanks
    (node, if next.rest.isEmpty then none else some (next.peekFault .trailing))

end BundleInstaller.Json
