import BundleInstaller.Decimal.Shortest
import BundleInstaller.Text.Utf8
import BundleInstaller.Yaml.Value
import BundleInstaller.Yaml.Value.Style

/-!
# Writing values of YAML

`Value.write` writes a value in block style: an entry or item to a line, each level indented by
two, except that the items of a sequence under a key are not indented.  A key that does not fit
before a colon is written after a question mark.

The writer opens a mapping of one entry only when its key is written, in case the entry turns out to
be a tag and a value.  A key that is such a mapping itself, or a tagged value, takes the place of
the opening; the mapping is closed all the same, and `Value.write` fails when it comes to that.
-/

namespace BundleInstaller.Yaml

/-- Why a value could not be written. -/
inductive WriteFault where
  /-- A mapping was closed where a document could start. -/
  | noDocument
  /-- A mapping was closed where a value was due. -/
  | noNode
  /-- A tag on a tagged value. -/
  | tagOnTag
  deriving Repr, DecidableEq

def WriteFault.message : WriteFault → String
  | noDocument => "expected DOCUMENT-START or STREAM-END"
  | noNode => "expected SCALAR, SEQUENCE-START, MAPPING-START, or ALIAS"
  | tagOnTag => "serializing nested enums in YAML is not supported yet"

namespace Value

/-! ## Whether all openings are written -/

/-- What is written, as far as nesting goes. -/
inductive Bracket where
  | leaf
  | openSequence
  | openMapping
  | closeSequence
  | closeMapping
  | fault

/-- Whether a value, as the key of a mapping of one entry, takes the place of its opening. -/
def hidesOpening : Value → Bool
  | .mapping [_] => true
  | .tagged _ _ => true
  | _ => false

mutual

/-- The brackets of a value; `tagged` after a tag. -/
def brackets (tagged : Bool) : Value → List Bracket
  | .sequence items => .openSequence :: itemBrackets items ++ [.closeSequence]
  | .mapping [(k, v)] =>
    (if k.hidesOpening && !tagged then [] else [.openMapping]) ++
      (brackets false k ++ brackets false v) ++ [.closeMapping]
  | .mapping entries => .openMapping :: entryBrackets entries ++ [.closeMapping]
  | .tagged _ v => if tagged then [.fault] else brackets true v
  | _ => [.leaf]

def itemBrackets : List Value → List Bracket
  | [] => []
  | v :: rest => brackets false v ++ itemBrackets rest

def entryBrackets : List (Value × Value) → List Bracket
  | [] => []
  | (k, v) :: rest => brackets false k ++ brackets false v ++ entryBrackets rest

end

/-- What is open: a sequence, or a mapping before a key or before a value. -/
inductive Within where
  | sequence
  | key
  | value

/-- After a value. -/
def Within.next : List Within → List Within
  | .key :: rest => .value :: rest
  | .value :: rest => .key :: rest
  | w => w

/-- The first fault of a list of brackets. -/
def bracketFault (within : List Within) : List Bracket → Option WriteFault
  | [] => none
  | .fault :: _ => some .tagOnTag
  | .leaf :: rest => bracketFault (Within.next within) rest
  | .openSequence :: rest => bracketFault (.sequence :: within) rest
  | .openMapping :: rest => bracketFault (.key :: within) rest
  | .closeSequence :: rest =>
    match within with
    | .sequence :: outer => bracketFault (Within.next outer) rest
    | [] => some .noDocument
    | _ => some .noNode
  | .closeMapping :: rest =>
    match within with
    | .key :: outer => bracketFault (Within.next outer) rest
    | [] => some .noDocument
    | _ => some .noNode

/-! ## Lines -/

/-- A text that is being written. -/
structure Page where
  text : String
  column : Nat
  blank : Bool
  /-- Whether nothing but indentation and the marks of items stands in the line. -/
  indenting : Bool

namespace Page

def empty : Page := ⟨"", 0, true, true⟩

/-- Adds a text without line breaks. -/
def add (p : Page) (s : String) : Page :=
  { p with text := p.text ++ s, column := p.column + s.length }

def endLine (p : Page) : Page := { p with text := p.text ++ "\n", column := 0 }

/-- Adds a line break of the text itself. -/
def addBreak (p : Page) (c : Char) : Page := { p with text := p.text.push c, column := 0 }

/-- Goes to a column of a line in which nothing else stands. -/
def indentTo (p : Page) (indent : Nat) : Page :=
  let p :=
    if !p.indenting || indent < p.column || (p.column == indent && !p.blank) then p.endLine else p
  { p.add (String.ofList (List.replicate (indent - p.column) ' ')) with
    blank := true, indenting := true }

/-- A space, unless one stands there. -/
def space (p : Page) : Page := if p.blank then p else p.add " "

/-- Adds a mark; after the mark of an item or a key the line still counts as indentation. -/
def addMark (p : Page) (s : String) (indents : Bool) : Page :=
  { p.add s with blank := false, indenting := p.indenting && indents }

def addWord (p : Page) (s : String) : Page := { p.add s with blank := false, indenting := false }

end Page

/-! ## Scalars -/

/-- A number of hexadecimal digits, upper case. -/
def hexDigits (width n : Nat) : String :=
  let ds := (Nat.toDigits 16 n).map Char.toUpper
  String.ofList (List.replicate (width - ds.length) '0' ++ ds)

def escapeChar (c : Char) : String :=
  match c with
  | '\x00' => "\\0"
  | '\x07' => "\\a"
  | '\x08' => "\\b"
  | '\t' => "\\t"
  | '\n' => "\\n"
  | '\x0b' => "\\v"
  | '\x0c' => "\\f"
  | '\r' => "\\r"
  | '\x1b' => "\\e"
  | '"' => "\\\""
  | '\\' => "\\\\"
  | '\u0085' => "\\N"
  | '\u2028' => "\\L"
  | '\u2029' => "\\P"
  | _ =>
    let n := c.toNat
    if isPrintable c then c.toString
    else if n ≤ 0xFF then "\\x" ++ hexDigits 2 n
    else if n ≤ 0xFFFF then "\\u" ++ hexDigits 4 n
    else "\\U" ++ hexDigits 8 n

def doubleQuoted (s : String) : String := "\"" ++ String.join (s.toList.map escapeChar) ++ "\""

/-- Adds the characters of a text between single quotes; a line break is followed by
indentation. -/
def addSingle (indent : Nat) (p : Page) (broken : Bool) : List Char → Page
  | [] => if broken then p.indentTo indent else p
  | c :: rest =>
    if isBreak c then
      let p := if !broken && c == '\n' then p.endLine else p
      addSingle indent { p.addBreak c with indenting := true } true rest
    else if c == ' ' then addSingle indent (p.add " ") broken rest
    else
      let p := if broken then p.indentTo indent else p
      let p := p.add (if c == '\'' then "''" else c.toString)
      addSingle indent { p with indenting := false } false rest

def addLines (indent : Nat) (p : Page) (broken : Bool) : List Char → Page
  | [] => p
  | c :: rest =>
    if isBreak c then addLines indent { p.addBreak c with indenting := true } true rest
    else
      let p := if broken then p.indentTo indent else p
      addLines indent { p.add c.toString with indenting := false } false rest

/-- What a literal block says of its indentation, where its first character would hide it, and of
its last line breaks. -/
def hints (s : List Char) : String :=
  let indent := match s with
    | c :: _ => if c == ' ' || isBreak c then "2" else ""
    | [] => ""
  let chomp := match s.reverse with
    | [] => "-"
    | [c] => if isBreak c then "+" else "-"
    | c :: b :: _ => if !isBreak c then "-" else if isBreak b then "+" else ""
  indent ++ chomp

def writeText (p : Page) (indent : Nat) (asKey : Bool) (s : String) : Page :=
  match styleOf s asKey with
  | .plain => p.space.addWord s
  | .single =>
    (addSingle indent (p.space.addWord "'") false s.toList).addWord "'"
  | .double => p.space.addWord (doubleQuoted s)
  | _ =>
    let p := (p.space.addWord ("|" ++ hints s.toList)).endLine
    addLines indent { p with blank := true, indenting := true } true s.toList

/-- The text of a number with a fraction. -/
def floatText (x : Double) : String :=
  if x.isFinite then x.text
  else if x.isNaN then ".nan"
  else if x.isNegative then "-.inf" else ".inf"

/-! ## Tags and keys -/

def escapeTagOctet (b : UInt8) : String :=
  let c := Char.ofNat b.toNat
  if b < 0x80 && (isNameChar c || ";/?:@&=+$,.~*'()[]".toList.contains c) then c.toString
  else "%" ++ hexDigits 2 b.toNat

def tagText (tag : String) : String :=
  let word := tagWord tag
  let escaped := String.join ((Text.Utf8.encode word).map escapeTagOctet)
  if word == ['!'] then "!<" ++ escaped ++ ">" else "!" ++ escaped

/-- How long a tag is, in octets. -/
def tagLength (tag : String) : Nat :=
  let n := (Text.Utf8.encode (tagWord tag)).length
  if tagWord tag == ['!'] then n else n + 1

/-- How long a value is that can stand before a colon, without its tag. -/
def keyLength? : Value → Option Nat
  | .null => some 4
  | .bool b => some (toString b).length
  | .int n => some (toString n).length
  | .float x => some (floatText x).length
  | .text s => if (Features.of s).multiline then none else some s.utf8ByteSize
  | .sequence [] => some 0
  | .mapping [] => some 0
  | .tagged tag v => (keyLength? v).map (tagLength tag + ·)
  | _ => none

/-- How long a simple key may be. -/
def simpleKeyLimit : Nat := 128

/-- Whether a value is written before a colon. -/
def isSimpleKey (v : Value) : Bool :=
  match v.keyLength? with
  | some n => n ≤ simpleKeyLimit
  | none => false

/-! ## Values -/

/-- One level deeper than `indent`, which is `none` outside of all collections. -/
def deeper : Option Nat → Nat
  | none => 0
  | some n => n + 2

/-- The indentation of the further lines of a scalar. -/
def scalarIndent : Option Nat → Nat
  | none => 2
  | some n => n + 2

mutual

/-- Writes a value in a collection indented by `indent`; `inMapping` for keys and values, `asKey`
before a colon. -/
def writeNode (indent : Option Nat) (inMapping asKey : Bool) (p : Page) : Value → Page
  | .null => p.space.addWord "null"
  | .bool b => p.space.addWord (toString b)
  | .int n => p.space.addWord (toString n)
  | .float x => p.space.addWord (floatText x)
  | .text s => writeText p (scalarIndent indent) asKey s
  | .sequence [] => p.space.addWord "[]"
  | .mapping [] => p.space.addWord "\x7b\x7d"
  | .sequence items =>
    let inner := if inMapping && !p.indenting then indent.getD 0 else deeper indent
    writeItems inner p items
  | .mapping entries => writeEntries (deeper indent) p entries
  | .tagged tag v => writeNode indent inMapping asKey (p.space.addWord (tagText tag)) v

def writeItems (indent : Nat) (p : Page) : List Value → Page
  | [] => p
  | v :: rest =>
    let p := (p.indentTo indent).addMark "-" true
    writeItems indent (writeNode (some indent) false false p v) rest

/-- Writes entries, each key before a colon, or after a question mark with the colon below it. -/
def writeEntries (indent : Nat) (p : Page) : List (Value × Value) → Page
  | [] => p
  | (k, v) :: rest =>
    let p := p.indentTo indent
    let p :=
      if k.isSimpleKey then (writeNode (some indent) true true p k).addMark ":" false
      else
        let p := writeNode (some indent) true false (p.addMark "?" true) k
        (p.indentTo indent).addMark ":" true
    writeEntries indent (writeNode (some indent) true false p v) rest

end

def write (v : Value) : Except WriteFault String :=
  match bracketFault [] (v.brackets false) with
  | some fault => .error fault
  | none => .ok ((writeNode none false false .empty v).indentTo 0).text

end Value
end BundleInstaller.Yaml
