import BundleInstaller.Yaml.Source
import BundleInstaller.Yaml.Token.BlockText
import BundleInstaller.Yaml.Token.Plain
import BundleInstaller.Yaml.Token.Quoted
import BundleInstaller.Yaml.Token.Tag

/-!
# From characters to tokens

A `Lexer` reads one token after another.  What makes YAML hard to read is that a key shows only at
the colon after it: a token that may turn out to be a key is remembered as a `PendingKey`, one for
each open flow collection, and when the colon comes a `key` token is put in front of it.  So a
token cannot be handed on while it, or one before it, is pending, and `Lexer.ready` counts those
that can.

`Tokens.ofSource` reads a whole text.  Where the text has a fault, only the tokens that were ready
before it are given.
-/

namespace BundleInstaller.Yaml

/-- A token that is a key if a colon follows it. -/
structure PendingKey where
  /-- How many tokens stand before it. -/
  index : Nat
  /-- Whether nothing but a key may stand here. -/
  required : Bool
  mark : Mark

/-- A key has at most this many characters, and stands on one line. -/
def keyLimit : Nat := 1024

/-- Whether no colon may follow any more. -/
def PendingKey.isPast (k : PendingKey) (mark : Mark) : Bool :=
  k.mark.line < mark.line || k.mark.index + keyLimit < mark.index

/-- A reader of tokens. -/
structure Lexer where
  place : Place
  /-- The tokens read so far, the last first. -/
  tokens : List Token
  /-- How many they are. -/
  count : Nat
  /-- The pending key of the innermost collection. -/
  key : Option PendingKey
  /-- Those of the collections around it, the innermost first. -/
  outerKeys : List (Option PendingKey)
  /-- Whether a key may start here. -/
  keyAllowed : Bool
  /-- The column of the innermost block, `-1` outside of every block. -/
  indent : Int
  outerIndents : List Int

namespace Lexer

def start (chars : List Char) : Lexer :=
  ⟨⟨.start, chars⟩, [], 0, none, [], true, -1, []⟩

def inFlow (l : Lexer) : Bool := !l.outerKeys.isEmpty

def mark (l : Lexer) : Mark := l.place.mark

/-- The pending keys, the outermost first. -/
def pending (l : Lexer) : List PendingKey := (l.key :: l.outerKeys).reverse.filterMap id

/-- How many tokens can be handed on. -/
def ready (l : Lexer) : Nat := (l.pending.head?.map (·.index)).getD l.count

def push (l : Lexer) (kind : TokenKind) (start stop : Mark) : Lexer :=
  { l with tokens := ⟨kind, start, stop⟩ :: l.tokens, count := l.count + 1 }

/-- Adds a token behind the first `index` ones. -/
def insertAt (l : Lexer) (index : Nat) (token : Token) : Lexer :=
  let later := l.count - index
  { l with
    tokens := l.tokens.take later ++ token :: l.tokens.drop later
    count := l.count + 1 }

/-- Adds a token of `n` characters at the place and passes it. -/
def take (l : Lexer) (kind : TokenKind) (n : Nat) : Lexer :=
  let next := l.place.skip n
  { l.push kind l.mark next.mark with place := next }

/-- The fault that a required key was not followed by a colon. -/
def noColon (l : Lexer) (k : PendingKey) : Fault :=
  .shape .noColon l.mark (some (.simpleKey, k.mark))

/-- Gives up the keys that no colon can follow any more. -/
def dropPastKeys (l : Lexer) : Except Fault Lexer :=
  match l.pending.find? fun k => k.required && k.isPast l.mark with
  | some k => .error (l.noColon k)
  | none =>
    let keep (k : Option PendingKey) := k.filter (!·.isPast l.mark)
    .ok { l with key := keep l.key, outerKeys := l.outerKeys.map keep }

def dropKey (l : Lexer) : Except Fault Lexer :=
  match l.key with
  | some k => if k.required then .error (l.noColon k) else .ok { l with key := none }
  | none => .ok l

/-- The next token may be a key. -/
def saveKey (l : Lexer) : Except Fault Lexer :=
  if l.keyAllowed then do
    let required := !l.inFlow && l.indent == l.mark.column
    let l ← l.dropKey
    return { l with key := some ⟨l.count, required, l.mark⟩ }
  else .ok l

/-- The columns of the blocks that stay open at a column: how many close, the innermost one and
those around it. -/
def openColumns (column : Int) (indent : Int) : List Int → Nat × Int × List Int
  | [] => (0, indent, [])
  | outer :: rest =>
    if column < indent then
      let (n, left) := openColumns column outer rest
      (n + 1, left)
    else (0, indent, outer :: rest)

/-- Closes the blocks that are indented more than `column`. -/
def closeBlocks (l : Lexer) (column : Int) : Lexer :=
  if l.inFlow then l
  else
    let (n, indent, outer) := openColumns column l.indent l.outerIndents
    let closing := List.replicate n ⟨.blockEnd, l.mark, l.mark⟩
    { l with
      tokens := closing ++ l.tokens, count := l.count + n, indent := indent, outerIndents := outer }

/-- Opens a block at a column unless it is open already; its token goes behind the first `index`
ones. -/
def openBlock (l : Lexer) (column index : Nat) (kind : TokenKind) (mark : Mark) : Lexer :=
  if !l.inFlow && l.indent < column then
    { l with indent := column, outerIndents := l.indent :: l.outerIndents }.insertAt index
      ⟨kind, mark, mark⟩
  else l

/-! ## Tokens -/

/-- The end of the text, which also ends its last line. -/
def takeEnd (l : Lexer) : Except Fault Lexer := do
  let mark := if l.mark.column = 0 then l.mark else ⟨l.mark.index, l.mark.line + 1, 0⟩
  let l := { l with place := ⟨mark, l.place.rest⟩ }.closeBlocks (-1)
  let l ← l.dropKey
  return { l with keyAllowed := false }.push .streamEnd mark mark

def takeDirective (l : Lexer) : Except Fault Lexer := do
  let l ← (l.closeBlocks (-1)).dropKey
  let (kind, stop, next) ← l.place.directive
  return { l.push kind l.mark stop with keyAllowed := false, place := next }

def takeMarker (l : Lexer) (kind : TokenKind) : Except Fault Lexer := do
  let l ← (l.closeBlocks (-1)).dropKey
  return { l with keyAllowed := false }.take kind 3

def takeOpening (l : Lexer) (kind : TokenKind) : Except Fault Lexer := do
  let l ← l.saveKey
  return { l with key := none, outerKeys := l.key :: l.outerKeys, keyAllowed := true }.take kind 1

def takeClosing (l : Lexer) (kind : TokenKind) : Except Fault Lexer := do
  let l ← l.dropKey
  let l := match l.outerKeys with
    | [] => l
    | key :: outer => { l with key := key, outerKeys := outer }
  return { l with keyAllowed := false }.take kind 1

def takeComma (l : Lexer) : Except Fault Lexer := do
  let l ← l.dropKey
  return { l with keyAllowed := true }.take .comma 1

def takeDash (l : Lexer) : Except Fault Lexer := do
  if !l.inFlow && !l.keyAllowed then throw (.shape .noSequenceHere l.mark none)
  let l ← (l.openBlock l.mark.column l.count .blockSequence l.mark).dropKey
  return { l with keyAllowed := true }.take .dash 1

def takeKey (l : Lexer) : Except Fault Lexer := do
  if !l.inFlow && !l.keyAllowed then throw (.shape .noKeyHere l.mark none)
  let l ← (l.openBlock l.mark.column l.count .blockMapping l.mark).dropKey
  return { l with keyAllowed := !l.inFlow }.take .key 1

/-- The colon before a value, which makes the pending key a key. -/
def takeValue (l : Lexer) : Except Fault Lexer := do
  match l.key with
  | some k =>
    let l := l.insertAt k.index ⟨.key, k.mark, k.mark⟩
    let l := l.openBlock k.mark.column k.index .blockMapping k.mark
    return { l with key := none, keyAllowed := false }.take .value 1
  | none =>
    if !l.inFlow && !l.keyAllowed then throw (.shape .noValueHere l.mark none)
    let l := l.openBlock l.mark.column l.count .blockMapping l.mark
    return { l with keyAllowed := !l.inFlow }.take .value 1

def takeAlias (l : Lexer) : Except Fault Lexer := do
  let l ← l.saveKey
  let (name, next) ← l.place.name .alias
  return { l.push (.alias name) l.mark next.mark with keyAllowed := false, place := next }

def takeAnchor (l : Lexer) : Except Fault Lexer := do
  let l ← l.saveKey
  let (name, next) ← l.place.name .anchor
  return { l.push (.anchor name) l.mark next.mark with keyAllowed := false, place := next }

def takeTag (l : Lexer) : Except Fault Lexer := do
  let l ← l.saveKey
  let (handle, suffix, next) ← l.place.tag l.inFlow
  return { l.push (.tag handle suffix) l.mark next.mark with keyAllowed := false, place := next }

def takeBlockText (l : Lexer) (style : ScalarStyle) : Except Fault Lexer := do
  let l ← l.dropKey
  let (text, stop, next) ← l.place.blockText (style == .literal) l.indent
  return { l.push (.scalar text style) l.mark stop with keyAllowed := true, place := next }

def takeQuoted (l : Lexer) (quote : Char) (style : ScalarStyle) : Except Fault Lexer := do
  let l ← l.saveKey
  let (text, next) ← l.place.quoted quote
  return { l.push (.scalar text style) l.mark next.mark with keyAllowed := false, place := next }

/-- A plain scalar; after it, a key may start only on a new line. -/
def takePlain (l : Lexer) : Except Fault Lexer := do
  let l ← l.saveKey
  let found ← l.place.plain l.inFlow (l.indent + 1).toNat
  return { l.push (.scalar found.text .plain) l.mark found.stop with
    keyAllowed := found.broken, place := found.next }

/-- Whether a plain scalar may start with `c` before `rest`. -/
def startsPlain (inFlow : Bool) (c : Char) (rest : List Char) : Bool :=
  if c == '-' then !(rest.head?.map isSpace).getD false
  else if c == '?' || c == ':' then !inFlow && !startsBlank rest
  else !(isSpace c || isBreak c || ",[]\x7b\x7d#&*!|>'\"%@`".toList.contains c)

/-- Reads the token at the place, which no blank precedes. -/
def takeToken (l : Lexer) : Except Fault Lexer :=
  match l.place.rest with
  | [] => l.takeEnd
  | c :: rest =>
    let first := l.mark.column == 0
    if first && c == '%' then l.takeDirective
    else if first && startsMarker '-' (c :: rest) then l.takeMarker .documentStart
    else if first && startsMarker '.' (c :: rest) then l.takeMarker .documentEnd
    else if c == '[' then l.takeOpening .flowSequence
    else if c == '\x7b' then l.takeOpening .flowMapping
    else if c == ']' then l.takeClosing .flowSequenceEnd
    else if c == '\x7d' then l.takeClosing .flowMappingEnd
    else if c == ',' then l.takeComma
    else if c == '-' && startsBlank rest then l.takeDash
    else if c == '?' && (l.inFlow || startsBlank rest) then l.takeKey
    else if c == ':' && (l.inFlow || startsBlank rest) then l.takeValue
    else if c == '*' then l.takeAlias
    else if c == '&' then l.takeAnchor
    else if c == '!' then l.takeTag
    else if c == '|' && !l.inFlow then l.takeBlockText .literal
    else if c == '>' && !l.inFlow then l.takeBlockText .folded
    else if c == '\'' then l.takeQuoted c .single
    else if c == '"' then l.takeQuoted c .double
    else if startsPlain l.inFlow c rest then l.takePlain
    else .error (.shape .noToken l.mark (some (.nextToken, l.mark)))

/-- Passes blanks and comments, and a byte order mark at the very start.  A line break outside of a
flow collection allows a key again; a tab is no blank where a key may start. -/
def skipBlanks (flow comment allowed : Bool) (mark : Mark) : List Char → Bool × Place
  | '\r' :: '\n' :: rest => skipBlanks flow false (allowed || !flow) (mark.nextLine 2) rest
  | c :: rest =>
    if isBreak c then skipBlanks flow false (allowed || !flow) (mark.nextLine 1) rest
    else if comment || c == '#' then skipBlanks flow true allowed (mark.right 1) rest
    else if c == ' ' || (c == '\t' && (flow || !allowed)) || (c == '\ufeff' && mark.index == 0) then
      skipBlanks flow false allowed (mark.right 1) rest
    else (allowed, ⟨mark, c :: rest⟩)
  | [] => (allowed, ⟨mark, []⟩)

/-- How many characters the lexer looks at to tell tokens apart. -/
def lookahead : Nat := 4

/-- Reads the next token.  Where fewer characters than the lexer looks at are left and a fault
follows them, the fault comes first. -/
def next (l : Lexer) (fault : Option Fault) : Except Fault Lexer := do
  let (allowed, place) := skipBlanks l.inFlow false l.keyAllowed l.mark l.place.rest
  let l ← { l with keyAllowed := allowed, place := place }.dropPastKeys
  let l := l.closeBlocks l.mark.column
  match fault with
  | some fault => if (l.place.rest.take lookahead).length < lookahead then throw fault
  | none => pure ()
  let l ← l.takeToken
  match fault with
  | some fault => if l.place.rest.isEmpty then throw fault
  | none => pure ()
  l.dropPastKeys

end Lexer

/-- The tokens of a text, and the fault that stands behind them, if any. -/
structure Tokens where
  tokens : List Token
  fault : Option Fault

namespace Tokens

/-- Whether a fault was found where the characters end. -/
def isAtEnd (l : Lexer) : Fault → Bool
  | .shape _ mark _ => decide (l.mark.index + l.place.rest.length ≤ mark.index)
  | _ => false

def read (fault : Option Fault) (l : Lexer) : Tokens :=
  match l.next fault with
  | .error found =>
    -- what looks like the end of the text is the fault behind it
    let found := if isAtEnd l found then fault.getD found else found
    ⟨(l.tokens.drop (l.count - l.ready)).reverse, some found⟩
  | .ok l' =>
    match l'.tokens with
    | ⟨.streamEnd, _, _⟩ :: _ => ⟨l'.tokens.reverse, none⟩
    | _ =>
      -- every token but the last takes some text
      if l'.place.rest.length < l.place.rest.length then read fault l'
      else ⟨l'.tokens.reverse, none⟩
termination_by l.place.rest.length

def ofSource (source : Source) : Tokens := read source.fault (.start source.chars)

end Tokens
end BundleInstaller.Yaml
