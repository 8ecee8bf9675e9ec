import BundleInstaller.Yaml.Token.Lexer

/-!
# Events of YAML

Events are the tokens of a text with the syntax taken away: values that start and end.  `step` is
the grammar as a machine with a stack of goals: a goal looks at the next token, may take it, and
gives way to other goals, or tells an event.  `Events.ofTokens` runs it until the text ends or a
goal finds the wrong token.
-/

namespace BundleInstaller.Yaml

/-- What is told of a text. -/
inductive EventKind where
  | streamEnd
  | documentStart
  | documentEnd
  | alias (name : String)
  | scalar (anchor : Option String) (tag : Option Bytes) (text : String) (style : ScalarStyle)
  | sequenceStart (anchor : Option String) (tag : Option Bytes)
  | sequenceEnd
  | mappingStart (anchor : Option String) (tag : Option Bytes)
  | mappingEnd
  deriving Repr

/-- An event and where it starts. -/
structure Event where
  kind : EventKind
  mark : Mark
  deriving Repr

/-- What may follow in a text. -/
inductive Goal where
  /-- A document; the first one needs no marker. -/
  | document (first : Bool)
  /-- The root of a document after its marker. -/
  | content
  | documentEnd
  | node (block : Bool)
  /-- A value in a block mapping, where a sequence needs no indentation. -/
  | looseNode
  | blockItems (since : Mark)
  | looseItems
  | blockKey (since : Mark)
  | blockValue (since : Mark)
  /-- The items of a flow sequence that starts at a mark; `fresh` after its bracket or a comma. -/
  | flowItems (since : Mark) (fresh : Bool)
  | pairKey
  | pairValue
  | pairEnd
  | flowKey (since : Mark) (fresh : Bool)
  | flowValue
  /-- The value of a flow entry that is a key alone. -/
  | noFlowValue
  deriving Repr

/-- The state of the grammar. -/
structure Grammar where
  goals : List Goal
  tokens : List Token
  handles : List (String × Bytes)

namespace Grammar

/-- The handles that need no directive. -/
def defaultHandles : List (String × Bytes) :=
  [("!", Text.Utf8.ofString "!"), ("!!", Text.Utf8.ofString "tag:yaml.org,2002:")]

/-- An empty plain scalar, which stands where a value is missing. -/
def missing (mark : Mark) : Event := ⟨.scalar none none "" .plain, mark⟩

/-- Drops document end markers from the front of a list of tokens. -/
def dropEnds : List Token → List Token
  | ⟨.documentEnd, _, _⟩ :: rest => dropEnds rest
  | tokens => tokens

/-- Reads the directives at the front of a list of tokens.  The tokens may end behind them. -/
def readDirectives (version : Bool) (handles : List (String × Bytes)) :
    List Token → Except Fault (List (String × Bytes) × List Token)
  | ⟨.version major minor, start, _⟩ :: rest =>
    if version then .error (.shape .secondVersion start none)
    else if major ≠ 1 ∨ (minor ≠ 1 ∧ minor ≠ 2) then .error (.shape .badVersion start none)
    else readDirectives true handles rest
  | ⟨.tagHandle handle opening, start, _⟩ :: rest =>
    if handles.any (·.1 == handle) then .error (.shape .secondTagHandle start none)
    else readDirectives version (handles ++ [(handle, opening)]) rest
  | tokens => .ok (handles, tokens)

/-- An anchor and a tag, in either order, before a value. -/
structure Properties where
  anchor : Option String
  tag : Option (String × Bytes × Mark)
  stop : Option Mark

/-- Reads an anchor and a tag off the front of a list of tokens. -/
def properties : List Token → Properties × List Token
  | ⟨.anchor a, _, _⟩ :: ⟨.tag h s, start, stop⟩ :: rest => (⟨some a, some (h, s, start), some stop⟩, rest)
  | ⟨.anchor a, _, stop⟩ :: rest => (⟨some a, none, some stop⟩, rest)
  | ⟨.tag h s, start, _⟩ :: ⟨.anchor a, _, stop⟩ :: rest => (⟨some a, some (h, s, start), some stop⟩, rest)
  | ⟨.tag h s, start, stop⟩ :: rest => (⟨none, some (h, s, start), some stop⟩, rest)
  | tokens => (⟨none, none, none⟩, tokens)

/-- A tag with its handle replaced by what it stands for. -/
def resolveTag (handles : List (String × Bytes)) (since : Mark) :
    Option (String × Bytes × Mark) → Except Fault (Option Bytes)
  | none => .ok none
  | some (handle, suffix, mark) =>
    if handle.isEmpty then .ok (some suffix)
    else match handles.lookup handle with
      | some opening => .ok (some (opening ++ suffix))
      | none => .error (.shape .unknownTagHandle mark (some (.node, since)))

/-- What the grammar did: went on silently, or told an event. -/
abbrev Step := Option Event × Grammar

/-- Reads a value.  `none` means that the tokens ended first. -/
def readNode (g : Grammar) (goals : List Goal) (block loose : Bool) :
    Except Fault (Option Step) := do
  let some first := g.tokens.head? | return none
  let go (goals : List Goal) (tokens : List Token) (event : Event) : Option Step :=
    some (some event, { g with goals := goals, tokens := tokens })
  match first.kind with
  | .alias name => return go goals (g.tokens.drop 1) ⟨.alias name, first.start⟩
  | _ =>
    let (props, tokens) := properties g.tokens
    let some token := tokens.head? | return none
    let start := first.start
    let tag ← resolveTag g.handles start props.tag
    let rest := tokens.drop 1
    match token.kind with
    | .scalar text style => return go goals rest ⟨.scalar props.anchor tag text style, start⟩
    | .flowSequence =>
      return go (.flowItems token.start true :: goals) rest ⟨.sequenceStart props.anchor tag, start⟩
    | .flowMapping =>
      return go (.flowKey token.start true :: goals) rest ⟨.mappingStart props.anchor tag, start⟩
    | kind =>
      if loose && kind == .dash then
        return go (.looseItems :: goals) tokens ⟨.sequenceStart props.anchor tag, start⟩
      else if block && kind == .blockSequence then
        return go (.blockItems token.start :: goals) rest ⟨.sequenceStart props.anchor tag, start⟩
      else if block && kind == .blockMapping then
        return go (.blockKey token.start :: goals) rest ⟨.mappingStart props.anchor tag, start⟩
      else if props.stop.isSome then
        return go goals tokens ⟨.scalar props.anchor tag "" .plain, start⟩
      else
        let activity := if block then .blockNode else .flowNode
        throw (.shape .noNode token.start (some (activity, start)))

/-- Whether a token starts or ends a document. -/
def isDocumentToken : TokenKind → Bool
  | .version _ _ | .tagHandle _ _ | .documentStart | .documentEnd | .streamEnd => true
  | _ => false

/-- Whether a token may follow a document end without a new document before it. -/
def startsDocument : TokenKind → Bool
  | .version _ _ | .tagHandle _ _ | .documentStart | .streamEnd => true
  | _ => false

/-- Starts a document, or ends the text. -/
def startDocument (g : Grammar) (goals : List Goal) (first : Bool) :
    Except Fault (Option Step) := do
  let tokens := if first then g.tokens else dropEnds g.tokens
  let some token := tokens.head? | return none
  if first && !startsDocument token.kind then
    return some (some ⟨.documentStart, token.start⟩,
      ⟨.node true :: .documentEnd :: goals, tokens, defaultHandles⟩)
  if token.kind == .streamEnd then
    return some (some ⟨.streamEnd, token.start⟩, { g with goals := [], tokens := tokens.drop 1 })
  let (handles, tokens) ← readDirectives false [] tokens
  let some marker := tokens.head? | return none
  if marker.kind != .documentStart then throw (.shape .noDocumentStart marker.start none)
  return some (some ⟨.documentStart, token.start⟩,
    ⟨.content :: .documentEnd :: goals, tokens.drop 1, handles ++ defaultHandles⟩)

/-- Takes the next token and reads a value after it, unless a token that `ends` follows: then the
value is missing, and stands at `mark`. -/
def valueAfter (g : Grammar) (goals : List Goal) (value : Goal) (mark : Mark)
    (ends : TokenKind → Bool) : Option Step :=
  let tokens := g.tokens.drop 1
  match tokens.head? with
  | none => none
  | some token =>
    if ends token.kind then some (some (missing mark), { g with goals := goals, tokens := tokens })
    else some (none, { g with goals := value :: goals, tokens := tokens })

/-- The tokens before which the value of a block entry is missing. -/
def endsEntry (kind : TokenKind) : Bool := kind == .key || kind == .value || kind == .blockEnd

/-- Works on the goal `goal`, before `goals`.  The answer is `none` if the tokens end. -/
def step (g : Grammar) (goals : List Goal) (goal : Goal) : Except Fault (Option Step) := do
  let some token := g.tokens.head? | return none
  let kind := token.kind
  let tell (goals : List Goal) (event : EventKind) : Option Step :=
    some (some ⟨event, token.start⟩, { g with goals := goals })
  let takeAndTell (goals : List Goal) (event : EventKind) : Option Step :=
    some (some ⟨event, token.start⟩, { g with goals := goals, tokens := g.tokens.drop 1 })
  let expect (goals : List Goal) : Option Step := some (none, { g with goals := goals })
  match goal with
  | .document first => startDocument g goals first
  | .content =>
    if isDocumentToken kind then return tell goals (missing token.start).kind
    else return expect (.node true :: goals)
  | .documentEnd =>
    let goals := .document false :: goals
    if kind == .documentEnd then return takeAndTell goals .documentEnd
    else return tell goals .documentEnd
  | .node block => readNode g goals block false
  | .looseNode => readNode g goals true true
  | .blockItems since =>
    if kind == .dash then
      return valueAfter g (.blockItems since :: goals) (.node true) token.stop
        fun k => k == .dash || k == .blockEnd
    else if kind == .blockEnd then return takeAndTell goals .sequenceEnd
    else throw (.shape .noDash token.start (some (.blockCollection, since)))
  | .looseItems =>
    if kind == .dash then
      return valueAfter g (.looseItems :: goals) (.node true) token.stop
        fun k => k == .dash || endsEntry k
    else return tell goals .sequenceEnd
  | .blockKey since =>
    if kind == .key then
      return valueAfter g (.blockValue since :: goals) .looseNode token.stop endsEntry
    else if kind == .blockEnd then return takeAndTell goals .mappingEnd
    else throw (.shape .noKey token.start (some (.blockMapping, since)))
  | .blockValue since =>
    let goals := .blockKey since :: goals
    if kind == .value then return valueAfter g goals .looseNode token.stop endsEntry
    else return tell goals (missing token.start).kind
  | .flowItems since fresh =>
    if kind == .flowSequenceEnd then return takeAndTell goals .sequenceEnd
    else if fresh then
      if kind == .key then
        return takeAndTell (.pairKey :: .flowItems since false :: goals) (.mappingStart none none)
      else return expect (.node false :: .flowItems since false :: goals)
    else if kind == .comma then
      return some (none, { g with goals := .flowItems since true :: goals, tokens := g.tokens.drop 1 })
    else throw (.shape .noCommaOrBracket token.start (some (.flowSequence, since)))
  | .pairKey =>
    let goals := .pairValue :: goals
    if kind == .value || kind == .comma || kind == .flowSequenceEnd then
      -- the token in place of the key is passed
      return some (some (missing token.stop), { g with goals := goals, tokens := g.tokens.drop 1 })
    else return expect (.node false :: goals)
  | .pairValue =>
    let goals := .pairEnd :: goals
    if kind == .value then
      let some next := (g.tokens.drop 1).head? | return none
      return valueAfter g goals (.node false) next.start
        fun k => k == .comma || k == .flowSequenceEnd
    else return tell goals (missing token.start).kind
  | .pairEnd => return tell goals .mappingEnd
  | .flowKey since fresh =>
    if kind == .flowMappingEnd then return takeAndTell goals .mappingEnd
    else if fresh then
      let goals' := .flowKey since false :: goals
      if kind == .key then
        let some next := (g.tokens.drop 1).head? | return none
        return valueAfter g (.flowValue :: goals') (.node false) next.start
          fun k => k == .value || k == .comma || k == .flowMappingEnd
      else return expect (.node false :: .noFlowValue :: goals')
    else if kind == .comma then
      return some (none, { g with goals := .flowKey since true :: goals, tokens := g.tokens.drop 1 })
    else throw (.shape .noCommaOrBrace token.start (some (.flowMapping, since)))
  | .flowValue =>
    if kind == .value then
      let some next := (g.tokens.drop 1).head? | return none
      return valueAfter g goals (.node false) next.start
        fun k => k == .comma || k == .flowMappingEnd
    else return tell goals (missing token.start).kind
  | .noFlowValue => return tell goals (missing token.start).kind

end Grammar

/-- The events of a text, and the fault that stands behind them, if any. -/
structure Events where
  events : List Event
  fault : Option Fault

namespace Events

/-- Runs the grammar for at most `steps` steps; `told` are the events so far, the last first, and
`fault` stands behind the tokens. -/
def run (fault : Option Fault) (g : Grammar) (told : List Event) : (steps : Nat) → Events
  | 0 => ⟨told.reverse, fault⟩
  | steps + 1 =>
    match g.goals with
    | [] => ⟨told.reverse, none⟩
    | goal :: goals =>
      match g.step goals goal with
      | .error found => ⟨told.reverse, some found⟩
      | .ok none => ⟨told.reverse, fault⟩
      | .ok (some (event, g)) => run fault g (event.toList ++ told) steps

/-- The events of a list of tokens.  A token adds at most three goals, so the grammar ends before
it has made eight steps for each token. -/
def ofTokens (t : Tokens) : Events :=
  run t.fault ⟨[.document true], t.tokens, Grammar.defaultHandles⟩ [] (8 * (t.tokens.length + 2))

end Events
end BundleInstaller.Yaml
