import BundleInstaller.Decode.Mismatch
import BundleInstaller.Yaml.Mark

/-!
# What can be wrong with a YAML text

A `Fault` is the one error of reading YAML.  It is of the octets (`octets`), of the shape of the
text (`shape`), of its content (`content`), or of a limit or an anchor.  `Fault.message` words it;
a place in the first column of the first line is left out.
-/

namespace BundleInstaller.Yaml

open Decode (Mismatch Wording)

/-- What is wrong with the octets of a text. -/
inductive OctetProblem where
  | badLead
  | incomplete
  | badTail
  | badLength
  | badCharacter
  | control
  deriving Repr, DecidableEq

def OctetProblem.message : OctetProblem → String
  | badLead => "invalid leading UTF-8 octet"
  | incomplete => "incomplete UTF-8 octet sequence"
  | badTail => "invalid trailing UTF-8 octet"
  | badLength => "invalid length of a UTF-8 sequence"
  | badCharacter => "invalid Unicode character"
  | control => "control characters are not allowed"

/-- What is wrong with the shape of a text. -/
inductive Problem where
  -- tokens
  | noToken | noColon
  | noSequenceHere | noKeyHere | noValueHere
  -- directives
  | noDirectiveName | badDirectiveName | unknownDirective | noLineEnd
  | noVersionDot | longVersion | noVersion
  | noBlank | noBlankOrBreak
  -- anchors and tags
  | noName | noBang | noTagEnd | noUri | noUriOctet | badUriLead | badUriTail
  -- scalars
  | zeroIndent | tabIndent
  | markerInQuotes | endInQuotes | badEscape | noHexDigit | badCodePoint
  | colonInFlow | tabInPlain
  -- documents and nodes
  | noDocumentStart | secondVersion | badVersion | secondTagHandle | unknownTagHandle
  | noNode | noDash | noKey | noCommaOrBracket | noCommaOrBrace
  deriving Repr, DecidableEq

def Problem.message : Problem → String
  | noToken => "found character that cannot start any token"
  | noColon => "could not find expected ':'"
  | noSequenceHere => "block sequence entries are not allowed in this context"
  | noKeyHere => "mapping keys are not allowed in this context"
  | noValueHere => "mapping values are not allowed in this context"
  | noDirectiveName => "could not find expected directive name"
  | badDirectiveName => "found unexpected non-alphabetical character"
  | unknownDirective => "found unknown directive name"
  | noLineEnd => "did not find expected comment or line break"
  | noVersionDot => "did not find expected digit or '.' character"
  | longVersion => "found extremely long version number"
  | noVersion => "did not find expected version number"
  | noBlank => "did not find expected whitespace"
  | noBlankOrBreak => "did not find expected whitespace or line break"
  | noName => "did not find expected alphabetic or numeric character"
  | noBang => "did not find expected '!'"
  | noTagEnd => "did not find the expected '>'"
  | noUri => "did not find expected tag URI"
  | noUriOctet => "did not find URI escaped octet"
  | badUriLead => "found an incorrect leading UTF-8 octet"
  | badUriTail => "found an incorrect trailing UTF-8 octet"
  | zeroIndent => "found an indentation indicator equal to 0"
  | tabIndent => "found a tab character where an indentation space is expected"
  | markerInQuotes => "found unexpected document indicator"
  | endInQuotes => "found unexpected end of stream"
  | badEscape => "found unknown escape character"
  | noHexDigit => "did not find expected hexadecimal number"
  | badCodePoint => "found invalid Unicode character escape code"
  | colonInFlow => "found unexpected ':'"
  | tabInPlain => "found a tab character that violates indentation"
  | noDocumentStart => "did not find expected <document start>"
  | secondVersion => "found duplicate %YAML directive"
  | badVersion => "found incompatible YAML document"
  | secondTagHandle => "found duplicate %TAG directive"
  | unknownTagHandle => "found undefined tag handle"
  | noNode => "did not find expected node content"
  | noDash => "did not find expected '-' indicator"
  | noKey => "did not find expected key"
  | noCommaOrBracket => "did not find expected ',' or ']'"
  | noCommaOrBrace => "did not find expected ',' or '\x7d'"

/-- What was being read when a problem was found. -/
inductive Activity where
  | nextToken | simpleKey
  | directive | versionDirective | tagDirective | tagDirectiveHandle | tagDirectiveValue
  | tagDirectiveUri
  | anchor | alias | tag | tagUri
  | blockText | quoted | escape | plain
  | node | blockNode | flowNode
  | blockCollection | blockMapping | flowSequence | flowMapping
  deriving Repr, DecidableEq

def Activity.message : Activity → String
  | nextToken => "while scanning for the next token"
  | simpleKey => "while scanning a simple key"
  | directive => "while scanning a directive"
  | versionDirective => "while scanning a %YAML directive"
  | tagDirective => "while scanning a tag directive"
  | tagDirectiveHandle => "while parsing a tag directive"
  | tagDirectiveValue => "while scanning a %TAG directive"
  | tagDirectiveUri => "while parsing a %TAG directive"
  | anchor => "while scanning an anchor"
  | «alias» => "while scanning an alias"
  | tag => "while scanning a tag"
  | tagUri => "while parsing a tag"
  | blockText => "while scanning a block scalar"
  | quoted => "while scanning a quoted scalar"
  | escape => "while parsing a quoted scalar"
  | plain => "while scanning a plain scalar"
  | node => "while parsing a node"
  | blockNode => "while parsing a block node"
  | flowNode => "while parsing a flow node"
  | blockCollection => "while parsing a block collection"
  | blockMapping => "while parsing a block mapping"
  | flowSequence => "while parsing a flow sequence"
  | flowMapping => "while parsing a flow mapping"

/-- The way from the root of a document to a value. -/
inductive Path where
  | root
  | item (parent : Path) (index : Nat)
  | entry (parent : Path) (key : String)
  /-- Under a key that is no text. -/
  | unnamed (parent : Path)
  deriving Repr, DecidableEq

/-- The path in words; the root is a point. -/
def Path.text : Path → String
  | root => "."
  | item parent index => parent.text ++ "[" ++ toString index ++ "]"
  | entry root key => key
  | entry parent key => parent.text ++ "." ++ key
  | unnamed root => "?"
  | unnamed parent => parent.text ++ ".?"

/-- Why a YAML text could not be read. -/
inductive Fault where
  /-- The octets at `offset` are no character of a text. -/
  | octets (problem : OctetProblem) (offset : Nat)
  /-- The text has no shape; `context` says what was being read, and since where. -/
  | shape (problem : Problem) (mark : Mark) (context : Option (Activity × Mark))
  | content (mismatch : Mismatch) (place : Option (Path × Mark))
  | unknownAnchor (mark : Mark)
  | tooDeep (mark : Mark)
  | tooManyAliases
  | noDocument
  | severalDocuments
  deriving Repr, DecidableEq

/-- YAML writes a null as a unit and never uses an exponent. -/
def wording : Wording := ⟨"unit value", Double.positional⟩

def Fault.message : Fault → String
  | octets problem offset =>
    problem.message ++ if offset = 0 then "" else " at position " ++ toString offset
  | shape problem mark context =>
    problem.message ++ mark.suffix ++
      match context with
      | none => ""
      | some (activity, since) =>
        ", " ++ activity.message ++
          if since.line = mark.line ∧ since.column = mark.column then "" else since.suffix
  | content mismatch none => mismatch.message wording
  | content mismatch (some (path, mark)) =>
    (if path.text = "." then "" else path.text ++ ": ") ++ mismatch.message wording ++ mark.suffix
  | unknownAnchor mark => "unknown anchor" ++ mark.suffix
  | tooDeep mark => "recursion limit exceeded" ++ mark.suffix
  | tooManyAliases => "repetition limit exceeded"
  | noDocument => "EOF while parsing a value"
  | severalDocuments =>
    "deserializing from YAML containing more than one document is not supported"

end BundleInstaller.Yaml
