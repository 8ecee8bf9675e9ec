import BundleInstaller.Text.Utf8
import BundleInstaller.Yaml.Mark

/-!
# Tokens of YAML

A text is read as a list of tokens.  Indentation shows in tokens of its own: `blockSequence` and
`blockMapping` open a block and `blockEnd` closes it, and `key` stands before a key even where the
text has no question mark.
-/

namespace BundleInstaller.Yaml

inductive ScalarStyle where
  | plain
  | single
  | double
  | literal
  | folded
  deriving Repr, DecidableEq, Inhabited

inductive TokenKind where
  | streamEnd
  | documentStart
  | documentEnd
  | version (major minor : Nat)
  /-- Declares that tags with this handle start with these octets. -/
  | tagHandle (handle : String) (opening : Bytes)
  | blockSequence
  | blockMapping
  | blockEnd
  | flowSequence
  | flowSequenceEnd
  | flowMapping
  | flowMappingEnd
  | dash
  | comma
  | key
  | value
  | alias (name : String)
  | anchor (name : String)
  | tag (handle : String) (suffix : Bytes)
  | scalar (text : String) (style : ScalarStyle)
  deriving Repr, DecidableEq

/-- A token and the marks before and after it. -/
structure Token where
  kind : TokenKind
  start : Mark
  stop : Mark
  deriving Repr

end BundleInstaller.Yaml
