import BundleInstaller.Yaml.Mark

/-!
# Blanks inside a scalar

The blanks between two words of a flow scalar are a `Gap`.  Without a line break they stand as
they are.  With one, the spaces around the breaks are dropped, and the first break is folded: alone
it becomes a space, and before others it disappears.  A separator that is no line feed is never
folded, and neither is a break that a backslash precedes.
-/

namespace BundleInstaller.Yaml

/-- The blanks passed since the last word, both lists with the last first. -/
structure Gap where
  spaces : List Char
  breaks : List Char
  /-- Whether a line break was passed. -/
  broken : Bool
  /-- Whether the first line break was escaped, so that it stands for nothing. -/
  escaped : Bool

namespace Gap

def none : Gap := ⟨[], [], false, false⟩

/-- A line break after a backslash. -/
def afterEscape : Gap := ⟨[], [], true, true⟩

def isNone (g : Gap) : Bool := g.spaces.isEmpty && !g.broken

/-- One more space or tab; after a line break it is indentation. -/
def addSpace (g : Gap) (c : Char) : Gap :=
  if g.broken then g else { g with spaces := c :: g.spaces }

/-- One more line break, given by what it stands for. -/
def addBreak (g : Gap) (c : Char) : Gap :=
  { g with spaces := [], breaks := c :: g.breaks, broken := true }

/-- Line breaks with the first one folded. -/
def fold : List Char → List Char
  | ['\n'] => [' ']
  | '\n' :: more => more
  | breaks => breaks

def text (g : Gap) : List Char :=
  if g.escaped then g.breaks.reverse
  else if g.broken then fold g.breaks.reverse
  else g.spaces.reverse

/-- Adds what the blanks stand for to a text that has its last character first. -/
def addTo (g : Gap) (text : List Char) : List Char := g.text.reverse ++ text

end Gap
end BundleInstaller.Yaml
