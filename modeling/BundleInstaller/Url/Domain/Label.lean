import BundleInstaller.Text.CombiningClass
import BundleInstaller.Text.Direction
import BundleInstaller.Text.Joining
import BundleInstaller.Text.Mark

/-!
# Labels

A label of a domain may not begin with a mark, and the two joiners may stand only where they make a
difference.  If any label of a domain is written from right to left, then no label may mix the
directions.
-/

namespace BundleInstaller.Url.Domain

open Text

/-- The character that keeps its neighbours from being joined. -/
def nonJoiner : Char := '\u200c'

/-- The character that has its neighbours joined. -/
def joiner : Char := '\u200d'

/-- The first way of joining that is not transparent. -/
def nextJoining (s : List Char) : Joining :=
  match s.find? (joining · != .transparent) with
  | some c => joining c
  | none => .none

/-- Whether a joiner or non-joiner may stand between `before`, given backwards, and `after`. -/
def mayJoin (c : Char) (before after : List Char) : Bool :=
  before.head?.any (combiningClass · == viramaClass) ||
    (c == nonJoiner && [.both, .after].contains (nextJoining before) &&
      [.both, .before].contains (nextJoining after))

/-- Whether joiners stand only where they may; `before` is what has been seen, backwards. -/
def joinersAreFine (before : List Char) : List Char → Bool
  | [] => true
  | c :: rest =>
    (!(c == joiner || c == nonJoiner) || mayJoin c before rest) && joinersAreFine (c :: before) rest

/-- Whether a label is one but for its directions. -/
def isLabel (label : List Char) : Bool :=
  !label.head?.any isMark && joinersAreFine [] label

/-! ## Directions -/

def runsLeft (c : Char) : Bool :=
  [.rightToLeft, .arabicLetter, .arabicNumber].contains (direction c)

/-- What may stand in a label of either direction. -/
def neutralDirections : List Direction :=
  [.europeanNumber, .europeanSeparator, .europeanTerminator, .commonSeparator, .neutral,
    .neutralBoundary, .mark]

/-- The last direction that is no mark. -/
def lastDirection? (ds : List Direction) : Option Direction := ds.reverse.find? (· != .mark)

/-- Whether the directions of a label, which begins with a letter, do not mix. -/
def keepsDirection (ds : List Direction) : Bool :=
  match ds with
  | [] => true
  | .leftToRight :: _ =>
    ds.all (fun d => d == .leftToRight || neutralDirections.contains d) &&
      (lastDirection? ds).any fun d => d == .leftToRight || d == .europeanNumber
  | .rightToLeft :: _ | .arabicLetter :: _ =>
    let allowed := [.rightToLeft, .arabicLetter, .arabicNumber] ++ neutralDirections
    ds.all allowed.contains &&
      (lastDirection? ds).any
        ([.rightToLeft, .arabicLetter, .europeanNumber, .arabicNumber].contains ·) &&
      !(ds.contains .europeanNumber && ds.contains .arabicNumber)
  | _ => false

/-- Whether the labels of a domain fit together. -/
def directionsAreFine (labels : List (List Char)) : Bool :=
  !(labels.any fun label => label.any runsLeft) ||
    labels.all fun label => keepsDirection (label.map direction)

end BundleInstaller.Url.Domain
