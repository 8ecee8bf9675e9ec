import BundleInstaller.Url.Encoding

/-!
# Paths of URLs

A path is a list of segments with a slash before each.  The segment `..` takes back the one before
it, except for one that names a drive, and `.` stands for nothing; both may be written with encoded
dots, and leave an empty segment where they are the last one.
-/

namespace BundleInstaller.Url.Path

/-- Whether a segment stands for the one before it. -/
def isParent (segment : List Char) : Bool :=
  ["..", "%2e%2e", "%2e.", ".%2e"].contains (String.ofList (segment.map Char.toLower))

/-- Whether a segment stands for nothing. -/
def isHere (segment : List Char) : Bool :=
  [".", "%2e"].contains (String.ofList (segment.map Char.toLower))

/-- Whether a segment names a drive: a letter and a colon or bar. -/
def isDrive : List Char → Bool
  | [letter, mark] => letter.isAlpha && (mark == ':' || mark == '|')
  | _ => false

/-- Takes back the last of the segments before, the last one first. -/
def parent : List (List Char) → List (List Char)
  | [] => []
  | last :: front => if isDrive last then last :: front else front

/-- Adds a segment to those before it, the last one first. -/
def add (segments : List (List Char)) (segment : List Char) : List (List Char) :=
  if isParent segment then parent segments
  else if isHere segment then segments
  else segment :: segments

/-- The segments of a path when its last one ends; a segment of dots leaves an empty one. -/
def finish (segments : List (List Char)) (segment : List Char) : List (List Char) :=
  let all := add segments segment
  (if isParent segment || isHere segment then [] :: all else all).reverse

/-- Reads segments; `segments` are those before and `current` is the segment so far, both
backwards.  The answer is the segments and what stands behind the path. -/
def readSegments (special : Bool) (segments : List (List Char)) (current : List Char) :
    List Char → List (List Char) × List Char
  | [] => (finish segments current.reverse, [])
  | c :: rest =>
    if c = '?' ∨ c = '#' then (finish segments current.reverse, c :: rest)
    else if c = '/' ∨ (special ∧ c = '\\') then
      readSegments special (add segments current.reverse) [] rest
    else readSegments special segments ((percentEncode inPath [c]).reverse ++ current) rest

def text (segments : List (List Char)) : List Char := segments.flatMap ('/' :: ·)

end BundleInstaller.Url.Path
