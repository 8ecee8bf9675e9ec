import BundleInstaller.Text.Blank
import BundleInstaller.Text.Utf8

/-!
# Chunks of a rendered overlay

A rendered overlay is cut at every marker `---`, wherever it stands, and the pieces between the
markers that are not blank are its chunks.  Markers are found from the left and do not overlap, so a
run of dashes loses three at a time.
-/

namespace BundleInstaller.Overlay

/-- What a rendered overlay is cut at: three dashes. -/
def marker : Bytes := [45, 45, 45]

/-- The pieces between the markers; `current` is the piece so far, its last octet first. -/
def piecesFrom (current : Bytes) : Bytes → List Bytes
  | 45 :: 45 :: 45 :: rest => current.reverse :: piecesFrom [] rest
  | b :: rest => piecesFrom (b :: current) rest
  | [] => [current.reverse]

/-- The pieces between the markers, blank ones among them. -/
def pieces (stream : Bytes) : List Bytes := piecesFrom [] stream

/-- Whether a piece has nothing but blanks in it. -/
def isBlankPiece (piece : Bytes) : Bool := piece.all Text.isAsciiBlank

def chunks (stream : Bytes) : List Bytes := (pieces stream).filter (!isBlankPiece ·)

end BundleInstaller.Overlay
