import BundleInstaller.Fetch.Validate

/-!
# Bundles in memory

A `Shelf` holds bundles by their URLs and remembers which URLs were asked for.
-/

namespace BundleInstaller.Fetch

/-- Bundles in memory. -/
structure Shelf where
  /-- The bundles by their URLs, each URL once. -/
  bundles : List (String × Bytes)
  asked : List String
  deriving Repr

namespace Shelf

def empty : Shelf := ⟨[], []⟩

/-- Puts a bundle on the shelf, in place of one with the same URL. -/
def put (url : String) (body : Bytes) (s : Shelf) : Shelf :=
  { s with bundles := (url, body) :: s.bundles.filter (·.1 != url) }

def failedWords (url : String) : String := "Request to " ++ url ++ " failed"

def fetch (url : String) (s : Shelf) : Except FetchError Bytes × Shelf :=
  match validate url with
  | .error e => (.error e, s)
  | .ok _ =>
    let s := { s with asked := s.asked ++ [url] }
    match s.bundles.lookup url with
    | some body => (.ok body, s)
    | none => (.error (.refused 404 (failedWords url)), s)

end Shelf
end BundleInstaller.Fetch
