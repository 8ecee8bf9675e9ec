/-!
# What became of the objects of a bundle

A `Summary` lists the objects that an attempt created and those that it left alone, in the order in
which it came to them.
-/

namespace BundleInstaller.Install

/-- What became of one object. -/
inductive Applied where
  | created
  /-- It was there, and new kinds are never changed. -/
  | untouched
  /-- It was there when it should have been created. -/
  | alreadyThere
  deriving Repr, DecidableEq

def Applied.text : Applied → String
  | created => "created"
  | untouched => "unchanged"
  | alreadyThere => "already exists"

/-- What became of the objects of a bundle. -/
structure Summary where
  created : List String
  skipped : List (String × Applied)
  deriving Repr, DecidableEq

namespace Summary

def empty : Summary := ⟨[], []⟩

def record (s : Summary) (name : String) (applied : Applied) : Summary :=
  match applied with
  | .created => { s with created := s.created ++ [name] }
  | other => { s with skipped := s.skipped ++ [(name, other)] }

/-- How many objects were created and skipped. -/
def text (s : Summary) : String :=
  let count (n : Nat) (what : String) : List String :=
    if n = 0 then [] else [toString n ++ " " ++ what]
  match count s.created.length "created" ++ count s.skipped.length "skipped" with
  | [] => "No resources processed"
  | parts => ", ".intercalate parts

end Summary
end BundleInstaller.Install
