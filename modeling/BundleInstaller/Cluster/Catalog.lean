import BundleInstaller.Cluster.Collection

/-!
# What a cluster serves

A `Catalog` holds the collections that a cluster serves, at most one for each group, version and
kind.  Of two collections with the same triple the one that was added last counts.
-/

namespace BundleInstaller.Cluster

/-- The collections that a cluster serves. -/
structure Catalog where
  /-- No two of them have the same triple. -/
  collections : List Collection
  deriving Repr, DecidableEq

namespace Catalog

def empty : Catalog := ⟨[]⟩

/-- Adds a collection, in place of one with the same triple. -/
def insert (catalog : Catalog) (c : Collection) : Catalog :=
  ⟨c :: catalog.collections.filter (·.triple != c.triple)⟩

/-- The catalog of a list of collections; later ones take the place of earlier ones. -/
def ofList (cs : List Collection) : Catalog := cs.foldl insert empty

/-- The collection of exactly this group, kind and version. -/
def find? (catalog : Catalog) (group kind version : String) : Option Collection :=
  catalog.collections.find? (·.triple == (group, version, kind))

def size (catalog : Catalog) : Nat := catalog.collections.length

def isEmpty (catalog : Catalog) : Bool := catalog.collections.isEmpty

end Catalog
end BundleInstaller.Cluster
