/-!
# Collections of a cluster

A `Collection` is where the objects of one kind live: a path below the API of a group and version,
and below a namespace if the kind has namespaces.
-/

namespace BundleInstaller.Cluster

/-- Whether the objects of a kind live in namespaces. -/
inductive Scope where
  | cluster
  | namespaced
  deriving Repr, DecidableEq

/-- Where the objects of one kind live. -/
structure Collection where
  group : String
  version : String
  kind : String
  plural : String
  scope : Scope
  deriving Repr, DecidableEq

/-- The namespace of an object that names none. -/
def defaultNamespace : String := "default"

namespace Collection

/-- Group, version and kind: what a cluster has at most one collection for. -/
def triple (c : Collection) : String × String × String := (c.group, c.version, c.kind)

/-- The API version of the objects; the core group has no name. -/
def apiVersion (c : Collection) : String :=
  if c.group.isEmpty then c.version else c.group ++ "/" ++ c.version

/-- The path that the API of the group stands below. -/
def apiRoot (c : Collection) : String := if c.group.isEmpty then "/api" else "/apis"

def isNamespaced (c : Collection) : Bool := c.scope = .namespaced

/-- The namespace that an object which declares `declared` lives in. -/
def targetNamespace (c : Collection) (declared : Option String) : Option String :=
  match c.scope with
  | .namespaced => some (declared.getD defaultNamespace)
  | .cluster => none

/-- The path of the collection, for objects that declare the namespace `declared`. -/
def path (c : Collection) (declared : Option String) : String :=
  let base := c.apiRoot ++ "/" ++ c.apiVersion ++ "/"
  match c.targetNamespace declared with
  | some space => base ++ "namespaces/" ++ space ++ "/" ++ c.plural
  | none => base ++ c.plural

/-- API version and collection, for messages. -/
def display (c : Collection) : String := c.apiVersion ++ "/" ++ c.plural

end Collection
end BundleInstaller.Cluster
