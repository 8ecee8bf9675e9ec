import BundleInstaller.Cluster.Metadata

/-!
# Objects of a cluster

An `Object` is an object of any kind: its type, its metadata, and all else as JSON.  The type is
read from the entries that are not metadata, in their order: `apiVersion` and `kind` are taken out
of them until one is no text.  If one is missing or no text the object has no type, and what was
taken out is lost.
-/

namespace BundleInstaller.Cluster

open Decode

/-- An object of any kind. -/
structure Object where
  type? : Option (String × String)
  metadata : Metadata
  /-- All other entries, in ascending order of their keys. -/
  data : List (String × Json)
  deriving Repr, BEq

namespace Object

def toJson (o : Object) : Json :=
  let type := match o.type? with
    | some (apiVersion, kind) => [("apiVersion", Json.str apiVersion), ("kind", .str kind)]
    | none => []
  .ofEntries (o.data ++ type ++ [("metadata", o.metadata.toJson)])

def get? (o : Object) (key : String) : Option Json := o.data.lookup key

/-- Takes `apiVersion` and `kind` out of a list of entries, as far as they are texts and stand
once.  The answer is the type, if both were found, and the entries that are left. -/
def takeType (apiVersion kind : Option String) :
    List (String × Content) → Option (String × String) × List (String × Content)
  | [] =>
    match apiVersion, kind with
    | some a, some k => (some (a, k), [])
    | _, _ => (none, [])
  | (key, value) :: rest =>
    if key = "apiVersion" then
      match apiVersion, value.text? with
      | none, some a => takeType (some a) kind rest
      | _, _ => (none, rest)
    else if key = "kind" then
      match kind, value.text? with
      | none, some k => takeType apiVersion (some k) rest
      | _, _ => (none, rest)
    else
      let (type, left) := takeType apiVersion kind rest
      (type, (key, value) :: left)

/-- The entries of an object while it is read, the last one first. -/
structure Draft where
  metadata : Option Metadata
  entries : List (String × Content)

def ofDraft (d : Draft) : Except Mismatch Object :=
  let (type, left) := takeType none none d.entries.reverse
  let texts : List (Content × Content) := left.map fun (k, v) => (.text k, v)
  match Content.entriesToJson texts with
  | .error m => .error m
  | .ok data =>
    let sorted := data.foldl (fun acc (k, v) => Json.setEntry k v acc) []
    .ok ⟨type, d.metadata.getD .empty, sorted⟩

variable {σ : Type} {m : Type → Type} [Monad m] [Format σ m]

def step (name : String) : Option (Draft → σ → m Draft) :=
  if name = "metadata" then
    some fun d c => do return { d with metadata := ← readOnce name d.metadata Metadata.read c }
  else
    some fun d c => do return { d with entries := (name, ← Format.content c) :: d.entries }

def read (c : σ) : m Object :=
  Format.record (.keyed "struct DynamicObject") ⟨none, []⟩ step ofDraft c

end Object
end BundleInstaller.Cluster
