import BundleInstaller.Decode.Format
import BundleInstaller.Time.Timestamp

/-!
# Metadata of objects

`Metadata` holds the fields that every object of a cluster has under `metadata`.  Unknown fields
are dropped, null ones are absent, and of a field that stands twice the last value counts.
-/

namespace BundleInstaller.Cluster

open Decode

/-- What every object says of itself. -/
structure Metadata where
  name? : Option String
  ns? : Option String
  resourceVersion? : Option String
  /-- The other known fields, as JSON, in ascending order of their names. -/
  others : List (String × Json)
  deriving Repr, BEq

namespace Metadata

def empty : Metadata := ⟨none, none, none, []⟩

/-- Sets or clears one of the other fields. -/
def setOther (m : Metadata) (name : String) (value : Option Json) : Metadata :=
  let others := m.others.filter (·.1 != name)
  { m with
    others := match value with
      | some j => Json.setEntry name j others
      | none => others }

def toJson (m : Metadata) : Json :=
  let text (name : String) (s : Option String) : List (String × Json) :=
    (s.map fun s => (name, Json.str s)).toList
  .ofEntries (m.others ++ text "name" m.name? ++ text "namespace" m.ns? ++
    text "resourceVersion" m.resourceVersion?)

variable {σ : Type} {m : Type → Type} [Monad m] [Format σ m]

def readTime (c : σ) : m Json :=
  Format.wrapped (fun c =>
    Format.text "an RFC 3339 formatted date and time string" (fun s =>
      match Timestamp.read s with
      | .ok t => .ok (.str t.text)
      | .error f => .error (.other f.message)) c) c

def readStr (c : σ) : m Json := do return .str (← readText c)

def readInt (c : σ) : m Json := do return .int (← Format.int64 c)

def readFlag (c : σ) : m Json := do return .bool (← Format.bool c)

def readTexts (c : σ) : m Json := do
  return .ofEntries ((← readMap readText c).map fun (k, s) => (k, .str s))

def readJsonList (read : σ → m Json) (c : σ) : m Json := do
  return .arr (← Format.list "a sequence" read c)

/-- Reads a record whose fields are all optional as JSON; `fields` gives the readers. -/
def readParts (expected : String) (fields : String → Option (σ → m Json)) (defaults : Json) (c : σ) :
    m Json :=
  Format.record (.keyed expected) defaults
    (fun name => (fields name).map fun read parts c => do
      match (← Format.option read c).or (defaults.get? name) with
      | some j => return parts.set name j
      | none => return parts.erase name)
    .ok c

def ownerField : String → Option (σ → m Json)
  | "apiVersion" | "kind" | "name" | "uid" => some readStr
  | "blockOwnerDeletion" | "controller" => some readFlag
  | _ => none

/-- Reads a reference to an owner, in which four texts are always set. -/
def readOwner (c : σ) : m Json :=
  readParts "OwnerReference" ownerField
    (.ofEntries [("apiVersion", .str ""), ("kind", .str ""), ("name", .str ""), ("uid", .str "")]) c

def managedField : String → Option (σ → m Json)
  | "apiVersion" | "fieldsType" | "manager" | "operation" | "subresource" => some readStr
  | "fieldsV1" => some (Format.wrapped Format.json)
  | "time" => some readTime
  | _ => none

def readManaged (c : σ) : m Json := readParts "ManagedFieldsEntry" managedField (.obj []) c

/-- The fields that are kept as JSON. -/
def otherField : String → Option (σ → m Json)
  | "annotations" | "labels" => some readTexts
  | "creationTimestamp" | "deletionTimestamp" => some readTime
  | "deletionGracePeriodSeconds" | "generation" => some readInt
  | "finalizers" => some (readJsonList readStr)
  | "generateName" | "selfLink" | "uid" => some readStr
  | "managedFields" => some (readJsonList readManaged)
  | "ownerReferences" => some (readJsonList readOwner)
  | _ => none

def step (name : String) : Option (Metadata → σ → m Metadata) :=
  match name with
  | "name" => some fun md c => do return { md with name? := ← readText? c }
  | "namespace" => some fun md c => do return { md with ns? := ← readText? c }
  | "resourceVersion" => some fun md c => do return { md with resourceVersion? := ← readText? c }
  | _ => (otherField name).map fun read md c => do return md.setOther name (← Format.option read c)

def read (c : σ) : m Metadata := Format.record (.keyed "ObjectMeta") empty step .ok c

end Metadata
end BundleInstaller.Cluster
