import BundleInstaller.Bundle.Strategy
import BundleInstaller.Cluster.Call
import BundleInstaller.Yaml.Value.Reading

/-!
# A cluster in memory

A `Memory` is a cluster that keeps its objects in memory, for trying out what an attempt does.  It
serves a few kinds from the start and learns others from the definitions that are stored in it.
It creates only what is not there, and writes a status only against the version that it was read
at.  It can be told to fail the next time something is asked of it.
-/

namespace BundleInstaller.Cluster

/-- What tells one stored object from another. -/
structure Key where
  group : String
  kind : String
  space : Option String
  name : String
  deriving Repr, DecidableEq

namespace Key

/-- The order of two optional texts, with no text first. -/
def textBefore : Option String → Option String → Bool
  | none, some _ => true
  | some a, some b => a < b
  | _, none => false

/-- Whether a key stands before another one: by group, kind, namespace and name. -/
def before (a b : Key) : Bool :=
  if a.group ≠ b.group then a.group < b.group
  else if a.kind ≠ b.kind then a.kind < b.kind
  else if a.space ≠ b.space then textBefore a.space b.space
  else a.name < b.name

/-- The key of an object with a name in a collection. -/
def ofCollection (place : Collection) (space : Option String) (name : String) : Key :=
  ⟨place.group, place.kind, place.targetNamespace space, name⟩

/-- Kind and name, for messages. -/
def display (k : Key) : String := k.kind ++ "/" ++ k.name

end Key

/-- How often each kind of operation was asked for. -/
structure Counts where
  discoveries : Nat
  gets : Nat
  creates : Nat
  posts : Nat
  statusReads : Nat
  statusWrites : Nat
  deriving Repr, DecidableEq

/-- A cluster in memory. -/
structure Memory where
  /-- The stored objects in ascending order of their keys, each key once. -/
  objects : List (Key × Object)
  /-- What was posted: path and text, in order. -/
  posts : List (String × String)
  postKeys : List (String × String)
  /-- The installations by their names, each name once. -/
  installations : List (String × Installation)
  /-- Why the next creation of an object with this kind and name fails. -/
  createFailures : List ((String × String) × String)
  getFailures : List ((String × String) × String)
  failsDiscovery : Bool
  failsNextStatus : Bool
  counts : Counts
  deriving Repr

/-! ## Kinds that are served -/

/-- The kinds that are served from the start. -/
def builtinCollections : List Collection :=
  [⟨"", "v1", "Namespace", "namespaces", .cluster⟩,
    ⟨"", "v1", "ConfigMap", "configmaps", .namespaced⟩,
    ⟨"", "v1", "Secret", "secrets", .namespaced⟩,
    ⟨"", "v1", "Service", "services", .namespaced⟩,
    ⟨"", "v1", "ServiceAccount", "serviceaccounts", .namespaced⟩,
    ⟨"apps", "v1", "Deployment", "deployments", .namespaced⟩,
    ⟨"rbac.authorization.k8s.io", "v1", "ClusterRole", "clusterroles", .cluster⟩,
    ⟨Bundle.schemaGroup, "v1", "CustomResourceDefinition", Bundle.schemaResource, .cluster⟩]

def textAt (j : Option Json) (key : String) : Option String :=
  (j.bind (·.get? key)).bind Json.str?

/-- The collections that the definition of a kind gives rise to, one for each version. -/
def definedCollections (definition : Object) : List Collection :=
  let spec := definition.get? "spec"
  let names := spec.bind (·.get? "names")
  match textAt spec "group", textAt names "kind", textAt names "plural" with
  | some group, some kind, some plural =>
    let scope := if textAt spec "scope" = some "Cluster" then Scope.cluster else .namespaced
    let versions := ((spec.bind (·.get? "versions")).bind Json.arr?).getD []
    versions.filterMap fun v =>
      (textAt (some v) "name").map fun version => ⟨group, version, kind, plural, scope⟩
  | _, _, _ => []

/-- Whether a stored object defines a kind. -/
def Key.isDefinition (k : Key) : Bool :=
  k.group == Bundle.schemaGroup && k.kind == "CustomResourceDefinition"

namespace Memory

def empty : Memory := ⟨[], [], [], [], [], [], false, false, ⟨0, 0, 0, 0, 0, 0⟩⟩

/-- The collections that the stored definitions give rise to. -/
def learned (m : Memory) : List Collection :=
  (m.objects.filter (·.1.isDefinition)).flatMap fun (_, o) => definedCollections o

def catalog (m : Memory) : Catalog := .ofList (builtinCollections ++ m.learned)

/-! ## Entries -/

/-- Sets the value of a key in a list in which each key stands once. -/
def setEntry {κ α : Type} [BEq κ] (key : κ) (value : α) (entries : List (κ × α)) : List (κ × α) :=
  if entries.any (·.1 == key) then
    entries.map fun e => if e.1 == key then (key, value) else e
  else entries ++ [(key, value)]

/-- Puts an object where its key belongs. -/
def insertObject (key : Key) (o : Object) : List (Key × Object) → List (Key × Object)
  | [] => [(key, o)]
  | e :: rest => if key.before e.1 then (key, o) :: e :: rest else e :: insertObject key o rest

/-- Takes the failure for a kind and name out of a list of failures. -/
def takeFailure (key : Key) (failures : List ((String × String) × String)) :
    Option (String × List ((String × String) × String)) :=
  (failures.lookup (key.kind, key.name)).map fun words =>
    (words, failures.filter (·.1 != (key.kind, key.name)))

/-! ## What can be asked for -/

def discover (m : Memory) : Except ClusterError Catalog × Memory :=
  let m := { m with counts := { m.counts with discoveries := m.counts.discoveries + 1 } }
  if m.failsDiscovery then
    (.error (.rejected "discovery" "the server is currently unable to handle the request"), m)
  else (.ok m.catalog, m)

def get (place : Collection) (space : Option String) (name : String) (m : Memory) :
    Except ClusterError (Option Object) × Memory :=
  let m := { m with counts := { m.counts with gets := m.counts.gets + 1 } }
  let key := Key.ofCollection place space name
  match takeFailure key m.getFailures with
  | some (words, left) => (.error (.rejected key.display words), { m with getFailures := left })
  | none => (.ok (m.objects.lookup key), m)

/-- An object as it is stored under a key. -/
def stored (key : Key) (o : Object) : Object :=
  { o with metadata := { o.metadata with ns? := key.space, resourceVersion? := some "1" } }

def create (place : Collection) (space : Option String) (o : Object) (m : Memory) :
    Except ClusterError Object × Memory :=
  let m := { m with counts := { m.counts with creates := m.counts.creates + 1 } }
  match o.metadata.name? with
  | none => (.error (.rejected place.kind "metadata.name: Required value"), m)
  | some name =>
    let key := Key.ofCollection place space name
    match takeFailure key m.createFailures with
    | some (words, left) =>
      (.error (.rejected key.display words), { m with createFailures := left })
    | none =>
      if (m.objects.lookup key).isSome then (.error (.alreadyExists key.display), m)
      else
        let o := stored key o
        (.ok o, { m with objects := insertObject key o m.objects })

/-- Kind and name of a document, each empty if it is no text. -/
def postKey (v : Yaml.Value) : String × String :=
  let text (v : Option Yaml.Value) : String := (v.bind Yaml.Value.text?).getD ""
  (text (v.get? "kind"), text ((v.get? "metadata").bind (·.get? "name")))

/-- Takes a document as it is, unless one of the same kind and name was posted before. -/
def post (path : String) (body : Bytes) (m : Memory) : Except ClusterError Unit × Memory :=
  let m := { m with counts := { m.counts with posts := m.counts.posts + 1 } }
  let text := Text.Utf8.toStringLossy body
  match Yaml.Value.ofBytes (Text.Utf8.ofString text) with
  | .error fault => (.error (.serialization fault.message), m)
  | .ok v =>
    let key := postKey v
    if m.postKeys.contains key then (.error (.alreadyExists (key.1 ++ "/" ++ key.2)), m)
    else (.ok (), { m with postKeys := m.postKeys ++ [key], posts := m.posts ++ [(path, text)] })

def readInstallation (name : String) (m : Memory) :
    Except ClusterError (Option Installation) × Memory :=
  let m := { m with counts := { m.counts with statusReads := m.counts.statusReads + 1 } }
  (.ok (m.installations.lookup name), m)

/-- A version of an object as a number of 64 bits. -/
def versionNumber? (version : String) : Option Nat := Decimal.readUnsigned? 64 version.toList

/-- The version after this one, counted in 64 bits. -/
def nextVersion (version : Option String) : String :=
  toString (((version.bind versionNumber?).getD 0 + 1) % Nat.pow 2 64)

/-- Writes the status of an installation, if it was not changed meanwhile. -/
def writeStatus (i : Installation) (m : Memory) : Except ClusterError Installation × Memory :=
  let m := { m with counts := { m.counts with statusWrites := m.counts.statusWrites + 1 } }
  let name := i.anyName
  let resource := "Installation/" ++ name
  if m.failsNextStatus then
    (.error (.conflict resource "the object has been modified"), { m with failsNextStatus := false })
  else
    match m.installations.lookup name with
    | none => (.error (.notFound resource), m)
    | some old =>
      let version := old.metadata.resourceVersion?
      if version ≠ i.metadata.resourceVersion? then
        (.error (.conflict resource "resourceVersion mismatch"), m)
      else
        let metadata := { old.metadata with resourceVersion? := some (nextVersion version) }
        let new := { old with status? := i.status?, metadata := metadata }
        (.ok new, { m with installations := setEntry name new m.installations })

def answer (m : Memory) : (c : Call) → c.Answer × Memory
  | .discover => m.discover
  | .get place space name => m.get place space name
  | .create place space o => m.create place space o
  | .post path body => m.post path body
  | .readInstallation name => m.readInstallation name
  | .writeStatus i => m.writeStatus i

/-! ## What it can be told -/

/-- Stores an installation; without a version it gets the first one. -/
def addInstallation (i : Installation) (m : Memory) : Memory :=
  let version := i.metadata.resourceVersion?.getD "1"
  let i := { i with metadata := { i.metadata with resourceVersion? := some version } }
  { m with installations := setEntry i.anyName i m.installations }

/-- Makes the next creation of an object with this kind and name fail. -/
def failCreate (kind name words : String) (m : Memory) : Memory :=
  { m with createFailures := setEntry (kind, name) words m.createFailures }

/-- Makes the next look at an object with this kind and name fail. -/
def failGet (kind name words : String) (m : Memory) : Memory :=
  { m with getFailures := setEntry (kind, name) words m.getFailures }

/-- The first stored object with this kind, namespace and name. -/
def object? (kind : String) (space : Option String) (name : String) (m : Memory) : Option Object :=
  (m.objects.find? fun (k, _) => k.kind == kind && k.space == space && k.name == name).map (·.2)

end Memory
end BundleInstaller.Cluster
