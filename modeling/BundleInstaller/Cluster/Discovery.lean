import BundleInstaller.Cluster.Catalog
import BundleInstaller.Decimal.Reading
import BundleInstaller.Decode.Format

/-!
# What a cluster says of the kinds it serves

A cluster lists its groups with their versions, and for each version the resources in it.  A
resource whose name has a slash belongs to another one and is left out.
-/

namespace BundleInstaller.Cluster

open Decode

structure GroupVersion where
  /-- Group and version as they stand in a path. -/
  groupVersion : String
  version : String
  deriving Repr, DecidableEq

structure Group where
  name : String
  versions : List GroupVersion
  deriving Repr, DecidableEq

structure Resource where
  name : String
  kind : String
  namespaced : Bool
  group? : Option String
  version? : Option String
  deriving Repr, DecidableEq

/-- The resources of a version of a group. -/
structure ResourceList where
  groupVersion : String
  resources : List Resource
  deriving Repr, DecidableEq

/-- Splits group and version at the first slash; without one the group is the core group. -/
def splitGroupVersion (s : String) : String × String :=
  match s.toList.span (· != '/') with
  | (version, []) => ("", String.ofList version)
  | (group, _ :: version) => (String.ofList group, String.ofList version)

/-- The collections of a list of resources.  Of two resources with one name the first says whether
there are namespaces. -/
def ResourceList.collections (l : ResourceList) : List Collection :=
  let (group, version) := splitGroupVersion l.groupVersion
  (l.resources.filter (!·.name.contains '/')).map fun r =>
    let namespaced := ((l.resources.find? (·.name == r.name)).map (·.namespaced)).getD r.namespaced
    ⟨r.group?.getD group, r.version?.getD version, r.kind, r.name,
      if namespaced then .namespaced else .cluster⟩

/-! ## Order of versions -/

/-- How stable a version is: its class, and its numbers. -/
structure Maturity where
  /-- 3 for stable versions, 2 for beta, 1 for alpha and 0 for all others. -/
  rank : Nat
  major : Nat
  minor? : Option Nat
  deriving Repr, DecidableEq

/-- The maturity of a version, such as `v1`, `v2beta1` or `v1alpha`; `none` if it has another form,
or a number of more than 32 bits. -/
def maturity? (version : String) : Option Maturity := do
  let number? := Decimal.readUnsigned? 32
  let 'v' :: rest := version.toList | none
  let (digits, rest) := Decimal.spanDigits rest
  let major ← number? digits
  match rest with
  | [] => return ⟨3, major, none⟩
  | ['b', 'e', 't', 'a'] => return ⟨2, major, none⟩
  | 'b' :: 'e' :: 't' :: 'a' :: minor => return ⟨2, major, ← number? minor⟩
  | ['a', 'l', 'p', 'h', 'a'] => return ⟨1, major, none⟩
  | 'a' :: 'l' :: 'p' :: 'h' :: 'a' :: minor => return ⟨1, major, ← number? minor⟩
  | _ => none

def maturity (version : String) : Maturity := (maturity? version).getD ⟨0, 0, none⟩

/-- Whether a version stands before another one: more mature ones first, and all others in
ascending order.  A version without a minor number stands behind those that have one. -/
def versionBefore (a b : String) : Bool :=
  let x := maturity a
  let y := maturity b
  if x.rank ≠ y.rank then y.rank < x.rank
  else if x.rank = 0 then a < b
  else if x.major ≠ y.major then y.major < x.major
  else x.minor?.any fun m => y.minor?.all (· < m)

/-- Puts a version behind all that do not stand after it. -/
def insertVersion (v : String × ResourceList) :
    List (String × ResourceList) → List (String × ResourceList)
  | [] => [v]
  | w :: rest => if versionBefore v.1 w.1 then v :: w :: rest else w :: insertVersion v rest

/-- The collections of a group, the most mature versions first; of two lists for one version only
the first counts. -/
def groupCollections (lists : List (String × ResourceList)) : List Collection :=
  let sorted := lists.foldl (fun acc v => insertVersion v acc) []
  sorted.flatMap fun (version, _) => ((sorted.lookup version).map (·.collections)).getD []

/-! ## Reading -/

section Reading

variable {σ : Type} {m : Type → Type} [Monad m] [Format σ m]

def readExactly (expected : String) (c : σ) : m Unit := do
  let _ ← Format.text "a string" (fun s =>
    if s = expected then Except.ok s else .error (.value (.text s) expected)) c
  return ()

def readKind {τ α : Type} (kind : String) (init : τ) (step : String → Option (τ → σ → m τ))
    (finish : τ → α) (c : σ) : m α :=
  Format.record (.keyed kind) init
    (fun name =>
      match name with
      | "apiVersion" => some fun t c => do readExactly "v1" c; return t
      | "kind" => some fun t c => do readExactly kind c; return t
      | _ => step name)
    (fun t => .ok (finish t)) c

def readOptionalText (c : σ) : m String := do return (← readText? c).getD ""

def readOptionalList {α : Type} (read : σ → m α) (c : σ) : m (List α) := do
  return (← Format.option (Format.list "a sequence" read) c).getD []

def GroupVersion.read (c : σ) : m GroupVersion :=
  Format.record (.keyed "GroupVersionForDiscovery") ⟨"", ""⟩
    (fun name =>
      match name with
      | "groupVersion" => some fun v c => do return { v with groupVersion := ← readOptionalText c }
      | "version" => some fun v c => do return { v with version := ← readOptionalText c }
      | _ => none)
    .ok c

/-- Reads the address of a server, of which nothing is kept. -/
def readAddress (c : σ) : m Unit :=
  Format.record (.keyed "ServerAddressByClientCIDR") ()
    (fun name =>
      match name with
      | "clientCIDR" | "serverAddress" => some fun _ c => do let _ ← readText? c; return ()
      | _ => none)
    .ok c

def Group.read (c : σ) : m Group :=
  readKind "APIGroup" ⟨"", []⟩
    (fun name =>
      match name with
      | "name" => some fun g c => do return { g with name := ← readOptionalText c }
      | "preferredVersion" =>
        some fun g c => do let _ ← Format.option GroupVersion.read c; return g
      | "serverAddressByClientCIDRs" =>
        some fun g c => do let _ ← readOptionalList readAddress c; return g
      | "versions" =>
        some fun g c => do return { g with versions := ← readOptionalList GroupVersion.read c }
      | _ => none)
    id c

def readGroups (c : σ) : m (List Group) :=
  readKind "APIGroupList" []
    (fun name =>
      match name with
      | "groups" => some fun _ c => readOptionalList Group.read c
      | _ => none)
    id c

def readVersions (c : σ) : m (List String) :=
  readKind "APIVersions" []
    (fun name =>
      match name with
      | "versions" => some fun _ c => readOptionalList readText c
      | "serverAddressByClientCIDRs" =>
        some fun vs c => do let _ ← readOptionalList readAddress c; return vs
      | _ => none)
    id c

def Resource.read (c : σ) : m Resource :=
  Format.record (.keyed "APIResource") ⟨"", "", false, none, none⟩
    (fun name =>
      match name with
      | "name" => some fun r c => do return { r with name := ← readOptionalText c }
      | "kind" => some fun r c => do return { r with kind := ← readOptionalText c }
      | "namespaced" =>
        some fun r c => do return { r with namespaced := (← Format.option Format.bool c).getD false }
      | "group" => some fun r c => do return { r with group? := ← readText? c }
      | "version" => some fun r c => do return { r with version? := ← readText? c }
      | "singularName" | "storageVersionHash" =>
        some fun r c => do let _ ← readText? c; return r
      | "verbs" | "categories" | "shortNames" =>
        some fun r c => do let _ ← readOptionalList readText c; return r
      | _ => none)
    .ok c

def ResourceList.read (c : σ) : m ResourceList :=
  readKind "APIResourceList" ⟨"", []⟩
    (fun name =>
      match name with
      | "groupVersion" => some fun l c => do return { l with groupVersion := ← readOptionalText c }
      | "resources" =>
        some fun l c => do return { l with resources := ← readOptionalList Resource.read c }
      | _ => none)
    id c

end Reading
end BundleInstaller.Cluster
