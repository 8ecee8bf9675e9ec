import BundleInstaller.Cluster.Metadata
import BundleInstaller.Yaml.Value.OfJson

/-!
# Installations

An `Installation` asks for a bundle to be installed and says, in its status, how far the last
attempt came.  It needs processing until its status says that a whole bundle was installed without
an error.
-/

namespace BundleInstaller

open Decode

/-- What stands at the URL of an installation. -/
inductive BundleKind where
  | rawBundle
  | overlay
  /-- A chart, which cannot be installed. -/
  | packagedChart
  deriving Repr, DecidableEq

namespace BundleKind

def text : BundleKind → String
  | rawBundle => "raw-bundle"
  | overlay => "overlay"
  | packagedChart => "packaged-chart"

def all : List BundleKind := [rawBundle, overlay, packagedChart]

def named? (name : String) : Option BundleKind := all.find? (·.text = name)

end BundleKind

/-- What an installation asks for. -/
structure InstallationSpec where
  url : String
  kind : BundleKind
  deriving Repr, DecidableEq

/-- What came of the last attempt. -/
structure InstallationStatus where
  processed : Bool
  /-- How many declarations the bundle had, -1 before the first bundle. -/
  total : Int
  error? : Option String
  deriving Repr, DecidableEq

/-- A bundle to be installed. -/
structure Installation where
  metadata : Cluster.Metadata
  spec : InstallationSpec
  status? : Option InstallationStatus
  deriving Repr, BEq

namespace InstallationStatus

/-- The total before the first bundle. -/
def neverAttempted : Int := -1

/-- The status before the first attempt. -/
def initial : InstallationStatus := ⟨false, neverAttempted, none⟩

/-- Whether there is anything left to do. -/
def needsProcessing (s : InstallationStatus) : Bool :=
  !s.processed || s.error?.isSome || s.total == neverAttempted

def toJson (s : InstallationStatus) : Json :=
  .ofEntries [("processed", .bool s.processed), ("total", .int s.total),
    ("error", .ofText? s.error?)]

end InstallationStatus

def InstallationSpec.toJson (s : InstallationSpec) : Json :=
  .ofEntries [("url", .str s.url), ("kind", .str s.kind.text)]

namespace Installation

def group : String := "stevedore.io"

def version : String := "v1alpha1"

def apiVersion : String := group ++ "/" ++ version

def kind : String := "Installation"

def plural : String := "installations"

def collectionPath : String := "/apis/" ++ apiVersion ++ "/" ++ plural

/-- An installation with nothing but a name and what it asks for. -/
def new (name url : String) (kind : BundleKind) : Installation :=
  ⟨{ Cluster.Metadata.empty with name? := some name }, ⟨url, kind⟩, none⟩

/-- The status, which is the initial one before the first attempt. -/
def status (i : Installation) : InstallationStatus := i.status?.getD .initial

def needsProcessing (i : Installation) : Bool := i.status.needsProcessing

/-- The name, or the name that a name is made from. -/
def anyName (i : Installation) : String :=
  match i.metadata.name? with
  | some name => name
  | none => ((i.metadata.others.lookup "generateName").bind Json.str?).getD ""

/-- The largest total that is written. -/
def maxTotal : Nat := Nat.pow 2 63 - 1

def setTotal (total : Nat) (i : Installation) : Installation :=
  { i with status? := some { i.status with total := min total maxTotal } }

def setProcessed (processed : Bool) (i : Installation) : Installation :=
  { i with status? := some { i.status with processed := processed } }

def setError (error : Option String) (i : Installation) : Installation :=
  { i with status? := some { i.status with error? := error } }

def toJson (i : Installation) : Json :=
  .ofEntries ([("apiVersion", .str apiVersion), ("kind", .str kind),
    ("metadata", i.metadata.toJson), ("spec", i.spec.toJson)] ++
    (i.status?.map fun s => ("status", s.toJson)).toList)

end Installation

/-! ## Reading -/

section Reading

variable {σ : Type} {m : Type → Type} [Monad m] [Format σ m]

def BundleKind.read (c : σ) : m BundleKind := do
  let name ← Format.variant "BundleKind" (all.map text) c
  return (named? name).getD .rawBundle

namespace InstallationSpec

structure Fields where
  url? : Option String
  kind? : Option BundleKind

def step (name : String) : Option (Fields → σ → m Fields) :=
  match name with
  | "url" => some fun f c => do return { f with url? := some (← readOnce name f.url? readText c) }
  | "kind" =>
    some fun f c => do return { f with kind? := some (← readOnce name f.kind? BundleKind.read c) }
  | _ => none

def ofFields (f : Fields) : Except Mismatch InstallationSpec := do
  return ⟨← required "url" f.url?, f.kind?.getD .rawBundle⟩

def read (c : σ) : m InstallationSpec :=
  Format.record (.named "InstallationSpec" [("url", false), ("kind", true)]) ⟨none, none⟩ step
    ofFields c

end InstallationSpec

namespace InstallationStatus

structure Fields where
  processed? : Option Bool
  total? : Option Int
  error? : Option (Option String)

def step (name : String) : Option (Fields → σ → m Fields) :=
  match name with
  | "processed" =>
    some fun f c => do
      return { f with processed? := some (← readOnce name f.processed? Format.bool c) }
  | "total" =>
    some fun f c => do return { f with total? := some (← readOnce name f.total? Format.int64 c) }
  | "error" =>
    some fun f c => do return { f with error? := some (← readOnce name f.error? readText? c) }
  | _ => none

def ofFields (f : Fields) : InstallationStatus :=
  ⟨f.processed?.getD false, f.total?.getD neverAttempted, f.error?.join⟩

def read (c : σ) : m InstallationStatus :=
  Format.record
    (.named "InstallationStatus" [("processed", true), ("total", true), ("error", true)])
    ⟨none, none, none⟩ step (fun f => .ok (ofFields f)) c

end InstallationStatus

namespace Installation

structure Fields where
  metadata? : Option Cluster.Metadata
  spec? : Option InstallationSpec
  status? : Option (Option InstallationStatus)

def step (name : String) : Option (Fields → σ → m Fields) :=
  match name with
  | "metadata" =>
    some fun f c => do
      return { f with metadata? := some (← readOnce name f.metadata? Cluster.Metadata.read c) }
  | "spec" =>
    some fun f c => do
      return { f with spec? := some (← readOnce name f.spec? InstallationSpec.read c) }
  | "status" =>
    some fun f c => do
      let read := Format.option InstallationStatus.read
      return { f with status? := some (← readOnce name f.status? read c) }
  | _ => none

def ofFields (f : Fields) : Except Mismatch Installation := do
  return ⟨← required "metadata" f.metadata?, ← required "spec" f.spec?, f.status?.join⟩

def read (c : σ) : m Installation :=
  Format.record
    (.named "Installation" [("metadata", false), ("spec", false), ("status", false)])
    ⟨none, none, none⟩ step ofFields c

end Installation
end Reading

/-! ## YAML -/

def InstallationSpec.toValue (s : InstallationSpec) : Yaml.Value :=
  .mapping [(.text "url", .text s.url), (.text "kind", .text s.kind.text)]

def InstallationStatus.toValue (s : InstallationStatus) : Yaml.Value :=
  let error := match s.error? with
    | some error => Yaml.Value.text error
    | none => .null
  .mapping [(.text "processed", .bool s.processed), (.text "total", .int s.total),
    (.text "error", error)]

def Installation.toValue (i : Installation) : Yaml.Value :=
  .mapping ([(.text "apiVersion", .text apiVersion), (.text "kind", .text kind),
    (.text "metadata", .ofJson i.metadata.toJson), (.text "spec", i.spec.toValue)] ++
    (i.status?.map fun s => (.text "status", s.toValue)).toList)

end BundleInstaller
