import BundleInstaller.Bundle.Declaration
import BundleInstaller.Bundle.Strategy
import BundleInstaller.Install.Call

/-!
# Applying declarations

A declaration of a new kind is created unless it is there; it is looked up first and never changed.
Any other declaration is created right away in the collection that the cluster serves for its kind,
and one that is there already is left alone.
-/

namespace BundleInstaller.Install

open BundleInstaller.Bundle

/-- The collection of new kinds. -/
def schemaCollection (resource : String) : Cluster.Collection :=
  ⟨schemaGroup, schemaVersion, "CustomResourceDefinition", resource, .cluster⟩

def applySchema (resource : String) (d : Declaration) : Plan (Except InstallError Applied) := do
  let place := schemaCollection resource
  let display := d.header.displayName
  match d.requireName with
  | .error e => return .error (.parse e)
  | .ok name =>
    match ← askCluster (.get place none name) with
    | .error e => return .error (.apply display e)
    | .ok (some _) =>
      note .debug "Schema object exists, leaving it untouched" [("resource", display)]
      return .ok .untouched
    | .ok none =>
      match d.object with
      | .error e => return .error (.parse e)
      | .ok object =>
        match ← askCluster (.create place none object) with
        | .error e => return .error (.apply display e)
        | .ok _ =>
          note .info "Created schema object" [("resource", display)]
          return .ok .created

def applyGeneric (catalog : Cluster.Catalog) (d : Declaration) :
    Plan (Except InstallError Applied) := do
  let header := d.header
  let display := header.displayName
  match d.object with
  | .error e => return .error (.parse e)
  | .ok object =>
    match catalog.find? header.group header.kind header.version with
    | none => return .error (.mapping header.group header.version header.kind)
    | some place =>
      let space := place.targetNamespace object.metadata.ns?
      note .debug "Creating object" [("resource", display), ("path", place.path space)]
      match ← askCluster (.create place space object) with
      | .ok _ =>
        note .info "Created object" [("resource", display)]
        return .ok .created
      | .error e =>
        if e.isAlreadyExists then
          note .debug "Object already exists, skipping" [("resource", display)]
          return .ok .alreadyThere
        else return .error (.apply display e)

def applyDeclaration (catalog : Cluster.Catalog) (d : Declaration) :
    Plan (Except InstallError Applied) :=
  match classify d.header with
  | .schema resource => applySchema resource d
  | .generic => applyGeneric catalog d

end BundleInstaller.Install
