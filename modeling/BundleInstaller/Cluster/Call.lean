import BundleInstaller.Cluster.Catalog
import BundleInstaller.Cluster.Error
import BundleInstaller.Cluster.Object
import BundleInstaller.Installation

/-!
# What a cluster can be asked for

A `Cluster.Call` is one thing that a cluster does.  A cluster is anything that answers such calls:
one in memory, or one at the other end of a connection.
-/

namespace BundleInstaller.Cluster

/-- What a cluster can be asked for. -/
inductive Call where
  | discover
  | get (place : Collection) (space : Option String) (name : String)
  | create (place : Collection) (space : Option String) (object : Object)
  | post (path : String) (body : Bytes)
  | readInstallation (name : String)
  | writeStatus (installation : Installation)

/-- What a call gives if the cluster does not fail. -/
abbrev Call.Result : Call → Type
  | discover => Catalog
  | get _ _ _ => Option Object
  | create _ _ _ => Object
  | post _ _ => Unit
  | readInstallation _ => Option Installation
  | writeStatus _ => Installation

abbrev Call.Answer (c : Call) : Type := Except ClusterError c.Result

end BundleInstaller.Cluster
