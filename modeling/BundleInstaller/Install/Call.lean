import BundleInstaller.Cluster.Call
import BundleInstaller.Event
import BundleInstaller.Install.Report
import BundleInstaller.Program

/-!
# What installing asks for

A `Call` is what an attempt asks of the world around it: a bundle, a rendered overlay, or something
of the cluster.  It also notes what it does.
-/

namespace BundleInstaller.Install

/-- What an attempt asks for. -/
inductive Call where
  | fetch (url : String)
  | build (descriptor : Bytes)
  | cluster (call : Cluster.Call)
  | note (event : Event)

abbrev Call.Answer : Call → Type
  | fetch _ => Except FetchError Bytes
  | build _ => Except Overlay.BuildError Bytes
  | cluster call => call.Answer
  | note _ => Unit

/-- What to do to install something. -/
abbrev Plan (α : Type) := Program Call Call.Answer α

def ask (c : Call) : Plan c.Answer := Program.call c

def askCluster (c : Cluster.Call) : Plan c.Answer := ask (.cluster c)

def note (level : Level) (message : String) (fields : List (String × String)) : Plan Unit :=
  ask (.note (.ofTexts level message fields))

end BundleInstaller.Install
