import BundleInstaller.Cluster.Memory
import BundleInstaller.Fetch.Shelf
import BundleInstaller.Install.Reconcile

/-!
# Rehearsals

A `Rehearsal` answers everything that installing asks for from memory, so that an attempt can be
carried out without a cluster, a server or another program.
-/

namespace BundleInstaller.Install

/-- A cluster, a shelf of bundles and a builder of overlays. -/
structure Rehearsal where
  cluster : Cluster.Memory
  shelf : Fetch.Shelf
  build : Bytes → Except Overlay.BuildError Bytes

namespace Rehearsal

/-- Answers a call from memory. -/
def handle : (c : Call) → StateM Rehearsal c.Answer
  | .fetch url => fun r =>
    let (a, shelf) := r.shelf.fetch url
    (a, { r with shelf := shelf })
  | .build descriptor => fun r => (r.build descriptor, r)
  | .cluster call => fun r =>
    let (a, cluster) := r.cluster.answer call
    (a, { r with cluster := cluster })
  | .note _ => fun r => ((), r)

def run {α : Type} (plan : Plan α) (r : Rehearsal) : α × Rehearsal := plan.run handle r

end Rehearsal
end BundleInstaller.Install
