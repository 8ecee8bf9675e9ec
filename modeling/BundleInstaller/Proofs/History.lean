import BundleInstaller.Proofs.Rehearsal

/-!
# Histories

A rehearsal changes by calls, by what it is told, and by whole attempts and reconciliations.  A
`Happening` is one of these, and a history is a list of them.

* `Reachable`: what a history leads to from a cluster without any object.
* `Kept`, `Reachable.invariant`: what all that happens keeps holds in every such state.
* `lookup_after`: an installation that nobody writes to stays what it is.
* `extends_after`: without a new failure, a history leads to an extension.
-/

namespace BundleInstaller.Install

open Cluster Program

/-- Something that happens to a rehearsal. -/
inductive Happening where
  | call (c : Call)
  | register (i : Installation)
  | rejectCreate (kind name words : String)
  | rejectGet (kind name words : String)
  | failDiscovery (fails : Bool)
  | conflictStatus
  | supply (shelf : Fetch.Shelf) (build : Bytes → Except Overlay.BuildError Bytes)
  | attempt (config : Config) (i : Installation)
  | reconcile (config : Config) (version : Option String) (name : String)

namespace Happening

def apply : Happening → Rehearsal → Rehearsal
  | call c, r => (Rehearsal.handle c r).2
  | register i, r => { r with cluster := r.cluster.addInstallation i }
  | rejectCreate kind name words, r => { r with cluster := r.cluster.failCreate kind name words }
  | rejectGet kind name words, r => { r with cluster := r.cluster.failGet kind name words }
  | failDiscovery fails, r => { r with cluster := { r.cluster with failsDiscovery := fails } }
  | conflictStatus, r => { r with cluster := { r.cluster with failsNextStatus := true } }
  | supply shelf build, r => { r with shelf := shelf, build := build }
  | attempt config i, r => (r.run (Install.attempt config i)).2
  | reconcile config version name, r => (r.run (Install.reconcile config version name)).2

/-- Whether it writes to an installation otherwise than by reconciling it. -/
def Writes (name : String) : Happening → Prop
  | call (.cluster (.writeStatus i)) => i.anyName = name
  | register i => i.anyName = name
  | _ => False

/-- Whether it reconciles an installation. -/
def Reconciles (name : String) : Happening → Prop
  | reconcile _ _ other => other = name
  | _ => False

/-- Whether it changes what discovery, looks or creations are told to fail at. -/
def Injects : Happening → Prop
  | rejectCreate _ _ _ | rejectGet _ _ _ | failDiscovery _ => True
  | _ => False

end Happening

namespace Rehearsal

/-- What a rehearsal is after a history. -/
def after (r : Rehearsal) (history : List Happening) : Rehearsal :=
  history.foldl (fun r x => x.apply r) r

def start (shelf : Fetch.Shelf) (build : Bytes → Except Overlay.BuildError Bytes) : Rehearsal :=
  ⟨.empty, shelf, build⟩

/-- What some history leads to. -/
def Reachable (r : Rehearsal) : Prop := ∃ shelf build history, r = (start shelf build).after history

/-! ## What holds in every state -/

/-- What is kept by all that a history is made of. -/
structure Kept (I : Memory → Prop) : Prop where
  answer : ∀ m c, I m → I (m.answer c).2
  register : ∀ m i, I m → I (m.addInstallation i)
  rejectCreate : ∀ m kind name words, I m → I (m.failCreate kind name words)
  rejectGet : ∀ m kind name words, I m → I (m.failGet kind name words)
  failDiscovery : ∀ m fails, I m → I { m with failsDiscovery := fails }
  conflictStatus : ∀ m, I m → I { m with failsNextStatus := true }

namespace Kept

variable {I : Memory → Prop} {r : Rehearsal}

theorem run {α : Type} (hI : Kept I) (p : Plan α) (h : I r.cluster) : I (r.run p).2.cluster := by
  induction p generalizing r with
  | done a => exact h
  | ask c next ih =>
    refine ih _ ?_
    cases c with
    | cluster c => exact hI.answer _ c h
    | _ => exact h

theorem apply (hI : Kept I) (h : I r.cluster) (x : Happening) : I (x.apply r).cluster := by
  cases x with
  | call c =>
    cases c with
    | cluster c => exact hI.answer _ c h
    | _ => exact h
  | register i => exact hI.register _ i h
  | rejectCreate kind name words => exact hI.rejectCreate _ kind name words h
  | rejectGet kind name words => exact hI.rejectGet _ kind name words h
  | failDiscovery fails => exact hI.failDiscovery _ fails h
  | conflictStatus => exact hI.conflictStatus _ h
  | supply shelf build => exact h
  | attempt config i => exact hI.run _ h
  | reconcile config version name => exact hI.run _ h

theorem after (hI : Kept I) (h : I r.cluster) (history : List Happening) :
    I (r.after history).cluster := by
  induction history generalizing r with
  | nil => exact h
  | cons x history ih => exact ih (hI.apply h x)

end Kept

/-- **What holds of a cluster without any object and is kept holds in every state that a history
leads to.** -/
theorem Reachable.invariant {I : Memory → Prop} {r : Rehearsal} (h : r.Reachable)
    (hempty : I .empty) (hI : Kept I) : I r.cluster := by
  obtain ⟨shelf, build, history, rfl⟩ := h
  exact hI.after hempty history

/-! ## Installations under their names -/

theorem kept_keyed : Kept Memory.Keyed where
  answer _ _ h := Memory.keyed_answer h
  register _ _ h := h.setEntry
  rejectCreate _ _ _ _ h := h
  rejectGet _ _ _ _ h := h
  failDiscovery _ _ h := h
  conflictStatus _ h := h

theorem keyed_run {α : Type} (p : Plan α) {r : Rehearsal} (h : r.cluster.Keyed) :
    (r.run p).2.cluster.Keyed := kept_keyed.run p h

theorem keyed_apply {r : Rehearsal} (h : r.cluster.Keyed) (x : Happening) :
    (x.apply r).cluster.Keyed := kept_keyed.apply h x

theorem keyed_after {r : Rehearsal} (h : r.cluster.Keyed) (history : List Happening) :
    (r.after history).cluster.Keyed := kept_keyed.after h history

/-- **Every installation that was ever stored stands under its name.** -/
theorem Reachable.keyed {r : Rehearsal} (h : r.Reachable) : r.cluster.Keyed :=
  h.invariant (fun _ _ hi => by cases hi) kept_keyed

/-! ## Installations that nobody writes to -/

/-- A happening that neither writes to an installation nor has an attempt made for it leaves it as
it is. -/
theorem lookup_apply {r : Rehearsal} {x : Happening} {name : String} (h : r.cluster.Keyed)
    (hwrites : ¬x.Writes name)
    (hreconciles : (∀ i, r.cluster.installations.lookup name = some i → i.needsProcessing = false) ∨
      ¬x.Reconciles name) :
    (x.apply r).cluster.installations.lookup name = r.cluster.installations.lookup name := by
  cases x with
  | call c =>
    cases c with
    | cluster c =>
      refine Memory.lookup_answer fun i hi => ?_
      subst hi
      exact hwrites
    | _ => rfl
  | register i =>
    show (Memory.setEntry _ _ r.cluster.installations).lookup name = _
    rw [Memory.lookup_setEntry, if_neg]
    intro hname
    exact hwrites (eq_of_beq hname).symm
  | attempt config i =>
    show (r.run (Install.attempt config i)).2.cluster.installations.lookup name = _
    rw [(run_attempt_keeps config i r).1]
  | reconcile config version other =>
    show (r.run (Install.reconcile config version other)).2.cluster.installations.lookup name = _
    rw [run_reconcile]
    cases hother : r.cluster.installations.lookup other with
    | none => rfl
    | some i =>
      dsimp only
      split
      · rename_i hneeds
        have hne : other ≠ name := by
          rintro rfl
          rcases hreconciles with hdone | hother'
          · rw [hdone i hother] at hneeds
            cases hneeds
          · exact hother' rfl
        rw [run_process]
        dsimp only
        have hkeeps := (run_attempt_keeps config i (r.afterRead other)).1
        refine (Memory.lookup_answer (c := .writeStatus _) fun j hj => ?_).trans (by
          rw [hkeeps, afterRead_installations])
        cases hj
        rw [Report.apply_anyName, h other i hother]
        exact hne
      · rfl
  | _ => rfl

/-- **An installation that nobody writes to stays what it is** if it is done or not reconciled. -/
theorem lookup_after {r : Rehearsal} {history : List Happening} {name : String}
    (h : r.cluster.Keyed) (hwrites : ∀ x ∈ history, ¬x.Writes name)
    (hreconciles : (∀ i, r.cluster.installations.lookup name = some i → i.needsProcessing = false) ∨
      ∀ x ∈ history, ¬x.Reconciles name) :
    (r.after history).cluster.installations.lookup name = r.cluster.installations.lookup name := by
  induction history generalizing r with
  | nil => rfl
  | cons x history ih =>
    have hx := lookup_apply h (hwrites x List.mem_cons_self)
      (hreconciles.imp id fun hnone => hnone x List.mem_cons_self)
    refine (ih (keyed_apply h x) (fun y hy => hwrites y (List.mem_cons_of_mem _ hy)) ?_).trans hx
    rw [hx]
    exact hreconciles.imp id fun hnone y hy => hnone y (List.mem_cons_of_mem _ hy)

/-! ## Histories without a new failure -/

theorem extends_apply {r : Rehearsal} {x : Happening} (h : ¬x.Injects) :
    r.cluster.Extends (x.apply r).cluster := by
  cases x with
  | call c =>
    cases c with
    | cluster c => exact Memory.extends_answer _ _
    | _ => exact .refl _
  | register i => exact Memory.extends_of_eq rfl rfl rfl rfl
  | conflictStatus => exact Memory.extends_of_eq rfl rfl rfl rfl
  | supply shelf build => exact .refl _
  | attempt config i => exact extends_run _ r
  | reconcile config version name => exact extends_run _ r
  | rejectCreate kind name words => exact absurd trivial h
  | rejectGet kind name words => exact absurd trivial h
  | failDiscovery fails => exact absurd trivial h

/-- **Without a new failure, a history leads to an extension.** -/
theorem extends_after {r : Rehearsal} {history : List Happening}
    (h : ∀ x ∈ history, ¬x.Injects) : r.cluster.Extends (r.after history).cluster := by
  induction history generalizing r with
  | nil => exact .refl _
  | cons x history ih =>
    exact (extends_apply (h x List.mem_cons_self)).trans
      (ih fun y hy => h y (List.mem_cons_of_mem _ hy))

end Rehearsal
end BundleInstaller.Install
