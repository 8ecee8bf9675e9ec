import BundleInstaller.Operator.Control
import BundleInstaller.Proofs.Accounting
import BundleInstaller.Proofs.History

/-!
# No installation is parked while it is incomplete

Reconciling ends in one of five ways (`Reconciled`), and each of them leaves the installation in a
state that fits what is done next: it waits for a change just if nothing is left to do.

* `reconciled`: the five ways, for every state in which installations stand under their names.
* `reconcile_parks_done`: the action after a step, and what later steps do.
-/

namespace BundleInstaller.Install

open Cluster Program Operator

/-! ## Written statuses -/

/-- A status that tells of success needs no processing, and one that tells of an error does. -/
theorem needsProcessing_of_apply {report : Report} {i new : Installation}
    (hstatus : new.status? = (report.apply i).status?)
    (h : report.error? = none → ∃ n, report.total? = some n) :
    new.needsProcessing = report.error?.isSome := by
  rw [Installation.needsProcessing, Installation.status, hstatus, Report.apply_status,
    Option.getD_some]
  unfold InstallationStatus.needsProcessing Report.isSuccess
  cases he : report.error? with
  | some e => rfl
  | none =>
    obtain ⟨n, hn⟩ := h he
    rw [hn]
    have hne : min (n : Int) Installation.maxTotal ≠ InstallationStatus.neverAttempted := by
      unfold InstallationStatus.neverAttempted
      omega
    simpa using hne

namespace Rehearsal

/-- How reconciling an installation ends: what is stored under its name then, and the result. -/
inductive Reconciled (name : String) (r : Rehearsal) : Except InstallError Outcome → Prop
  | gone (h : r.cluster.installations.lookup name = none) : Reconciled name r (.ok .gone)
  | skipped {i : Installation} (h : r.cluster.installations.lookup name = some i)
      (hdone : i.needsProcessing = false) : Reconciled name r (.ok .skipped)
  | succeeded {i : Installation} {total : Nat} (h : r.cluster.installations.lookup name = some i)
      (hdone : i.needsProcessing = false) : Reconciled name r (.ok (.succeeded total))
  | failed {i : Installation} {total? : Option Nat} {error : String}
      (h : r.cluster.installations.lookup name = some i) (hneeds : i.needsProcessing = true) :
      Reconciled name r (.ok (.failed total? error))
  /-- The status could not be written. -/
  | unwritten {i : Installation} {e : InstallError}
      (h : r.cluster.installations.lookup name = some i) (hneeds : i.needsProcessing = true) :
      Reconciled name r (.error e)

theorem reconciled_process {r : Rehearsal} {i : Installation} (config : Config)
    (version : Option String) (hlookup : r.cluster.installations.lookup i.anyName = some i)
    (hneeds : i.needsProcessing = true) :
    Reconciled i.anyName (r.run (process config version i)).2
      (r.run (process config version i)).1 := by
  have htotal : (r.run (attempt config i)).1.error? = none →
      ∃ n, (r.run (attempt config i)).1.total? = some n :=
    total_of_attempt (yields_transcript handle (attempt config i) r)
  -- the writing of the status is all that can still go wrong
  cases hfails : r.cluster.failsNextStatus with
  | true =>
    obtain ⟨hkeeps, hconflict⟩ := run_attempt_keeps config i r
    rw [hfails] at hconflict
    obtain ⟨counts, e, hwritten⟩ := Memory.writeStatus_of_conflict
      (i := (r.run (attempt config i)).1.apply i) hconflict
    rw [run_process]
    dsimp only
    rw [hwritten]
    refine .unwritten (i := i) ?_ hneeds
    show (r.run (attempt config i)).2.cluster.installations.lookup i.anyName = some i
    rw [hkeeps, hlookup]
  | false =>
    obtain ⟨counts, new, hrun, hnew, hstatus, -, -⟩ := run_process_of_current config version hlookup
      hfails
    have hnewNeeds : new.needsProcessing = (r.run (attempt config i)).1.error?.isSome :=
      needsProcessing_of_apply hstatus htotal
    rw [hrun] at hnew ⊢
    unfold outcome
    dsimp only
    cases he : (r.run (attempt config i)).1.error? with
    | none =>
      rw [he] at hnewNeeds
      exact .succeeded hnew hnewNeeds
    | some e =>
      rw [he] at hnewNeeds
      exact .failed hnew hnewNeeds

/-- **Reconciling ends in one of five ways.** -/
theorem reconciled {r : Rehearsal} (h : r.cluster.Keyed) (config : Config)
    (version : Option String) (name : String) :
    Reconciled name (r.run (reconcile config version name)).2
      (r.run (reconcile config version name)).1 := by
  rw [run_reconcile]
  cases hlookup : r.cluster.installations.lookup name with
  | none => exact .gone hlookup
  | some i =>
    dsimp only
    split
    · rename_i hneeds
      have hname := h name i hlookup
      subst hname
      exact reconciled_process config version hlookup hneeds
    · rename_i hdone
      exact .skipped hlookup (Bool.not_eq_true _ ▸ hdone)

/-! ## Steps -/

/-- Whether nothing is left to do: there is no installation with the name, or none that needs
processing. -/
def IsDone (name : String) (r : Rehearsal) : Prop :=
  ∀ i, r.cluster.installations.lookup name = some i → i.needsProcessing = false

/-- Whether reconciling only looks the installation up, and skips it. -/
def OnlyLooks (config : Config) (version : Option String) (name : String) (r : Rehearsal) : Prop :=
  (r.run (reconcile config version name)).1 = .ok .skipped ∧
    ∀ x ∈ (reconcile config version name).transcript handle r,
      x.1 = .cluster (.readInstallation name) ∨ ∃ e, x.1 = .note e

/-- Whether reconciling makes an attempt for the installation that is stored. -/
def MakesAttempt (config : Config) (version : Option String) (name : String) (r : Rehearsal) :
    Prop :=
  ∃ i, r.cluster.installations.lookup name = some i ∧
    (attempt config i).transcript handle (r.afterRead name) <:+:
      (reconcile config version name).transcript handle r

theorem run_readInstallation {r : Rehearsal} {name : String} {i? : Option Installation}
    (h : r.cluster.installations.lookup name = i?) :
    (askCluster (.readInstallation name)).run handle r = (.ok i?, r.afterRead name) :=
  Prod.ext (congrArg Except.ok h) rfl

theorem onlyLooks_of_done {r : Rehearsal} {name : String} {i : Installation}
    (h : r.cluster.installations.lookup name = some i) (hdone : i.needsProcessing = false)
    (config : Config) (version : Option String) : r.OnlyLooks config version name := by
  constructor
  · rw [run_reconcile, h]
    dsimp only
    rw [hdone]
    rfl
  · intro x hx
    unfold reconcile at hx
    rw [transcript_bind, run_readInstallation h] at hx
    dsimp only at hx
    rw [hdone] at hx
    rcases List.mem_cons.mp hx with rfl | hx
    · exact .inl rfl
    · rw [List.mem_singleton.mp hx]
      exact .inr ⟨_, rfl⟩

theorem makesAttempt_of_needs {r : Rehearsal} {name : String} {i : Installation}
    (h : r.cluster.installations.lookup name = some i) (hneeds : i.needsProcessing = true)
    (config : Config) (version : Option String) : r.MakesAttempt config version name := by
  refine ⟨i, h, ?_⟩
  unfold reconcile
  rw [transcript_bind, run_readInstallation h]
  dsimp only
  rw [if_pos hneeds]
  refine List.IsInfix.trans ?_ (List.suffix_append _ _).isInfix
  unfold process
  rw [transcript_bind]
  refine List.IsInfix.trans ?_ (List.suffix_append _ _).isInfix
  rw [transcript_bind]
  exact (List.prefix_append _ _).isInfix

namespace Reconciled

variable {name : String} {r : Rehearsal} {result : Except InstallError Outcome}

theorem action (h : Reconciled name r result) (retry : Duration) :
    (Action.ofResult retry result = .awaitChange ∧ r.IsDone name) ∨
      (Action.ofResult retry result = .requeue retry ∧ ¬r.IsDone name) := by
  cases h with
  | gone h =>
    refine .inl ⟨rfl, fun i hi => ?_⟩
    rw [h] at hi
    cases hi
  | skipped h hdone | succeeded h hdone =>
    refine .inl ⟨rfl, fun i hi => ?_⟩
    rw [h] at hi
    cases hi
    exact hdone
  | failed h hneeds | unwritten h hneeds =>
    refine .inr ⟨rfl, fun hdone => ?_⟩
    rw [hdone _ h] at hneeds
    cases hneeds

theorem done_of_success (h : Reconciled name r result)
    (hresult : result = .ok .skipped ∨ ∃ total, result = .ok (.succeeded total)) :
    ∃ i, r.cluster.installations.lookup name = some i ∧ i.needsProcessing = false := by
  cases h with
  | skipped h hdone | succeeded h hdone => exact ⟨_, h, hdone⟩
  | _ => rcases hresult with hresult | ⟨_, hresult⟩ <;> cases hresult

theorem needs_of_failure (h : Reconciled name r result)
    (hresult : ∃ total? error, result = .ok (.failed total? error)) :
    ∃ i, r.cluster.installations.lookup name = some i ∧ i.needsProcessing = true := by
  obtain ⟨total?, error, hresult⟩ := hresult
  cases h with
  | failed h hneeds => exact ⟨_, h, hneeds⟩
  | _ => cases hresult

end Reconciled

/-- **An installation waits for a change just if nothing is left to do for it.**  Once reconciling
it has succeeded or was skipped, it is only looked up later on; and when an attempt has failed, the
next reconciliation makes another one. -/
theorem reconcile_parks_done {r : Rehearsal} (h : r.Reachable) (config : Config)
    (version : Option String) (name : String) :
    let step := r.run (reconcile config version name)
    let action := Action.ofResult config.retryInterval step.1
    (action = .awaitChange ↔ step.2.IsDone name) ∧
      (action = .requeue config.retryInterval ↔ ¬step.2.IsDone name) ∧
      ((step.1 = .ok .skipped ∨ ∃ total, step.1 = .ok (.succeeded total)) →
        ∀ history : List Happening, (∀ x ∈ history, ¬x.Writes name) → ∀ config' version',
          (step.2.after history).OnlyLooks config' version' name) ∧
      ((∃ total? error, step.1 = .ok (.failed total? error)) →
        ∀ history : List Happening, (∀ x ∈ history, ¬x.Writes name ∧ ¬x.Reconciles name) →
          ∀ config' version', (step.2.after history).MakesAttempt config' version' name) := by
  intro step action
  have hkeyed : step.2.cluster.Keyed := keyed_run _ h.keyed
  have hstep : Reconciled name step.2 step.1 := reconciled h.keyed config version name
  refine ⟨?_, ?_, fun hresult history hwrites config' version' => ?_,
    fun hresult history hquiet config' version' => ?_⟩
  · rcases hstep.action config.retryInterval with ⟨haction, hdone⟩ | ⟨haction, hdone⟩
    · exact ⟨fun _ => hdone, fun _ => haction⟩
    · exact ⟨fun hawait => absurd (haction.symm.trans hawait) (by simp), fun h => absurd h hdone⟩
  · rcases hstep.action config.retryInterval with ⟨haction, hdone⟩ | ⟨haction, hdone⟩
    · exact ⟨fun hagain => absurd (haction.symm.trans hagain) (by simp), fun h => absurd hdone h⟩
    · exact ⟨fun _ => hdone, fun _ => haction⟩
  · obtain ⟨i, hi, hdone⟩ := hstep.done_of_success hresult
    have hlater := lookup_after hkeyed hwrites (.inl fun j hj => by
      rw [hi] at hj
      cases hj
      exact hdone)
    exact onlyLooks_of_done (hlater.trans hi) hdone config' version'
  · obtain ⟨i, hi, hneeds⟩ := hstep.needs_of_failure hresult
    have hlater := lookup_after hkeyed (fun x hx => (hquiet x hx).1)
      (.inr fun x hx => (hquiet x hx).2)
    exact makesAttempt_of_needs (hlater.trans hi) hneeds config' version'

/-- A chart cannot be installed, and is tried again and again. -/
theorem reconcile_parks_done_chart :
    let r := (start .empty .ok).after [.register (.new "demo" "" .packagedChart)]
    r.Reachable ∧ Action.ofResult Config.standard.retryInterval
      (r.run (reconcile .standard none "demo")).1 = .requeue (.ofSecs 30) := by
  intro r
  have hreachable : r.Reachable := ⟨_, _, _, rfl⟩
  refine ⟨hreachable, (reconcile_parks_done hreachable .standard none "demo").2.1.mpr ?_⟩
  intro hdone
  have hstored := hdone _ rfl
  exact absurd hstored (by decide)

end Rehearsal
end BundleInstaller.Install
