import BundleInstaller.Operator.Execute
import BundleInstaller.Proofs.Statuses

/-!
# How reconciling ends a command

What reconciling comes to, what is written into the status and how the command ends that asked for
it say the same.  A failed attempt is told only after its error was written down, and a success only
after it was; if nothing could be written, the command fails all the same.

* `attested_of_yields`: what was asked for and answered before a result.
* `exit_attested`: how the command that reconciles one installation ends.
* `exit_blames_other`: whom it blames if the cluster answers with another installation.
-/

namespace BundleInstaller

namespace Install

open Cluster Program

/-! ## Results -/

/-- What is in the log of a reconciliation, by what it comes to. -/
inductive Attested (name : String) (log : Log) : Except InstallError Outcome → Prop
  | unread {cause : ClusterError} (hread : seen name (.error cause) ∈ log) :
      Attested name log (.error (.status name cause))
  | gone (hread : seen name (.ok none) ∈ log) : Attested name log (.ok .gone)
  | skipped {i : Installation} (hread : seen name (.ok (some i)) ∈ log)
      (hdone : i.needsProcessing = false) : Attested name log (.ok .skipped)
  | refused {i sent : Installation} {cause : ClusterError}
      (hread : seen name (.ok (some i)) ∈ log) (hsent : updated sent (.error cause) ∈ log)
      (hsame : sent.metadata = i.metadata) : Attested name log (.error (.status i.anyName cause))
  | failed {i sent new : Installation} {total : Int} {total? : Option Nat} {words : String}
      (hread : seen name (.ok (some i)) ∈ log) (hsent : updated sent (.ok new) ∈ log)
      (hsame : sent.metadata = i.metadata) (hstatus : sent.status? = some ⟨false, total, some words⟩) :
      Attested name log (.ok (.failed total? words))
  | succeeded {i sent new : Installation} {n : Nat}
      (hread : seen name (.ok (some i)) ∈ log) (hsent : updated sent (.ok new) ∈ log)
      (hsame : sent.metadata = i.metadata)
      (hstatus : sent.status? = some ⟨true, (min n Installation.maxTotal : Nat), none⟩) :
      Attested name log (.ok (.succeeded n))

/-- What is noted of a report is what it amounts to. -/
theorem outcome_of_noteReport {version : Option String} {report : Report} {log : Log}
    {outcome : Outcome} (h : (noteReport version report).Yields log outcome) :
    outcome = Rehearsal.outcome report := by
  unfold noteReport at h
  unfold Rehearsal.outcome
  cases herror : report.error? with
  | none =>
    rw [herror] at h
    obtain ⟨_, rest, rfl, hend⟩ := yields_call_bind_iff.mp h
    exact (yields_done_iff.mp hend).2
  | some e =>
    rw [herror] at h
    obtain ⟨_, rest, rfl, hend⟩ := yields_call_bind_iff.mp h
    exact (yields_done_iff.mp hend).2

theorem attested_of_written {config : Config} {i new : Installation} {report : Report}
    {tried log : Log} {name : String} (htried : (attempt config i).Yields tried report)
    (hread : seen name (.ok (some i)) ∈ log) (hsent : updated (report.apply i) (.ok new) ∈ log) :
    Attested name log (.ok (Rehearsal.outcome report)) := by
  have hstatus := report.apply_status i
  have hsame := report.apply_metadata i
  unfold Rehearsal.outcome
  cases herror : report.error? with
  | none =>
    obtain ⟨n, hn⟩ := total_of_attempt htried herror
    rw [Report.isSuccess, herror, hn] at hstatus
    have hmin : (min (n : Int) Installation.maxTotal) = (min n Installation.maxTotal : Nat) := by
      omega
    rw [hn]
    refine .succeeded hread hsent hsame (hstatus.trans ?_)
    show some (InstallationStatus.mk true (min (n : Int) Installation.maxTotal) none) = _
    rw [hmin]
    rfl
  | some e =>
    rw [Report.isSuccess, herror] at hstatus
    exact .failed hread hsent hsame hstatus

/-- **Nothing is told of an attempt that was not written down before**, and the only errors are those
of reading and writing. -/
theorem attested_of_yields {config : Config} {version : Option String} {name : String} {log : Log}
    {result : Except InstallError Outcome} (h : (reconcile config version name).Yields log result) :
    Attested name log result := by
  unfold reconcile at h
  obtain ⟨answer, rest, rfl, hrest⟩ := yields_call_bind_iff.mp h
  have hread : seen name answer ∈ (⟨.cluster (.readInstallation name), answer⟩ :: rest : Log) :=
    List.mem_cons_self
  rcases answer with cause | _ | i
  · obtain ⟨rfl, rfl⟩ := yields_done_iff.mp hrest
    exact .unread hread
  · obtain ⟨_, rest, rfl, hend⟩ := yields_call_bind_iff.mp hrest
    obtain ⟨rfl, rfl⟩ := yields_done_iff.mp hend
    exact .gone hread
  · dsimp only at hrest
    by_cases hneeds : i.needsProcessing = true
    · rw [if_pos hneeds, process_eq] at hrest
      obtain ⟨_, attempting, rfl, hattempting⟩ := yields_call_bind_iff.mp hrest
      obtain ⟨tried, report, writing, rfl, htried, hwriting⟩ := yields_bind_iff.mp hattempting
      obtain ⟨answer, after, rfl, hafter⟩ := yields_call_bind_iff.mp hwriting
      have hmem : ∀ x y z : Answered Call Call.Answer, x ∈ y :: z :: (tried ++ x :: after) :=
        fun x y z => List.mem_cons_of_mem _ (List.mem_cons_of_mem _
          (List.mem_append_right _ List.mem_cons_self))
      -- the outcome is told behind the writing, and only if that went well
      cases answer with
      | error cause =>
        obtain ⟨_, noting, rfl, hend⟩ := yields_call_bind_iff.mp hafter
        obtain ⟨rfl, rfl⟩ := yields_done_iff.mp hend
        exact .refused hread (hmem _ _ _) (report.apply_metadata i)
      | ok new =>
        obtain ⟨noting, outcome, nothing, rfl, hnoting, hend⟩ := yields_bind_iff.mp hafter
        obtain ⟨rfl, rfl⟩ := yields_done_iff.mp hend
        rw [outcome_of_noteReport hnoting]
        exact attested_of_written htried hread (hmem _ _ _)
    · rw [if_neg hneeds] at hrest
      obtain ⟨_, rest, rfl, hend⟩ := yields_call_bind_iff.mp hrest
      obtain ⟨rfl, rfl⟩ := yields_done_iff.mp hend
      exact .skipped hread (by simpa using hneeds)

end Install

namespace Operator

open Install (seen Attested)
open Program

/-! ## Commands -/

theorem run_perform_reconcile {σ : Type} (world : (c : Call) → StateM σ c.Answer) (s : σ)
    (environment : Environment) (a : Arguments) (name : String) :
    ((perform environment (.execute { a with command := .reconcile name })).run world s).1 =
      match ((prepare environment a.config?).run world s).1 with
      | .error e => .failure e
      | .ok config => .ofResult ((reconcileOnce config environment.version? name).run world
          ((prepare environment a.config?).run world s).2).1 := by
  unfold perform execute
  dsimp only
  rw [run_bind_apply, run_bind_apply]
  cases ((prepare environment a.config?).run world s).1 with
  | error e => rfl
  | ok config => rfl

/-- How the program ends by what reconciling the installation with a name came to. -/
def ExitsWith (name : String) (exit : Exit) : Except InstallError Install.Outcome → Prop
  | .ok (.failed _ words) => exit = .failure (.reconcile name words)
  | .ok _ => exit = .success
  | .error (.status blamed cause) => exit = .failure (.reconcile blamed cause.message)
  | .error _ => False

theorem exitsWith_reconcileOnce {σ : Type} (world : (c : Call) → StateM σ c.Answer) (s : σ)
    (config : Config) (version : Option String) (name : String)
    (hstatus : ∀ e, ((Job.reconcile config version name).run world s).1 = .error e →
      ∃ blamed cause, e = .status blamed cause) :
    ExitsWith name (.ofResult ((reconcileOnce config version name).run world s).1)
      ((Job.reconcile config version name).run world s).1 := by
  unfold reconcileOnce
  rw [run_bind_apply]
  rcases hresult : ((Job.reconcile config version name).run world s).1 with e | outcome
  · obtain ⟨blamed, cause, rfl⟩ := hstatus e hresult
    exact rfl
  · cases outcome <;> exact rfl

theorem exitCode_of_attested {name : String} {log : Install.Log}
    {result : Except InstallError Install.Outcome} {exit : Exit} (h : Attested name log result)
    (hexit : ExitsWith name exit result) :
    (exit.exitCode = 0 ↔ result = .ok .skipped ∨ result = .ok .gone ∨
        ∃ n, result = .ok (.succeeded n)) ∧
      (exit.exitCode = 0 ∨ exit.exitCode = 4) ∧
      ((∀ i, seen name (.ok (some i)) ∈ log → i.anyName = name) →
        exit.exitCode = 0 ∨ ∃ words, exit = .failure (.reconcile name words)) := by
  cases h with
  | gone hread | skipped hread hdone | succeeded hread hsent hsame hstatus =>
    obtain rfl : exit = .success := hexit
    simp [Exit.exitCode]
  | @unread cause hread =>
    obtain rfl : exit = .failure (.reconcile name cause.message) := hexit
    simp [Exit.exitCode, OperatorError.exitCode]
  | @failed i sent new total total? words hread hsent hsame hstatus =>
    obtain rfl : exit = .failure (.reconcile name words) := hexit
    simp [Exit.exitCode, OperatorError.exitCode]
  | @refused i sent cause hread hsent hsame =>
    obtain rfl : exit = .failure (.reconcile i.anyName cause.message) := hexit
    refine ⟨by simp [Exit.exitCode, OperatorError.exitCode], .inr rfl, fun hname => .inr ?_⟩
    exact ⟨cause.message, by rw [hname i hread]⟩

/-- **The command that reconciles one installation ends as the status says.**  In every world,
whatever reconciling comes to is told after the status was written that says so.  Where the program
can be set up, the command succeeds if there was nothing to do or all was done; otherwise it ends
with the exit code 4 and with the error that was written, or with the one that kept it from being
read or written.  It blames the installation that it was asked to reconcile, or the one that it got
from the cluster if the status of that one is refused. -/
theorem exit_attested {σ : Type} (world : (c : Call) → StateM σ c.Answer) (s : σ)
    (environment : Environment) (a : Arguments) (name : String) :
    (∀ config version log result,
        (Install.reconcile config version name).Yields log result → Attested name log result) ∧
      let exit :=
        ((perform environment (.execute { a with command := .reconcile name })).run world s).1
      let prepared := (prepare environment a.config?).run world s
      match prepared.1 with
      | .error e => exit = .failure e
      | .ok config =>
        let carryOut : (c : Install.Call) → StateM σ c.Answer :=
          fun c => (Job.install config name c).run world
        let plan := Install.reconcile config environment.version? name
        let result := (plan.run carryOut prepared.2).1
        let log := plan.transcript carryOut prepared.2
        Attested name log result ∧ ExitsWith name exit result ∧
          (exit.exitCode = 0 ↔ result = .ok .skipped ∨ result = .ok .gone ∨
            ∃ n, result = .ok (.succeeded n)) ∧
          (exit.exitCode = 0 ∨ exit.exitCode = 4) ∧
          ((∀ i, seen name (.ok (some i)) ∈ log → i.anyName = name) →
            exit.exitCode = 0 ∨ ∃ words, exit = .failure (.reconcile name words)) := by
  refine ⟨fun config version log result h => Install.attested_of_yields h, ?_⟩
  intro exit prepared
  have hexit : exit = match prepared.1 with
      | .error e => .failure e
      | .ok config => .ofResult
          ((reconcileOnce config environment.version? name).run world prepared.2).1 :=
    run_perform_reconcile world s environment a name
  cases hprepared : prepared.1 with
  | error e =>
    rw [hprepared] at hexit
    exact hexit
  | ok config =>
    rw [hprepared] at hexit
    dsimp only at hexit ⊢
    have hattested := Install.attested_of_yields (yields_transcript
      (fun c => (Job.install config name c).run world)
      (Install.reconcile config environment.version? name) prepared.2)
    have hresult : (Job.reconcile config environment.version? name).run world =
        (Install.reconcile config environment.version? name).run fun c =>
          (Job.install config name c).run world := run_run _ world _
    have hends := exitsWith_reconcileOnce world prepared.2 config environment.version? name (by
      intro e he
      rw [hresult] at he
      rw [he] at hattested
      cases hattested with
      | unread hread | refused hread hsent hsame => exact ⟨_, _, rfl⟩)
    rw [hresult, ← hexit] at hends
    exact ⟨hattested, hends, exitCode_of_attested hattested hends⟩

/-- An installation of a kind that is not supported. -/
def otherChart : Installation :=
  ⟨{ Cluster.Metadata.empty with name? := some "other", resourceVersion? := some "5" },
    ⟨"http://[::1]/b", .packagedChart⟩, none⟩

/-- A world whose cluster answers every request for something with one installation, and does not
answer any other request. -/
def misnaming : (c : Call) → StateM Unit c.Answer
  | .send request => pure
    (if request.method = "GET" then .ok ⟨200, otherChart.toJson.bytes⟩
    else .error "connection refused")
  | .connect | .client _ => pure (.ok ())
  | .contents _ | .directory _ | .start _ _ => pure (.error "No such file or directory")
  | .download _ => pure .lost
  | .next => pure none
  | .note _ _ | .print _ | .later _ _ => pure ()

/-- Asked to reconcile one installation, the program may blame another one. -/
theorem exit_blames_other :
    let exit := ((run ⟨none, none, 1⟩ ["reconcile", "demo"]).run misnaming ()).1
    exit = .failure
        (.reconcile "other" "Kubernetes API error: ServiceError: connection refused") ∧
      exit.exitCode = 4 ∧ ∀ words, exit ≠ .failure (.reconcile "demo" words) := by
  intro exit
  have hexit : exit = .failure
      (.reconcile "other" "Kubernetes API error: ServiceError: connection refused") := by
    decide +kernel
  refine ⟨hexit, by rw [hexit]; rfl, fun words hwords => ?_⟩
  rw [hexit] at hwords
  obtain ⟨hname, -⟩ := OperatorError.reconcile.inj (Exit.failure.inj hwords)
  exact absurd hname (by decide)

end Operator
end BundleInstaller
