import BundleInstaller.Install.Rehearsal
import BundleInstaller.Proofs.Calls
import BundleInstaller.Proofs.Memory

/-!
# Plans in memory

What carrying out a plan in memory comes to.  An attempt leaves all installations as they are, so
that reconciling is a look, an attempt and the writing of a status, one after the other
(`run_process`), and what it ends with follows from the report and that writing alone.

* `extends_run`: a plan leads to an extension of the cluster.
* `bundles_run`: a plan leaves the bundles as they are.
* `run_attempt_keeps`: an attempt leaves all installations as they are.
* `run_reconcile`, `run_process`: reconciling step by step.
-/

namespace BundleInstaller.Install

open Cluster Program

/-! ## Written reports -/

theorem Report.apply_status (report : Report) (i : Installation) :
    (report.apply i).status? = some ⟨report.isSuccess,
      (report.total?.map fun n : Nat => (min n Installation.maxTotal : Int)).getD i.status.total,
      report.error?.map (·.message)⟩ := by
  unfold Report.apply
  cases report.total? <;> rfl

@[simp] theorem Report.apply_metadata (report : Report) (i : Installation) :
    (report.apply i).metadata = i.metadata := by
  unfold Report.apply
  cases report.total? <;> rfl

@[simp] theorem Report.apply_spec (report : Report) (i : Installation) :
    (report.apply i).spec = i.spec := by
  unfold Report.apply
  cases report.total? <;> rfl

@[simp] theorem Report.apply_anyName (report : Report) (i : Installation) :
    (report.apply i).anyName = i.anyName := by
  unfold Installation.anyName
  rw [Report.apply_metadata]

namespace Rehearsal

/-! ## Steps -/

theorem run_askCluster {α : Type} (c : Cluster.Call) (f : c.Answer → Plan α)
    (r : Rehearsal) : r.run (askCluster c >>= f) =
      Rehearsal.run (f (r.cluster.answer c).1) { r with cluster := (r.cluster.answer c).2 } := rfl

theorem run_ask {α : Type} (c : Call) (f : c.Answer → Plan α) (r : Rehearsal) :
    r.run (ask c >>= f) = Rehearsal.run (f (handle c r).1) (handle c r).2 := rfl

theorem run_enter {α : Type} (p : Progress) (phase : Phase) (f : Progress → Plan α)
    (r : Rehearsal) : r.run (p.enter phase >>= f) = r.run (f { p with phase := phase }) := rfl

theorem run_note {α : Type} (level : Level) (message : String)
    (fields : List (String × String)) (f : Unit → Plan α) (r : Rehearsal) :
    r.run (note level message fields >>= f) = r.run (f ()) := rfl

theorem run_bind {α β : Type} (p : Plan α) (f : α → Plan β) (r : Rehearsal) :
    r.run (p >>= f) = (r.run p).2.run (f (r.run p).1) := run_bind_apply _ p f r

theorem extends_run {α : Type} (p : Plan α) (r : Rehearsal) :
    r.cluster.Extends (r.run p).2.cluster := by
  induction p generalizing r with
  | done a => exact .refl _
  | ask c next ih =>
    refine Memory.Extends.trans ?_ (ih _ _)
    cases c with
    | cluster c => exact Memory.extends_answer _ _
    | _ => exact .refl _

/-- A rehearsal with the same cluster, but for how often it was asked. -/
def recount (shelf : Fetch.Shelf) (counts : Counts) (r : Rehearsal) : Rehearsal :=
  { r with shelf := shelf, cluster := { r.cluster with counts := counts } }

theorem extends_recount (shelf : Fetch.Shelf) (counts : Counts) (r : Rehearsal) :
    r.cluster.Extends (r.recount shelf counts).cluster := Memory.extends_of_eq rfl rfl rfl rfl

theorem fetch_of_bundles {s s' : Fetch.Shelf} (h : s'.bundles = s.bundles) (url : String) :
    (s'.fetch url).1 = (s.fetch url).1 := by
  unfold Fetch.Shelf.fetch
  cases Fetch.validate url with
  | error e => rfl
  | ok u =>
    dsimp only
    rw [h]
    cases s.bundles.lookup url <;> rfl

theorem bundles_fetch (s : Fetch.Shelf) (url : String) : (s.fetch url).2.bundles = s.bundles := by
  unfold Fetch.Shelf.fetch
  cases Fetch.validate url with
  | error e => rfl
  | ok u =>
    dsimp only
    cases s.bundles.lookup url <;> rfl

theorem bundles_run {α : Type} (p : Plan α) (r : Rehearsal) :
    (r.run p).2.shelf.bundles = r.shelf.bundles := by
  induction p generalizing r with
  | done a => rfl
  | ask c next ih =>
    refine (ih _ _).trans ?_
    cases c with
    | fetch url => exact bundles_fetch r.shelf url
    | _ => rfl

theorem build_run {α : Type} (p : Plan α) (r : Rehearsal) : (r.run p).2.build = r.build := by
  induction p generalizing r with
  | done a => rfl
  | ask c next ih =>
    refine (ih _ _).trans ?_
    cases c <;> rfl

theorem fetch_put {url : String} {body : Bytes} {s : Fetch.Shelf}
    (h : (Fetch.validate url).isOk) : ((s.put url body).fetch url).1 = .ok body := by
  unfold Fetch.Shelf.fetch
  cases hvalid : Fetch.validate url with
  | error e =>
    rw [hvalid] at h
    cases h
  | ok u => simp [Fetch.Shelf.put]

/-! ## Attempts -/

/-- **An attempt leaves all installations as they are.** -/
theorem run_attempt_keeps (config : Config) (i : Installation) (r : Rehearsal) :
    r.cluster.KeepsInstallations (r.run (attempt config i)).2.cluster := by
  have hcluster : ∀ c : Cluster.Call, (∀ i, c ≠ .writeStatus i) → ∀ r : Rehearsal,
      r.cluster.KeepsInstallations (handle (.cluster c) r).2.cluster :=
    fun c hc r => r.cluster.keepsInstallations_answer hc
  have hasks : (attempt config i).Asks fun c => ∀ r : Rehearsal,
      r.cluster.KeepsInstallations (handle c r).2.cluster := by
    apply asks_attempt
    · exact fun _ _ => ⟨rfl, rfl⟩
    · exact fun _ _ => ⟨rfl, rfl⟩
    · exact fun _ _ => ⟨rfl, rfl⟩
    · exact hcluster _ fun _ h => by cases h
    · exact fun _ _ _ => hcluster _ fun _ h => by cases h
    · exact fun _ _ _ => hcluster _ fun _ h => by cases h
    · exact fun _ _ => hcluster _ fun _ h => by cases h
  refine hasks.preserves (I := fun s => r.cluster.KeepsInstallations s.cluster) ?_ r ⟨rfl, rfl⟩
  intro c hc s hs
  exact ⟨(hc s).1.trans hs.1, (hc s).2.trans hs.2⟩

/-! ## Reconciling -/

/-- What an attempt amounts to whose report was written down. -/
def outcome (report : Report) : Outcome :=
  match report.error? with
  | none => .succeeded (report.total?.getD 0)
  | some e => .failed report.total? e.message

/-- The status that is stored for the installation with a name. -/
def statusOf? (name : String) (r : Rehearsal) : Option InstallationStatus :=
  (r.cluster.installations.lookup name).bind (·.status?)

/-- After an installation was looked up. -/
def afterRead (name : String) (r : Rehearsal) : Rehearsal :=
  { r with cluster := (r.cluster.readInstallation name).2 }

@[simp] theorem afterRead_installations (name : String) (r : Rehearsal) :
    (r.afterRead name).cluster.installations = r.cluster.installations := rfl

theorem run_noteReport (version : Option String) (report : Report) (r : Rehearsal) :
    r.run (noteReport version report) = (outcome report, r) := by
  unfold noteReport outcome
  cases report.error? <;> rfl

theorem run_process (config : Config) (version : Option String) (i : Installation) (r : Rehearsal) :
    r.run (process config version i) =
      let attempted := r.run (attempt config i)
      let written := attempted.2.cluster.writeStatus (attempted.1.apply i)
      (written.1.mapError (.status i.anyName) |>.map fun _ => outcome attempted.1,
        { attempted.2 with cluster := written.2 }) := by
  unfold process
  rw [run_note, run_bind]
  unfold writeReport
  dsimp only
  rw [Program.bind_assoc, run_askCluster]
  dsimp only [Memory.answer]
  cases ((r.run (attempt config i)).2.cluster.writeStatus
      ((r.run (attempt config i)).1.apply i)).1 with
  | error e => rfl
  | ok written =>
    dsimp only
    rw [Program.pure_eq, Program.done_bind, run_bind, run_noteReport]
    rfl

theorem run_reconcile (config : Config) (version : Option String) (name : String) (r : Rehearsal) :
    r.run (reconcile config version name) =
      match r.cluster.installations.lookup name with
      | none => (.ok .gone, r.afterRead name)
      | some i =>
        if i.needsProcessing then (r.afterRead name).run (process config version i)
        else (.ok .skipped, r.afterRead name) := by
  unfold reconcile
  rw [run_askCluster]
  dsimp only [Memory.answer, Memory.readInstallation]
  cases r.cluster.installations.lookup name with
  | none => rfl
  | some i =>
    dsimp only
    split <;> rfl

/-- A report is written down where nothing was told to fail. -/
theorem run_process_of_current (config : Config) (version : Option String) {i : Installation}
    {r : Rehearsal} (hlookup : r.cluster.installations.lookup i.anyName = some i)
    (hwritable : r.cluster.failsNextStatus = false) :
    ∃ counts new, r.run (process config version i) =
        (.ok (outcome (r.run (attempt config i)).1),
          { (r.run (attempt config i)).2 with
            cluster := { (r.run (attempt config i)).2.cluster with
              counts := counts
              installations := Memory.setEntry i.anyName new
                (r.run (attempt config i)).2.cluster.installations } }) ∧
      (r.run (process config version i)).2.cluster.installations.lookup i.anyName = some new ∧
      new.status? = ((r.run (attempt config i)).1.apply i).status? ∧ new.spec = i.spec ∧
        new.anyName = i.anyName := by
  rw [run_process]
  dsimp only
  obtain ⟨hkeeps, hconflict⟩ := run_attempt_keeps config i r
  rw [hwritable] at hconflict
  rw [← hkeeps] at hlookup
  generalize r.run (attempt config i) = attempted at hlookup hconflict
  have hstored : attempted.2.cluster.installations.lookup (attempted.1.apply i).anyName =
      some i := by rw [Report.apply_anyName, hlookup]
  obtain ⟨counts, new, hwritten, hstatus, hspec, hname⟩ :=
    Memory.writeStatus_of_current hconflict hstored (by rw [Report.apply_metadata])
  rw [hwritten, Report.apply_anyName]
  refine ⟨counts, new, rfl, ?_, hstatus, hspec, hname⟩
  show (Memory.setEntry i.anyName new _).lookup i.anyName = _
  rw [Memory.lookup_setEntry, if_pos (beq_self_eq_true _)]

end Rehearsal
end BundleInstaller.Install
