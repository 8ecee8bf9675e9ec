import BundleInstaller.Proofs.Statuses
import Mathlib.Data.List.TakeWhile

/-!
# Installations that cannot be installed

A chart cannot be installed, and neither can a bundle whose URL is no good.  The attempt for such an
installation ends before it asks for anything, whatever the world is like, so that reconciling it is
no more than reading it and writing down why it failed.

* `Text.trim_eq_nil_iff`: what is left of a text of blanks.
* `category_ofFetch_of_validate`: how the error of a bad URL is told.
* `attempt_of_unfit`: an attempt that ends at once.
* `unfit_touches_status_alone`: all the calls of reconciling an installation that cannot be
  installed.
-/

namespace BundleInstaller

/-! ## Texts of blanks -/

namespace Text

theorem trimStart_eq_nil_iff (s : List Char) : trimStart s = [] ↔ s.all isBlank = true := by
  rw [trimStart, List.dropWhile_eq_nil_iff, List.all_eq_true]

/-- **Nothing is left of a text just if all of it is blank.** -/
theorem trim_eq_nil_iff (s : List Char) : trim s = [] ↔ s.all isBlank = true := by
  rw [trim, List.reverse_eq_nil_iff, trimStart_eq_nil_iff, List.all_reverse, ← trimStart_eq_nil_iff]
  -- what is left once starts with no blank, so that it is blank only if it is empty
  constructor
  · intro h
    cases hrest : trimStart s with
    | nil => rw [← trimStart_eq_nil_iff, hrest]
    | cons c rest =>
      rw [hrest, trimStart, List.dropWhile_eq_nil_iff] at h
      have hdrop : s.dropWhile isBlank = c :: rest := hrest
      have hfirst := List.head?_dropWhile_not isBlank s
      rw [hdrop] at hfirst
      have hblank := h c List.mem_cons_self
      exact absurd (hblank.symm.trans hfirst) (by decide)
  · intro h
    rw [(trimStart_eq_nil_iff s).mpr h]
    rfl

end Text

namespace Install

open Cluster Program

/-! ## Bad URLs -/

/-- **A bad URL is the fault of the installation just if it is blank.** -/
theorem category_ofFetch_of_validate {url : String} {e : FetchError}
    (h : Fetch.validate url = .error e) :
    (InstallError.ofFetch e).category =
      if Text.trim url.toList = [] then "validation" else "fetch" := by
  unfold Fetch.validate at h
  by_cases hblank : url.toList.all Text.isBlank = true
  · rw [if_pos hblank] at h
    cases h
    rw [if_pos ((Text.trim_eq_nil_iff _).mpr hblank)]
    rfl
  · rw [if_neg hblank] at h
    rw [if_neg (mt (Text.trim_eq_nil_iff _).mp hblank)]
    cases hparse : Url.parse url with
    | ok u =>
      rw [hparse] at h
      cases h
    | error problem =>
      rw [hparse] at h
      cases h
      rfl

/-! ## Attempts -/

/-- Why no attempt can be made for what an installation asks for. -/
inductive Unfit (spec : InstallationSpec) : InstallError → Prop
  | chart (hkind : spec.kind = .packagedChart) : Unfit spec (.unsupported .packagedChart)
  | url (hkind : spec.kind ≠ .packagedChart) {e : FetchError}
      (hurl : Fetch.validate spec.url = .error e) : Unfit spec (.ofFetch e)

theorem exists_unfit {spec : InstallationSpec}
    (h : spec.kind = .packagedChart ∨ ∃ e, Fetch.validate spec.url = .error e) :
    ∃ e, Unfit spec e := by
  by_cases hkind : spec.kind = .packagedChart
  · exact ⟨_, .chart hkind⟩
  · obtain ⟨e, hurl⟩ := h.resolve_left hkind
    exact ⟨_, .url hkind hurl⟩

theorem Unfit.category {spec : InstallationSpec} {e : InstallError} (h : Unfit spec e) :
    e.category = match spec.kind with
      | .packagedChart => "unsupported"
      | _ => if Text.trim spec.url.toList = [] then "validation" else "fetch" := by
  cases h with
  | chart hkind =>
    rw [hkind]
    rfl
  | url hkind hurl =>
    rw [category_ofFetch_of_validate hurl]
    cases hspec : spec.kind with
    | packagedChart => exact absurd hspec hkind
    | _ => rfl

/-- The report of an attempt that ended before anything was done. -/
def Report.unstarted (e : InstallError) : Report := ⟨none, .failed 0, some e, .empty⟩

/-- **An attempt that cannot be made ends at once.** -/
theorem attempt_of_unfit (config : Config) {i : Installation} {e : InstallError}
    (h : Unfit i.spec e) :
    attempt config i =
      ask (.note (finished (.unstarted e))) >>= fun _ => done (Report.unstarted e) := by
  have hsteps : attemptSteps config i.spec = done (.start, some e) := by
    unfold attemptSteps
    cases h with
    | chart hkind =>
      rw [hkind]
      rfl
    | url hkind hurl =>
      cases hspec : i.spec.kind with
      | packagedChart => exact absurd hspec hkind
      | rawBundle | overlay =>
        dsimp only
        unfold fetchAndInstall fetchBundle
        rw [hurl]
        rfl
  unfold attempt
  rw [hsteps]
  rfl

/-! ## Reconciling -/

/-- The calls of a log that do more than note an event. -/
def Log.besidesNotes (log : Log) : Log :=
  log.filter fun x => match x.1 with
    | .note _ => false
    | _ => true

theorem Log.besidesNotes_of_isNote {log : Log} (h : ∀ x ∈ log, IsNote x.1) :
    log.besidesNotes = [] := by
  refine List.filter_eq_nil_iff.mpr fun x hx => ?_
  obtain ⟨e, he⟩ := h x hx
  rw [he]
  exact Bool.false_ne_true

/-- What reconciling comes to after a failed attempt, by the answer to its writing. -/
def afterFailure (i : Installation) (e : InstallError) :
    Except ClusterError Installation → Except InstallError Outcome
  | .ok _ => .ok (.failed none e.message)
  | .error cause => .error (.status i.anyName cause)

theorem run_afterWriting {σ : Type} (world : (c : Call) → StateM σ c.Answer) (s : σ)
    (version : Option String) (i : Installation) (e : InstallError)
    (answer : Except ClusterError Installation) :
    ((afterWriting version i (.unstarted e) answer).run world s).1 = afterFailure i e answer := by
  cases answer <;> rfl

/-- The status that says why no attempt could be made; the total stays as it was. -/
theorem apply_unstarted (i : Installation) (e : InstallError) :
    (Report.unstarted e).apply i =
      { i with status? := some ⟨false, i.status?.elim (-1) (·.total), some e.message⟩ } := by
  obtain ⟨metadata, spec, status?⟩ := i
  cases status? <;> rfl

/-- **What cannot be installed is read, and its status is written.**  In every world, reconciling
such an installation calls for nothing else: not for the bundle, not for an overlay, and not for any
object.  What is written has the error and the total that was there, and the attempt ends before its
first object. -/
theorem unfit_touches_status_alone {σ : Type} (world : (c : Call) → StateM σ c.Answer) (s : σ)
    (config : Config) (version : Option String) {name : String} {i : Installation}
    (hread : (world (.cluster (.readInstallation name)) s).1 = .ok (some i))
    (hneeds : i.needsProcessing = true)
    (hunfit : i.spec.kind = .packagedChart ∨ ∃ e, Fetch.validate i.spec.url = .error e) :
    let plan := reconcile config version name
    ∃ e answer,
      let sent := { i with status? := some ⟨false, i.status?.elim (-1) (·.total), some e.message⟩ }
      Log.besidesNotes (plan.transcript world s) =
        [seen name (.ok (some i)), updated sent answer] ∧
      (plan.run world s).1 = afterFailure i e answer ∧
      (∀ s', ((attempt config i).run world s').1 = ⟨none, .failed 0, some e, .empty⟩ ∧
        Log.besidesNotes ((attempt config i).transcript world s') = []) ∧
      e.category = match i.spec.kind with
        | .packagedChart => "unsupported"
        | _ => if Text.trim i.spec.url.toList = [] then "validation" else "fetch" := by
  intro plan
  obtain ⟨e, he⟩ := exists_unfit hunfit
  have hattempt := attempt_of_unfit config he
  -- The plan is known but for its first answer, which is the installation.
  have hplan : ∃ goOn : Except ClusterError (Option Installation) →
      Plan (Except InstallError Outcome),
      plan = askCluster (.readInstallation name) >>= goOn ∧
      goOn (.ok (some i)) = process config version i := by
    refine ⟨_, rfl, ?_⟩
    dsimp only
    rw [if_pos hneeds]
  obtain ⟨goOn, hplan, hgoOn⟩ := hplan
  let read := world (.cluster (.readInstallation name)) s
  let noting := world (.note (.ofTexts .info "Installing bundle"
    [("url", i.spec.url), ("kind", i.spec.kind.text)])) read.2
  let ending := world (.note (finished (.unstarted e))) noting.2
  let writing := world (.cluster (.writeStatus ((Report.unstarted e).apply i))) ending.2
  have hrun : plan.run world s =
      (afterWriting version i (.unstarted e) writing.1).run world writing.2 := by
    rw [hplan]
    show (goOn read.1).run world read.2 = _
    rw [hread, hgoOn, process_eq, hattempt]
    rfl
  have hlog : plan.transcript world s = seen name (.ok (some i)) ::
      noted (.ofTexts .info "Installing bundle"
        [("url", i.spec.url), ("kind", i.spec.kind.text)]) ::
      noted (finished (.unstarted e)) :: updated ((Report.unstarted e).apply i) writing.1 ::
      (afterWriting version i (.unstarted e) writing.1).transcript world writing.2 := by
    rw [hplan]
    show ⟨_, read.1⟩ :: (goOn read.1).transcript world read.2 = _
    rw [hread, hgoOn, process_eq, hattempt]
    rfl
  have hrest := (asks_afterWriting version i (.unstarted e) writing.1).of_yields
    (yields_transcript world _ writing.2)
  refine ⟨e, writing.1, ?_, ?_, fun s' => ?_, he.category⟩
  · rw [hlog, ← apply_unstarted]
    show seen name _ :: updated _ _ :: Log.besidesNotes _ = _
    rw [Log.besidesNotes_of_isNote hrest]
  · rw [hrun, run_afterWriting]
  · rw [hattempt]
    exact ⟨rfl, rfl⟩

/-- An overlay at a URL without a base, of which a bundle was counted before. -/
def baseless : Installation :=
  ⟨{ Cluster.Metadata.empty with name? := some "demo", resourceVersion? := some "4" },
    ⟨"install.yaml", .overlay⟩, some ⟨false, 5, some "HTTP error: 503"⟩⟩

/-- The count stays, and the URL is what failed. -/
theorem unfit_touches_status_alone_baseless :
    let r := (Rehearsal.start .empty .ok).after [.register baseless]
    let log := (reconcile .standard none "demo").transcript Rehearsal.handle r
    ∃ e answer, Log.besidesNotes log = [seen "demo" (.ok (some baseless)),
        updated { baseless with status? := some ⟨false, 5, some (InstallError.message e)⟩ } answer] ∧
      e.category = "fetch" := by
  intro r log
  have hinvalid : (Fetch.validate "install.yaml").isOk = false := by decide +kernel
  have hunfit : ∃ e, Fetch.validate baseless.spec.url = .error e := by
    cases hurl : Fetch.validate "install.yaml" with
    | error e => exact ⟨e, hurl⟩
    | ok u =>
      rw [hurl] at hinvalid
      cases hinvalid
  obtain ⟨e, answer, hlog, -, -, hcategory⟩ := unfit_touches_status_alone Rehearsal.handle r
    .standard none (show (Rehearsal.handle (.cluster (.readInstallation "demo")) r).1 =
      .ok (some baseless) from rfl) rfl (.inr hunfit)
  exact ⟨e, answer, hlog, hcategory.trans (by decide)⟩

end Install
end BundleInstaller
