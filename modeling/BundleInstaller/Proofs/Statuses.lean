import BundleInstaller.Proofs.Unreached
import BundleInstaller.Proofs.Updates

/-!
# What a status tells

The status of an installation is written by reconciling it and in no other way, so what it says goes
back to attempts.  It tells of success just if it tells of no error, and it has the count of the
last bundle that was taken apart by an attempt whose status was written, even if a later attempt did
not come as far.  Once it tells of success it stays as it is.

* `total_of_yields`: an attempt reports the count of the bundle that it took apart.
* `reconcile_cases`: all that reconciling does to installations.
* `Tells.written`: a report that is written tells of its attempt.
* `tells_after`, `done_after`: what a status tells along a history.
* `statuses_tell_of_attempts`: what every status of a history tells.
-/

namespace BundleInstaller.Install

open BundleInstaller.Bundle Cluster Program

/-! ## Counts of bundles -/

/-- How many parts the bundle has that was brought in by a call. -/
def partCount? : BundleKind → Answered Call Call.Answer → Option Nat
  | .rawBundle, ⟨.fetch _, .ok bundle⟩ => (splitDocuments bundle).toOption.map (·.length)
  | .overlay, ⟨.build _, .ok rendered⟩ => some (Overlay.chunks rendered).length
  | _, _ => none

def Log.partCount? (kind : BundleKind) (log : Log) : Option Nat :=
  log.findSome? (Install.partCount? kind)

theorem Log.partCount?_append (kind : BundleKind) (l₁ l₂ : Log) :
    Log.partCount? kind (l₁ ++ l₂) = (l₁.partCount? kind).or (l₂.partCount? kind) :=
  List.findSome?_append

theorem Log.partCount?_cons (kind : BundleKind) (x : Answered Call Call.Answer) (log : Log) :
    Log.partCount? kind (x :: log) = (Install.partCount? kind x).or (log.partCount? kind) := by
  rw [partCount?, List.findSome?_cons]
  cases Install.partCount? kind x <;> rfl

theorem partCount?_of_isLocal {kind : BundleKind} {x : Answered Call Call.Answer}
    (h : x.1.IsLocal) : partCount? kind x = none := by
  obtain ⟨c, answer⟩ := x
  cases c with
  | fetch url => exact h.elim
  | build descriptor => exact h.elim
  | cluster c => cases kind <;> rfl
  | note e => cases kind <;> rfl

theorem Log.partCount?_of_isLocal {kind : BundleKind} {log : Log} (h : ∀ x ∈ log, x.1.IsLocal) :
    log.partCount? kind = none :=
  List.findSome?_eq_none_iff.mpr fun x hx => Install.partCount?_of_isLocal (h x hx)

theorem fetchAndInstall_counted {kind : BundleKind} {url : String}
    {install : Bytes → Progress → Plan (Progress × Option InstallError)} {log : Log} {p : Progress}
    {error? : Option InstallError} (h : (fetchAndInstall url install).Yields log (p, error?)) :
    (p.total? = none ∧ log.partCount? kind = none) ∨ ∃ bundle rest,
      log.partCount? kind =
        (partCount? kind ⟨.fetch url, .ok bundle⟩).or (Log.partCount? kind rest) ∧
      (install bundle ⟨.fetching, none, .empty⟩).Yields rest (p, error?) := by
  unfold fetchAndInstall fetchBundle at h
  cases hurl : Fetch.validate url with
  | error e =>
    rw [hurl] at h
    obtain ⟨rfl, he⟩ := yields_done_iff.mp h
    cases he
    exact .inl ⟨rfl, rfl⟩
  | ok u =>
    rw [hurl] at h
    obtain ⟨_, fetching, rfl, hfetching⟩ := yields_ask_iff.mp h
    obtain ⟨answer, rest, rfl, hrest⟩ := yields_ask_iff.mp hfetching
    cases answer with
    | error e =>
      obtain ⟨rfl, he⟩ := yields_done_iff.mp hrest
      cases he
      exact .inl ⟨rfl, by cases kind <;> rfl⟩
    | ok bundle =>
      refine .inr ⟨bundle, rest, ?_, hrest⟩
      rw [Log.partCount?_cons, partCount?_of_isLocal, Option.none_or, Log.partCount?_cons]
      trivial

theorem installDocuments_counted {bundle : Bytes} {phase : Phase} {log : Log} {p : Progress}
    {error? : Option InstallError}
    (h : (installDocuments bundle ⟨phase, none, .empty⟩).Yields log (p, error?)) :
    p.total? = (splitDocuments bundle).toOption.map (·.length) := by
  unfold installDocuments at h
  obtain ⟨_, split, rfl, hsplit⟩ := yields_ask_iff.mp h
  cases hdocuments : splitDocuments bundle with
  | error e =>
    rw [hdocuments] at hsplit
    cases (yields_done_iff.mp hsplit).2
    rfl
  | ok documents =>
    rw [hdocuments] at hsplit
    obtain ⟨answer, rest, rfl, hrest⟩ := yields_call_bind_iff.mp hsplit
    cases answer with
    | error e =>
      cases (yields_done_iff.mp hrest).2
      rfl
    | ok catalog =>
      obtain ⟨results, hsweep⟩ := applyDocuments_sweep hrest
      exact hsweep.tally.1

theorem installOverlay_counted {config : OverlayConfig} {descriptor : Bytes} {phase : Phase}
    {log : Log} {p : Progress} {error? : Option InstallError}
    (h : (installOverlay config descriptor ⟨phase, none, .empty⟩).Yields log (p, error?)) :
    p.total? = log.partCount? .overlay := by
  unfold installOverlay at h
  obtain ⟨_, building, rfl, hbuilding⟩ := yields_ask_iff.mp h
  obtain ⟨answer, rest, rfl, hrest⟩ := yields_call_bind_iff.mp hbuilding
  cases answer with
  | error e =>
    obtain ⟨rfl, hend⟩ := yields_done_iff.mp hrest
    cases hend
    rfl
  | ok rendered =>
    obtain ⟨_, posting, rfl, hposting⟩ := yields_ask_iff.mp hrest
    obtain ⟨results, hsweep⟩ := postChunks_sweep hposting
    exact hsweep.tally.1

/-- **An attempt reports the count of the bundle that it took apart.** -/
theorem total_of_yields {config : Config} {i : Installation} {log : Log} {report : Report}
    (h : (attempt config i).Yields log report) :
    report.total? = log.partCount? i.spec.kind := by
  unfold attempt at h
  obtain ⟨steps, ⟨p, error?⟩, ending, rfl, hsteps, hending⟩ := yields_bind_iff.mp h
  obtain ⟨_, rest, rfl, hend⟩ := yields_call_bind_iff.mp hending
  obtain ⟨rfl, rfl⟩ := yields_done_iff.mp hend
  suffices htotal : p.total? = Log.partCount? i.spec.kind steps by
    rw [Log.partCount?_append, Log.partCount?_cons, partCount?_of_isLocal, Option.none_or]
    · exact htotal.trans Option.or_none.symm
    · trivial
  unfold attemptSteps at hsteps
  cases hkind : i.spec.kind with
  | rawBundle =>
    rw [hkind] at hsteps
    rcases fetchAndInstall_counted hsteps with ⟨htotal, hlog⟩ | ⟨bundle, rest, hlog, hrest⟩
    · rw [htotal, hlog]
    · have hlocal := (asks_installDocuments bundle _).of_yields hrest
      rw [hlog, Log.partCount?_of_isLocal hlocal, Option.or_none, installDocuments_counted hrest]
      rfl
  | overlay =>
    rw [hkind] at hsteps
    rcases fetchAndInstall_counted hsteps with ⟨htotal, hlog⟩ | ⟨bundle, rest, hlog, hrest⟩
    · rw [htotal, hlog]
    · rw [hlog, installOverlay_counted hrest]
      rfl
  | packagedChart =>
    rw [hkind] at hsteps
    obtain ⟨rfl, hend⟩ := yields_done_iff.mp hsteps
    cases hend
    rfl

/-! ## What reconciling writes -/

/-- Whether a call notes an event. -/
def IsNote (c : Call) : Prop := ∃ e, c = .note e

theorem commit?_of_isNote {x : Answered Call Call.Answer} (h : IsNote x.1) : commit? x = none := by
  obtain ⟨c, answer⟩ := x
  obtain ⟨e, rfl⟩ := h
  rfl

theorem commit?_of_not_isUpdate {x : Answered Call Call.Answer} (h : ¬IsUpdate x.1) :
    commit? x = none := by
  obtain ⟨c, answer⟩ := x
  cases c with
  | cluster c =>
    cases c with
    | writeStatus i => exact absurd trivial h
    | _ => rfl
  | _ => rfl

/-- What reconciling does when it is told whether a report was written. -/
def afterWriting (version : Option String) (i : Installation) (report : Report) :
    Except ClusterError Installation → Plan (Except InstallError Outcome)
  | .error cause => do
    note .error "Failed to persist status" [("installation", i.anyName), ("error", cause.message)]
    return .error (.status i.anyName cause)
  | .ok _ => return .ok (← noteReport version report)

theorem process_eq (config : Config) (version : Option String) (i : Installation) :
    process config version i =
      note .info "Installing bundle" [("url", i.spec.url), ("kind", i.spec.kind.text)] >>= fun _ =>
      attempt config i >>= fun report =>
      askCluster (.writeStatus (report.apply i)) >>= afterWriting version i report := by
  unfold process
  congr 1
  funext _
  congr 1
  funext report
  unfold writeReport
  dsimp only
  rw [Program.bind_assoc]
  congr 1
  funext answer
  cases answer <;> rfl

theorem asks_afterWriting (version : Option String) (i : Installation) (report : Report)
    (answer : Except ClusterError Installation) :
    (afterWriting version i report answer).Asks IsNote := by
  cases answer with
  | error cause => exact ⟨⟨_, rfl⟩, fun _ => trivial⟩
  | ok new =>
    refine Asks.bind ?_ fun _ => trivial
    unfold noteReport
    cases report.error? with
    | none => exact ⟨⟨_, rfl⟩, fun _ => trivial⟩
    | some e => exact ⟨⟨_, rfl⟩, fun _ => trivial⟩

/-- What comes after an attempt: the writing of its report, and events. -/
theorem transcript_process (config : Config) (version : Option String) (i : Installation)
    (r : Rehearsal) :
    let attempted := r.run (attempt config i)
    let sent := attempted.1.apply i
    ∃ e rest, (process config version i).transcript Rehearsal.handle r =
        noted e :: ((attempt config i).transcript Rehearsal.handle r ++
          updated sent (attempted.2.cluster.writeStatus sent).1 :: rest) ∧
      ∀ x ∈ rest, IsNote x.1 := by
  intro attempted sent
  have hrest := (asks_afterWriting version i attempted.1
    (attempted.2.cluster.writeStatus sent).1).of_yields (yields_transcript Rehearsal.handle _
      { attempted.2 with cluster := (attempted.2.cluster.writeStatus sent).2 })
  refine ⟨.ofTexts .info "Installing bundle" [("url", i.spec.url), ("kind", i.spec.kind.text)], _,
    ?_, hrest⟩
  rw [process_eq]
  exact congrArg _ (transcript_bind Rehearsal.handle (attempt config i) _ r)

theorem commits_process (config : Config) (version : Option String) (i : Installation)
    (r : Rehearsal) :
    let attempted := r.run (attempt config i)
    ((process config version i).transcript Rehearsal.handle r).filterMap commit? =
      (attempted.2.cluster.writeStatus (attempted.1.apply i)).1.toOption.toList := by
  intro attempted
  obtain ⟨e, rest, hlog, hrest⟩ := transcript_process config version i r
  have htried : ((attempt config i).transcript Rehearsal.handle r).filterMap commit? = [] :=
    List.filterMap_eq_nil_iff.mpr fun x hx => commit?_of_not_isUpdate
      ((asks_attempt_no_update config i).of_yields (yields_transcript Rehearsal.handle _ r) x hx)
  have hnoted : rest.filterMap commit? = [] :=
    List.filterMap_eq_nil_iff.mpr fun x hx => commit?_of_isNote (hrest x hx)
  rw [hlog, List.filterMap_cons_none rfl, List.filterMap_append, htried, List.nil_append,
    List.filterMap_cons, hnoted]
  cases (attempted.2.cluster.writeStatus (attempted.1.apply i)).1 <;> rfl

theorem partCount?_process (config : Config) (version : Option String) (i : Installation)
    (kind : BundleKind) (r : Rehearsal) :
    Log.partCount? kind ((process config version i).transcript Rehearsal.handle r) =
      Log.partCount? kind ((attempt config i).transcript Rehearsal.handle r) := by
  obtain ⟨e, rest, hlog, hrest⟩ := transcript_process config version i r
  have hnoted : Log.partCount? kind rest = none := by
    refine Log.partCount?_of_isLocal fun x hx => ?_
    obtain ⟨e, he⟩ := hrest x hx
    rw [he]
    trivial
  rw [hlog, Log.partCount?_cons, partCount?_of_isLocal (by exact trivial), Option.none_or,
    Log.partCount?_append, Log.partCount?_cons, partCount?_of_isLocal (by exact trivial),
    Option.none_or, hnoted, Option.or_none]

/-- The report of an attempt was written into the installation with a name. -/
structure Written (name : String) (r next : Rehearsal) (log : Log) (i : Installation)
    (report : Report) : Prop where
  stored : r.cluster.installations.lookup name = some i
  needs : i.needsProcessing = true
  commits : log.filterMap commit? = [Memory.withStatus i (report.apply i).status?]
  installations : next.cluster.installations = Memory.setEntry name
    (Memory.withStatus i (report.apply i).status?) r.cluster.installations
  total : report.total? = log.partCount? i.spec.kind
  counted : report.error? = none → ∃ n, report.total? = some n

theorem transcript_reconcile (config : Config) (version : Option String) (name : String)
    (r : Rehearsal) :
    (reconcile config version name).transcript Rehearsal.handle r =
      seen name (.ok (r.cluster.installations.lookup name)) ::
        match r.cluster.installations.lookup name with
        | none => [noted (.ofTexts .debug "Installation not found" [])]
        | some i =>
          if i.needsProcessing then
            (process config version i).transcript Rehearsal.handle (r.afterRead name)
          else [noted (.ofTexts .debug "Installation already processed" [])] := by
  have hread : Rehearsal.handle (.cluster (.readInstallation name)) r =
      (.ok (r.cluster.installations.lookup name), r.afterRead name) := rfl
  unfold reconcile
  refine congrArg (seen name _ :: ·) ?_
  rw [hread]
  cases r.cluster.installations.lookup name with
  | none => rfl
  | some i =>
    show transcript Rehearsal.handle (if i.needsProcessing then _ else _) _ = _
    dsimp only
    split <;> rfl

/-- **All that reconciling does to installations**: nothing, or it writes the report of an attempt
for the one that it was asked to reconcile. -/
theorem reconcile_cases (config : Config) (version : Option String) (name : String) {r : Rehearsal}
    (hr : r.cluster.Keyed) :
    let next := (r.run (reconcile config version name)).2
    let log := (reconcile config version name).transcript Rehearsal.handle r
    (next.cluster.installations = r.cluster.installations ∧ log.filterMap commit? = []) ∨
      ∃ i report, Written name r next log i report := by
  rw [Rehearsal.run_reconcile, transcript_reconcile]
  cases hlookup : r.cluster.installations.lookup name with
  | none => exact .inl ⟨rfl, rfl⟩
  | some i =>
    dsimp only
    by_cases hneeds : i.needsProcessing = true
    · rw [if_pos hneeds, if_pos hneeds, Rehearsal.run_process]
      dsimp only
      have hkeeps := (Rehearsal.run_attempt_keeps config i (r.afterRead name)).1
      have hyields := yields_transcript Rehearsal.handle (attempt config i) (r.afterRead name)
      have hpart := partCount?_process config version i i.spec.kind (r.afterRead name)
      have hname := hr name i hlookup
      subst hname
      rcases Memory.writeStatus_cases ((r.afterRead i.anyName).run (attempt config i)).2.cluster
        (((r.afterRead i.anyName).run (attempt config i)).1.apply i) with
        ⟨e, hanswer, hinstallations⟩ | ⟨old, hold, -, hanswer, hinstallations⟩
      · refine .inl ⟨hinstallations.trans hkeeps, ?_⟩
        rw [List.filterMap_cons_none rfl, commits_process, hanswer]
        rfl
      · rw [hkeeps, Report.apply_anyName] at hold
        cases hlookup.symm.trans hold
        refine .inr ⟨i, ((r.afterRead i.anyName).run (attempt config i)).1, hlookup, hneeds, ?_, ?_,
          ?_, total_of_attempt hyields⟩
        · rw [List.filterMap_cons_none rfl, commits_process, hanswer]
          rfl
        · rw [hinstallations, hkeeps, Report.apply_anyName]
          rfl
        · rw [Log.partCount?_cons, partCount?_of_isLocal (by exact trivial), Option.none_or, hpart]
          exact total_of_yields hyields
    · rw [if_neg hneeds, if_neg hneeds]
      exact .inl ⟨rfl, rfl⟩

/-! ## Statuses -/

/-- A status tells of success or of an error, and only of a success whose parts were counted. -/
structure Coherent (s : InstallationStatus) : Prop where
  processed : s.processed = s.error?.isNone
  total : -1 ≤ s.total
  counted : s.processed = true → 0 ≤ s.total
  needs : s.needsProcessing = !s.processed

/-- What an installation tells of its attempts if the last bundle whose count was written down had
this many parts. -/
structure Tells (count? : Option Nat) (i : Installation) : Prop where
  coherent : ∀ s, i.status? = some s → Coherent s
  total : i.status.total = (count?.map fun n : Nat => (min n Installation.maxTotal : Int)).getD
    InstallationStatus.neverAttempted

theorem Tells.of_fresh {i : Installation} (h : i.status? = none) : Tells none i where
  coherent s hs := by cases h.symm.trans hs
  total := by rw [Installation.status, h]; rfl

theorem coherent_of_apply {report : Report} {i : Installation} {s : InstallationStatus}
    (hs : (report.apply i).status? = some s) (hold : -1 ≤ i.status.total)
    (hcounted : report.error? = none → ∃ n, report.total? = some n) : Coherent s := by
  rw [Report.apply_status] at hs
  cases hs
  cases herror : report.error? with
  | some e =>
    have hfailed : report.isSuccess = false := by rw [Report.isSuccess, herror]; rfl
    refine ⟨hfailed, ?_, fun h => ?_, ?_⟩
    · cases report.total? with
      | none => exact hold
      | some n =>
        show -1 ≤ min (n : Int) Installation.maxTotal
        omega
    · cases hfailed.symm.trans h
    · rw [hfailed]
      rfl
  | none =>
    have hsuccess : report.isSuccess = true := by rw [Report.isSuccess, herror]; rfl
    obtain ⟨n, hn⟩ := hcounted herror
    have htotal : 0 ≤ min (n : Int) Installation.maxTotal := by omega
    have hne : min (n : Int) Installation.maxTotal ≠ InstallationStatus.neverAttempted := by
      unfold InstallationStatus.neverAttempted
      omega
    rw [hn, hsuccess]
    refine ⟨rfl, ?_, fun _ => htotal, ?_⟩
    · show -1 ≤ min (n : Int) Installation.maxTotal
      omega
    · simpa [InstallationStatus.needsProcessing] using hne

/-- **A report that is written tells of its attempt**, and of an earlier bundle if it has no count
of its own. -/
theorem Tells.written {count? : Option Nat} {i : Installation} {report : Report}
    (h : Tells count? i) (hcounted : report.error? = none → ∃ n, report.total? = some n) :
    Tells (report.total?.or count?) (Memory.withStatus i (report.apply i).status?) := by
  have hold : -1 ≤ i.status.total := by
    rw [h.total]
    cases count? with
    | none => exact Int.le_refl _
    | some n =>
      show -1 ≤ min (n : Int) Installation.maxTotal
      omega
  refine ⟨fun s hs => coherent_of_apply hs hold hcounted, ?_⟩
  show ((report.apply i).status?.getD _).total = _
  rw [Report.apply_status]
  cases report.total? with
  | none => exact h.total
  | some n => rfl

/-! ## Histories -/

namespace Happening

/-- The calls of a happening, with their answers. -/
def log : Happening → Rehearsal → Log
  | call c, r => [⟨c, (Rehearsal.handle c r).1⟩]
  | attempt config i, r => (Install.attempt config i).transcript Rehearsal.handle r
  | reconcile config version name, r =>
    (Install.reconcile config version name).transcript Rehearsal.handle r
  | _, _ => []

/-- How many parts the bundle had that was taken apart, if the status of the installation with this
name was written then. -/
def writtenCount? (name : String) (x : Happening) (r : Rehearsal) : Option Nat :=
  (r.cluster.installations.lookup name).bind fun i =>
    if (Log.commits name (x.log r)).isEmpty then none else Log.partCount? i.spec.kind (x.log r)

theorem commits_of_filterMap {name : String} {log : Log} (h : log.filterMap commit? = []) :
    log.commits name = [] := by
  rw [Log.commits, h]
  rfl

/-- A call writes the status of no installation but the one that it is about. -/
theorem commits_call {c : Call} {name : String} {r : Rehearsal} (hr : r.cluster.Keyed)
    (h : ∀ i, c = .cluster (.writeStatus i) → i.anyName ≠ name) :
    Log.commits name [⟨c, (Rehearsal.handle c r).1⟩] = [] := by
  by_cases hupdate : IsUpdate c
  · cases c with
    | cluster c =>
      cases c with
      | writeStatus i =>
        rcases r.cluster.writeStatus_cases i with ⟨e, hanswer, -⟩ | ⟨old, hold, -, hanswer, -⟩
        · have hnone : commit? (updated i (r.cluster.writeStatus i).1) = none := by
            rw [hanswer]
            rfl
          rw [Log.commits]
          refine (congrArg (List.filter _) (List.filterMap_cons_none hnone)).trans rfl
        · have hsome : commit? (updated i (r.cluster.writeStatus i).1) =
              some (Memory.withStatus old i.status?) := by
            rw [hanswer]
            rfl
          have hname : (Memory.withStatus old i.status?).anyName ≠ name := by
            show old.anyName ≠ name
            rw [hr _ old hold]
            exact h i rfl
          rw [Log.commits]
          refine (congrArg (List.filter _) (List.filterMap_cons_some hsome)).trans ?_
          exact List.filter_cons_of_neg (by simpa using hname)
      | _ => exact hupdate.elim
    | _ => exact hupdate.elim
  · refine commits_of_filterMap ?_
    exact List.filterMap_cons_none (commit?_of_not_isUpdate hupdate)

/-- **What a happening does to an installation** that it does not write to otherwise than by
reconciling it: nothing, or the report of an attempt is written. -/
theorem installation_apply {x : Happening} {name : String} {r : Rehearsal} {i : Installation}
    (hr : r.cluster.Keyed) (hi : r.cluster.installations.lookup name = some i)
    (hwrites : ¬x.Writes name) :
    (Log.commits name (x.log r) = [] ∧
        (x.apply r).cluster.installations.lookup name = some i) ∨
      ∃ report : Report, i.needsProcessing = true ∧
        (x.apply r).cluster.installations.lookup name =
          some (Memory.withStatus i (report.apply i).status?) ∧
        x.writtenCount? name r = report.total? ∧
        (report.error? = none → ∃ n, report.total? = some n) := by
  -- Only reconciling the installation itself can write its status: the calls that are made
  -- otherwise are about others, and an attempt alone writes no status.
  by_cases hreconciles : x.Reconciles name
  · cases x with
    | reconcile config version other =>
      have hother : other = name := hreconciles
      subst hother
      rcases reconcile_cases config version other hr with
        ⟨hinstallations, hcommits⟩ | ⟨j, report, h⟩
      · refine .inl ⟨commits_of_filterMap hcommits, ?_⟩
        rw [← hi]
        exact congrArg (·.lookup other) hinstallations
      · cases hi.symm.trans h.stored
        have hname := hr other i hi
        refine .inr ⟨report, h.needs, ?_, ?_, h.counted⟩
        · refine (congrArg (·.lookup other) h.installations).trans ?_
          rw [Memory.lookup_setEntry, if_pos (beq_self_eq_true _)]
        · have hcommits : Log.commits other ((reconcile config version other).log r) =
              [Memory.withStatus i (report.apply i).status?] := by
            rw [Log.commits]
            refine (congrArg (List.filter _) h.commits).trans ?_
            exact List.filter_cons_of_pos (decide_eq_true hname)
          rw [writtenCount?, hi, Option.bind_some, hcommits]
          exact h.total.symm
    | _ => exact hreconciles.elim
  · have hlookup := Rehearsal.lookup_apply hr hwrites (.inr hreconciles)
    refine .inl ⟨?_, hlookup.trans hi⟩
    cases x with
    | call c => exact commits_call hr fun i hi hname => hwrites (by subst hi; exact hname)
    | attempt config j =>
      refine commits_of_filterMap (List.filterMap_eq_nil_iff.mpr fun y hy => ?_)
      exact commit?_of_not_isUpdate ((asks_attempt_no_update config j).of_yields
        (yields_transcript Rehearsal.handle _ r) y hy)
    | reconcile config version other =>
      rcases reconcile_cases config version other hr with ⟨-, hcommits⟩ | ⟨j, report, h⟩
      · exact commits_of_filterMap hcommits
      · have hname : (Memory.withStatus j (report.apply j).status?).anyName = other :=
          hr other j h.stored
        rw [Log.commits]
        refine (congrArg (List.filter _) h.commits).trans ?_
        refine List.filter_cons_of_neg ?_
        rw [hname]
        exact fun h => hreconciles (show other = name from of_decide_eq_true h)
    | _ => rfl

end Happening

namespace Rehearsal

def logAfter (r : Rehearsal) : List Happening → Log
  | [] => []
  | x :: history => x.log r ++ (x.apply r).logAfter history

/-- How many parts the bundle had of the last attempt in a history that took its bundle apart and
whose status was written, for the installation with a name. -/
def lastCount? (name : String) (r : Rehearsal) : List Happening → Option Nat
  | [] => none
  | x :: history => (lastCount? name (x.apply r) history).or (x.writtenCount? name r)

variable {name : String} {r : Rehearsal} {i : Installation} {history : List Happening}

theorem writtenCount?_of_commits {x : Happening} (h : Log.commits name (x.log r) = []) :
    x.writtenCount? name r = none := by
  unfold Happening.writtenCount?
  rw [h]
  cases r.cluster.installations.lookup name <;> rfl

/-- **What an installation tells along a history**: the last count that was written down. -/
theorem tells_after {count? : Option Nat} (hr : r.cluster.Keyed)
    (hi : r.cluster.installations.lookup name = some i) (htells : Tells count? i)
    (hwrites : ∀ x ∈ history, ¬x.Writes name) :
    ∃ j, (r.after history).cluster.installations.lookup name = some j ∧
      Tells ((r.lastCount? name history).or count?) j := by
  induction history generalizing r i count? with
  | nil => exact ⟨i, hi, htells⟩
  | cons x history ih =>
    have hrest := fun y hy => hwrites y (List.mem_cons_of_mem x hy)
    rw [lastCount?, Option.or_assoc]
    rcases Happening.installation_apply hr hi (hwrites x List.mem_cons_self) with
      ⟨hcommits, hkept⟩ | ⟨report, -, hwritten, hcount, hcounted⟩
    · rw [writtenCount?_of_commits hcommits, Option.none_or]
      exact ih (keyed_apply hr x) hkept htells hrest
    · rw [hcount]
      exact ih (keyed_apply hr x) hwritten (htells.written hcounted) hrest

/-- An installation that is done stays what it is, and its status is not written again. -/
theorem done_after (hr : r.cluster.Keyed) (hi : r.cluster.installations.lookup name = some i)
    (hdone : i.needsProcessing = false) (hwrites : ∀ x ∈ history, ¬x.Writes name) :
    (r.after history).cluster.installations.lookup name = some i ∧
      Log.commits name (r.logAfter history) = [] := by
  induction history generalizing r with
  | nil => exact ⟨hi, rfl⟩
  | cons x history ih =>
    rcases Happening.installation_apply hr hi (hwrites x List.mem_cons_self) with
      ⟨hcommits, hkept⟩ | ⟨report, hneeds, -⟩
    · obtain ⟨hlookup, hlater⟩ := ih (keyed_apply hr x) hkept
        fun y hy => hwrites y (List.mem_cons_of_mem x hy)
      refine ⟨hlookup, ?_⟩
      rw [logAfter, Log.commits_append, hcommits, hlater]
      rfl
    · cases hdone.symm.trans hneeds

theorem after_append (r : Rehearsal) (before after : List Happening) :
    r.after (before ++ after) = (r.after before).after after := List.foldl_append

/-- **What the statuses of a history tell**, if an installation had none when it began: each is
coherent and has the last count that was written down, one that tells of success is never written
again, and reconciling another installation does not touch it. -/
theorem statuses_tell_of_attempts (hr : r.cluster.Keyed)
    (hi : r.cluster.installations.lookup name = some i) (hfresh : i.status? = none)
    (hwrites : ∀ x ∈ history, ¬x.Writes name) :
    ∃ j, (r.after history).cluster.installations.lookup name = some j ∧
      (∀ s, j.status? = some s → Coherent s) ∧
      j.status.total = ((r.lastCount? name history).map fun n : Nat =>
        (min n Installation.maxTotal : Int)).getD InstallationStatus.neverAttempted ∧
      (∀ before after, history = before ++ after →
        (∃ s, (r.after before).statusOf? name = some s ∧ s.processed = true) →
          (r.after before).cluster.installations.lookup name = some j ∧
          Log.commits name ((r.after before).logAfter after) = []) ∧
      ∀ config version other, other ≠ name →
        ((r.after history).run (reconcile config version other)).2.cluster.installations.lookup
          name = some j := by
  obtain ⟨j, hj, htells⟩ := tells_after hr hi (.of_fresh hfresh) hwrites
  rw [Option.or_none] at htells
  refine ⟨j, hj, htells.coherent, htells.total, ?_, ?_⟩
  · rintro before after rfl ⟨s, hs, hprocessed⟩
    obtain ⟨k, hk, htells'⟩ := tells_after hr hi (.of_fresh hfresh)
      fun x hx => hwrites x (List.mem_append_left after hx)
    rw [statusOf?, hk, Option.bind_some] at hs
    have hdone : k.needsProcessing = false := by
      rw [Installation.needsProcessing, Installation.status, hs, Option.getD_some,
        (htells'.coherent s hs).needs, hprocessed]
      rfl
    obtain ⟨hstays, hcommits⟩ := done_after (keyed_after hr before) hk hdone
      fun x hx => hwrites x (List.mem_append_right before hx)
    rw [after_append, hstays] at hj
    cases hj
    exact ⟨hk, hcommits⟩
  · intro config version other hne
    rw [← hj]
    exact lookup_apply (x := .reconcile config version other) (keyed_after hr history) id
      (.inr hne)

/-- An attempt that counts one document, one that gets no bundle, and one that counts three but
whose status is not written. -/
def eventful : List Happening :=
  [.supply unservedShelf .ok, .reconcile .standard none "demo", .supply .empty .ok,
    .reconcile .standard none "demo",
    .supply (Fetch.Shelf.empty.put "http://[::1]/b" (bundleOf stopping)) .ok, .conflictStatus,
    .reconcile .standard none "demo"]

/-- A cluster with an installation that was never attempted. -/
def fresh : Rehearsal := (start .empty .ok).after [.register demo]

/-- The count of the first attempt is the one that stays. -/
theorem statuses_tell_of_attempts_eventful :
    fresh.lastCount? "demo" eventful = some 1 ∧
      ∃ j, (fresh.after eventful).cluster.installations.lookup "demo" = some j ∧
        j.status.total = 1 ∧ ∀ s, j.status? = some s → Coherent s := by
  have hkeyed : fresh.cluster.Keyed := keyed_after (fun _ _ h => by cases h) _
  have hwrites : ∀ x ∈ eventful, ¬x.Writes "demo" := by
    simp [eventful, Happening.Writes]
  have hcount : fresh.lastCount? "demo" eventful = some 1 := by decide +kernel
  obtain ⟨j, hj, hcoherent, htotal, -, -⟩ := statuses_tell_of_attempts hkeyed rfl rfl hwrites
  rw [hcount] at htotal
  exact ⟨hcount, j, hj, htotal, hcoherent⟩

end Rehearsal
end BundleInstaller.Install
