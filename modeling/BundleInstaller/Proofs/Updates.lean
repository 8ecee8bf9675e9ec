import BundleInstaller.Proofs.History
import BundleInstaller.Proofs.Passage
import BundleInstaller.Proofs.Versions

/-!
# Statuses are not lost

Reconciling reads an installation, makes an attempt for it and writes a status, and between the
reading and the writing anyone else may do the same.  A status is written against the version that
was read, and a version never comes back, so a status that was written meanwhile stands in the way.

* `written_of_yields`: where in its own calls a reconciliation writes a status.
* `reconciles_keep_updates`: what becomes of each status that is sent, in whatever turns.
-/

namespace BundleInstaller.Install

open Cluster Program

/-! ## One reconciliation -/

abbrev seen (name : String) (answer : Except ClusterError (Option Installation)) :
    Answered Call Call.Answer := ⟨.cluster (.readInstallation name), answer⟩

abbrev updated (i : Installation) (answer : Except ClusterError Installation) :
    Answered Call Call.Answer := ⟨.cluster (.writeStatus i), answer⟩

/-- Whether a call writes a status. -/
def IsUpdate : Call → Prop
  | .cluster (.writeStatus _) => True
  | _ => False

theorem asks_attempt_no_update (config : Config) (i : Installation) :
    (attempt config i).Asks fun c => ¬IsUpdate c :=
  asks_attempt (fun _ => id) (fun _ => id) (fun _ => id) id (fun _ _ _ => id) (fun _ _ _ => id)
    (fun _ _ => id) config i

/-- The calls of a reconciliation, by whether it makes an attempt. -/
inductive Reconciling (config : Config) (name : String) :
    Log → Except InstallError Outcome → Prop
  | idle {log : Log} {result : Except InstallError Outcome} (hlog : ∀ x ∈ log, ¬IsUpdate x.1) :
      Reconciling config name log result
  | attempted {i : Installation} {tried rest : Log} {report : Report}
      {result : Except InstallError Outcome} {answer : Except ClusterError Installation} (e : Event)
      (htried : (attempt config i).Yields tried report) (hrest : ∀ x ∈ rest, ¬IsUpdate x.1)
      (hresult : ∀ cause, answer = .error cause → result = .error (.status i.anyName cause)) :
      Reconciling config name
        ((seen name (.ok (some i)) :: noted e :: tried) ++ updated (report.apply i) answer :: rest)
        result

theorem asks_noteReport (version : Option String) (report : Report) :
    (noteReport version report).Asks fun c => ¬IsUpdate c := by
  unfold noteReport
  cases report.error? with
  | none => exact ⟨id, fun _ => trivial⟩
  | some e => exact ⟨id, fun _ => trivial⟩

theorem yields_writeReport {i : Installation} {report : Report} {log : Log}
    {result : Except InstallError Installation} (h : (writeReport i report).Yields log result) :
    ∃ answer rest, log = updated (report.apply i) answer :: rest ∧ (∀ x ∈ rest, ¬IsUpdate x.1) ∧
      result = answer.mapError (.status i.anyName) := by
  unfold writeReport at h
  obtain ⟨answer, rest, rfl, hrest⟩ := yields_call_bind_iff.mp h
  refine ⟨answer, rest, rfl, ?_⟩
  cases answer with
  | error cause =>
    obtain ⟨_, noting, rfl, hend⟩ := yields_call_bind_iff.mp hrest
    obtain ⟨rfl, rfl⟩ := yields_done_iff.mp hend
    exact ⟨by simp [IsUpdate], rfl⟩
  | ok new =>
    obtain ⟨rfl, rfl⟩ := yields_done_iff.mp hrest
    exact ⟨fun x hx => absurd hx List.not_mem_nil, rfl⟩

theorem reconciling {config : Config} {version : Option String} {name : String} {log : Log}
    {result : Except InstallError Outcome} (h : (reconcile config version name).Yields log result) :
    Reconciling config name log result := by
  unfold reconcile at h
  obtain ⟨answer, rest, rfl, hrest⟩ := yields_call_bind_iff.mp h
  rcases answer with cause | _ | i
  · obtain ⟨rfl, rfl⟩ := yields_done_iff.mp hrest
    exact .idle (by simp [IsUpdate])
  · obtain ⟨_, rest, rfl, hend⟩ := yields_call_bind_iff.mp hrest
    obtain ⟨rfl, rfl⟩ := yields_done_iff.mp hend
    exact .idle (by simp [IsUpdate])
  · dsimp only at hrest
    split at hrest
    · unfold process at hrest
      obtain ⟨_, attempting, rfl, hattempting⟩ := yields_call_bind_iff.mp hrest
      obtain ⟨tried, report, writing, rfl, htried, hwriting⟩ := yields_bind_iff.mp hattempting
      obtain ⟨written, r, after, rfl, hwritten, hafter⟩ := yields_bind_iff.mp hwriting
      obtain ⟨answer, rest, rfl, hquiet, rfl⟩ := yields_writeReport hwritten
      cases answer with
      | error cause =>
        obtain ⟨rfl, rfl⟩ := yields_done_iff.mp hafter
        rw [List.append_nil]
        refine .attempted _ htried hquiet fun cause' hcause => ?_
        cases hcause
        rfl
      | ok new =>
        obtain ⟨noting, outcome, nothing, rfl, hnoting, hend⟩ := yields_bind_iff.mp hafter
        obtain ⟨rfl, rfl⟩ := yields_done_iff.mp hend
        rw [List.append_nil, List.cons_append]
        refine .attempted _ htried (fun x hx => ?_) fun _ h => by cases h
        exact (List.mem_append.mp hx).elim (hquiet x)
          ((asks_noteReport version report).of_yields hnoting x)
    · obtain ⟨_, rest, rfl, hend⟩ := yields_call_bind_iff.mp hrest
      obtain ⟨rfl, rfl⟩ := yields_done_iff.mp hend
      exact .idle (by simp [IsUpdate])

/-- **A reconciliation writes one status**, that of its own attempt for the installation that it
read, and fails if it is not written. -/
theorem written_of_yields {config : Config} {version : Option String} {name : String}
    {before after : Log} {sent : Installation} {answer : Except ClusterError Installation}
    {result : Except InstallError Outcome}
    (h : (reconcile config version name).Yields (before ++ updated sent answer :: after) result) :
    ∃ i e tried report, before = seen name (.ok (some i)) :: noted e :: tried ∧
      (attempt config i).Yields tried report ∧ sent = report.apply i ∧
      ∀ cause, answer = .error cause → result = .error (.status i.anyName cause) := by
  generalize hlog : before ++ updated sent answer :: after = log at h
  cases reconciling h with
  | idle hidle =>
    subst hlog
    exact absurd trivial (hidle _ (List.mem_append_right _ List.mem_cons_self))
  | @attempted i tried rest report _ answer' e htried hrest hresult =>
    have hbefore : ∀ x ∈ seen name (.ok (some i)) :: noted e :: tried, ¬IsUpdate x.1 := by
      intro x hx
      rcases List.mem_cons.mp hx with rfl | hx
      · exact id
      rcases List.mem_cons.mp hx with rfl | hx
      · exact id
      · exact (asks_attempt_no_update config i).of_yields htried x hx
    -- the only update of the log is where it is split on both sides
    have hupdate : IsUpdate (updated sent answer).1 := trivial
    obtain ⟨rfl, hcall, -⟩ := (List.append_cons_inj_of_notMem (fun hx => hbefore _ hx hupdate)
      fun hx => hrest _ hx hupdate).mp hlog.symm
    cases hcall
    exact ⟨i, e, tried, report, rfl, htried, rfl, hresult⟩

/-! ## Reconciliations side by side -/

section SideBySide

variable {ι : Type} [DecidableEq ι]

/-- Reconciliations that are carried out side by side. -/
def reconciles (configs : ι → Config) (versions : ι → Option String) (names : ι → String)
    (m : Memory) : Ensemble ι (Except InstallError Outcome) :=
  ⟨fun k => reconcile (configs k) (versions k) (names k), m⟩

/-- Whether someone read an installation, made an attempt for it that ended with a report, and did
nothing else; `since` are the calls of everyone since the reading. -/
def Prepared (config : Config) (name : String) (k : ι) (i : Installation) (report : Report)
    (since before : SharedLog ι) : Prop :=
  ∃ earlier e tried, before = earlier ++ (k, seen name (.ok (some i))) :: since ∧
    since.of k = noted e :: tried ∧ (attempt config i).Yields tried report

section Prepared

variable {config : Config} {name : String} {k : ι} {i : Installation} {report : Report}
  {since before : SharedLog ι} {m : Memory}

theorem Prepared.read (h : Prepared config name k i report since before) (hm : m.Keyed)
    (hanswers : m.Answers before.calls) :
    ∃ earlier : Log, before.calls = earlier ++ since.calls ∧ (m.through earlier).Keyed ∧
      (m.through earlier).installations.lookup name = some i := by
  obtain ⟨earlier, e, tried, rfl, -, -⟩ := h
  rw [SharedLog.calls_append, SharedLog.calls_cons, Memory.answers_append] at hanswers
  have hread : some i = (m.through earlier.calls).installations.lookup name :=
    Except.ok.inj hanswers.2.1
  refine ⟨earlier.calls ++ [seen name (.ok (some i))], ?_, Memory.keyed_through hm _, ?_⟩
  · rw [SharedLog.calls_append, SharedLog.calls_cons, List.append_assoc, List.singleton_append]
  · rw [Memory.through_append]
    exact hread.symm

theorem Prepared.anyName (h : Prepared config name k i report since before) (hm : m.Keyed)
    (hanswers : m.Answers before.calls) : i.anyName = name := by
  obtain ⟨earlier, -, hkeyed, hi⟩ := h.read hm hanswers
  exact hkeyed name i hi

/-- What was read is what is stored, for as long as the version is the same. -/
theorem Prepared.unwritten {stored : Installation}
    (h : Prepared config name k i report since before) (hm : m.Keyed)
    (hanswers : m.Answers before.calls) (hroom : m.Room before.calls)
    (hstored : (m.through before.calls).installations.lookup name = some stored)
    (hversion : stored.metadata.resourceVersion? = i.metadata.resourceVersion?) :
    since.calls.commits name = [] ∧ stored = i := by
  obtain ⟨earlier, hsplit, hkeyed, hi⟩ := h.read hm hanswers
  rw [hsplit] at hanswers hroom hstored
  rw [Memory.answers_append] at hanswers
  rw [Memory.through_append] at hstored
  exact Memory.commits_eq_nil_of_version hkeyed hanswers.2 (hroom.drop hm hanswers.1) hi hstored
    hversion

/-- **What is written is the report for the installation as it stands**, and it stands there
afterwards. -/
theorem Prepared.written {new : Installation}
    (h : Prepared config name k i report since before) (hm : m.Keyed)
    (hanswers : m.Answers before.calls) (hroom : m.Room before.calls)
    (hnew : ((m.through before.calls).writeStatus (report.apply i)).1 = .ok new) :
    since.calls.commits name = [] ∧
      (m.through before.calls).installations.lookup name = some i ∧
      new = Memory.withStatus i (report.apply i).status? ∧
      ((m.through before.calls).writeStatus (report.apply i)).2.installations.lookup name =
        some new := by
  rcases Memory.writeStatus_cases (m.through before.calls) (report.apply i) with
    ⟨_, hanswer, -⟩ | ⟨old, hold, hversion, hanswer, hinstallations⟩
  · cases hnew.symm.trans hanswer
  · cases hnew.symm.trans hanswer
    rw [Report.apply_anyName, h.anyName hm hanswers] at hold hinstallations
    rw [Report.apply_metadata] at hversion
    obtain ⟨hnone, rfl⟩ := h.unwritten hm hanswers hroom hold hversion
    refine ⟨hnone, hold, rfl, ?_⟩
    rw [hinstallations, Memory.lookup_setEntry, if_pos (beq_self_eq_true _)]

end Prepared

theorem nonempty_answer (c : Call) : Nonempty c.Answer := by
  cases c with
  | fetch url => exact ⟨.ok []⟩
  | build descriptor => exact ⟨.ok []⟩
  | cluster c => exact ⟨.error (.notFound "")⟩
  | note e => exact ⟨()⟩

/-- **Whoever sends a status has prepared it**, and ends with an error if it is not written. -/
theorem prepared_of_log {configs : ι → Config} {versions : ι → Option String} {names : ι → String}
    {m : Memory} {turns : List (Turn ι)} {before after : SharedLog ι} {k : ι} {sent : Installation}
    {answer : Except ClusterError Installation}
    (h : (reconciles configs versions names m).log turns =
      before ++ (k, updated sent answer) :: after) :
    ∃ i report since, Prepared (configs k) (names k) k i report since before ∧
      sent = report.apply i ∧ ∀ cause, answer = .error cause → ∀ more result,
        ((reconciles configs versions names m).play (turns ++ more)).result? k = some result →
          result = .error (.status i.anyName cause) := by
  have hown : ((reconciles configs versions names m).log turns).of k =
      before.of k ++ updated sent answer :: after.of k := by
    rw [h, SharedLog.of_append, SharedLog.of_cons_self]
  have hleaves := (reconciles configs versions names m).leaves_play turns k
  obtain ⟨rest, result, hrest⟩ := exists_yields nonempty_answer
    (((reconciles configs versions names m).play turns).plans k)
  have hyields := hleaves.yields hrest
  rw [hown, List.append_assoc, List.cons_append] at hyields
  obtain ⟨i, e, tried, report, hbefore, htried, hsent, -⟩ := written_of_yields hyields
  obtain ⟨earlier, since, hsplit, -, hsince⟩ := SharedLog.split_of
    (hbefore.trans (List.nil_append _).symm)
  refine ⟨i, report, since, ⟨earlier, e, tried, hsplit, hsince, htried⟩, hsent, ?_⟩
  intro cause hcause more result hresult
  have hend := Ensemble.yields_of_result? hresult
  rw [Ensemble.log_append, SharedLog.of_append, hown, List.append_assoc, List.cons_append] at hend
  obtain ⟨i', e', tried', report', hbefore', -, -, herror⟩ := written_of_yields hend
  rw [hbefore] at hbefore'
  cases (List.cons.inj hbefore').1
  exact herror cause hcause

/-- **No status is lost**, in whatever turns installations are reconciled.  Each status that is sent
is the report of the sender's own attempt for the installation that it read.  If it is written, no
other status was written for the installation since then, and it stands there afterwards; if it is
not, the installations stay as they are and the sender ends with an error.  No version of an
installation ever comes back. -/
theorem reconciles_keep_updates {r : Rehearsal} (hr : r.Reachable) {configs : ι → Config}
    {versions : ι → Option String} {names : ι → String} {turns : List (Turn ι)}
    (hroom : r.cluster.Room ((reconciles configs versions names r.cluster).log turns).calls) :
    let s := reconciles configs versions names r.cluster
    let at' := fun log : SharedLog ι => (r.cluster.through log.calls).installations
    (∀ name before between after i j, s.log turns = before ++ between ++ after →
      (at' before).lookup name = some i → (at' (before ++ between)).lookup name = some j →
      j.metadata.resourceVersion? = i.metadata.resourceVersion? →
      between.calls.commits name = []) ∧
    ∀ before after k sent answer, s.log turns = before ++ (k, updated sent answer) :: after →
      ∃ i report since, Prepared (configs k) (names k) k i report since before ∧
        sent = report.apply i ∧
        match answer with
        | .ok new => since.calls.commits (names k) = [] ∧ (at' before).lookup (names k) = some i ∧
            new = Memory.withStatus i (report.apply i).status? ∧
            (at' (before ++ [(k, updated sent answer)])).lookup (names k) = some new
        | .error cause => at' (before ++ [(k, updated sent answer)]) = at' before ∧
            (∀ more result, (s.play (turns ++ more)).result? k = some result →
              result = .error (.status (names k) cause)) ∧
            ∃ more, (s.play (turns ++ more)).result? k =
              some (.error (.status (names k) cause)) := by
  intro s at'
  have hkeyed := hr.keyed
  have hanswers : r.cluster.Answers (s.log turns).calls := s.answers_play turns
  change r.cluster.Room (s.log turns).calls at hroom
  refine ⟨fun name before between after i j hlog hi hj hversion => ?_,
    fun before after k sent answer hlog => ?_⟩
  · rw [hlog, SharedLog.calls_append, SharedLog.calls_append] at hanswers hroom
    have hbetween := Memory.answers_append.mp (Memory.answers_append.mp hanswers).1
    change (r.cluster.through (before ++ between).calls).installations.lookup name = some j at hj
    rw [SharedLog.calls_append, Memory.through_append] at hj
    exact (Memory.commits_eq_nil_of_version (Memory.keyed_through hkeyed _) hbetween.2
      (hroom.left.drop hkeyed hbetween.1) hi hj hversion).1
  · obtain ⟨i, report, since, hprepared, rfl, herror⟩ := prepared_of_log hlog
    rw [hlog, SharedLog.calls_append, SharedLog.calls_cons] at hanswers hroom
    obtain ⟨hbefore, hgives, -⟩ := Memory.answers_append.mp hanswers
    have hname := hprepared.anyName hkeyed hbefore
    have hafter : at' (before ++ [(k, updated (report.apply i) answer)]) =
        ((r.cluster.through before.calls).writeStatus (report.apply i)).2.installations := by
      show (r.cluster.through (SharedLog.calls (before ++ [_]))).installations = _
      rw [SharedLog.calls_append, Memory.through_append]
      rfl
    refine ⟨i, report, since, hprepared, rfl, ?_⟩
    cases answer with
    | ok new =>
      obtain ⟨hnone, hold, hnew, hstored⟩ :=
        hprepared.written hkeyed hbefore hroom.left (Eq.symm hgives)
      exact ⟨hnone, hold, hnew, hafter ▸ hstored⟩
    | error cause =>
      dsimp only
      rw [← hname]
      obtain ⟨more, -, hend⟩ := (s.play turns).exists_result k
      obtain ⟨result, hresult⟩ := Option.isSome_iff_exists.mp hend
      rw [← Ensemble.play_append] at hresult
      refine ⟨hafter.trans (Memory.installations_of_error (Eq.symm hgives)), herror cause rfl,
        more, ?_⟩
      rw [hresult, herror cause rfl more result hresult]

theorem room_of_turns {α : Type} {s : Ensemble ι α} {turns : List (Turn ι)}
    (h : ∀ name i, s.cluster.installations.lookup name = some i →
      Memory.versionValue i.metadata.resourceVersion? + turns.length < 2 ^ 64) :
    s.cluster.Room (s.log turns).calls := by
  intro name i hi
  have hcommits : ((s.log turns).calls.commits name).length ≤ (s.log turns).calls.length :=
    (List.length_filter_le _ _).trans (List.length_filterMap_le _ _)
  have hcalls : (s.log turns).calls.length ≤ turns.length := by
    rw [SharedLog.calls, List.length_map]
    exact s.length_log_le turns
  have := h name i hi
  omega

end SideBySide

/-- Of two reconciliations the one that is overtaken finds another version, and ends with an error.
-/
theorem reconciles_keep_updates_overtaken :
    let r := (Rehearsal.start .empty .ok).after [.register (.new "demo" "" .packagedChart)]
    let s := reconciles (fun _ : Bool => .standard) (fun _ => none) (fun _ => "demo") r.cluster
    let turns := turnsOf false [] 3 ++ turnsOf true [] 5 ++ turnsOf false [] 1
    let cause := ClusterError.conflict "Installation/demo" "resourceVersion mismatch"
    r.Reachable ∧ r.cluster.Room (s.log turns).calls ∧
      ∃ more, (s.play (turns ++ more)).result? false = some (.error (.status "demo" cause)) := by
  intro r s turns cause
  let stored : Installation :=
    ⟨{ Metadata.empty with name? := some "demo", resourceVersion? := some "1" },
      ⟨"", .packagedChart⟩, none⟩
  have hr : r.Reachable := ⟨_, _, _, rfl⟩
  have hroom : r.cluster.Room (s.log turns).calls := by
    refine room_of_turns (s := s) fun name i hi => ?_
    change [("demo", stored)].lookup name = some i at hi
    obtain ⟨l₁, l₂, hsplit, -⟩ := List.lookup_eq_some_iff.mp hi
    have hmem : (name, i) ∈ [("demo", stored)] :=
      hsplit ▸ List.mem_append_right _ List.mem_cons_self
    obtain ⟨rfl, rfl⟩ := Prod.mk.inj (List.mem_singleton.mp hmem)
    decide
  refine ⟨hr, hroom, ?_⟩
  let report : Report := ⟨none, .failed 0, some (.unsupported .packagedChart), .empty⟩
  have hlog : s.log turns =
      (s.log turns).take 8 ++ (false, updated (report.apply stored) (.error cause)) :: [] := rfl
  obtain ⟨i, report', since, -, -, -, -, hend⟩ :=
    (reconciles_keep_updates hr hroom).2 _ _ _ _ _ hlog
  exact hend

end BundleInstaller.Install
