import BundleInstaller.Proofs.Convergence
import BundleInstaller.Proofs.Passage

/-!
# Documents that are not reached

An attempt goes through the documents of a bundle in order and stops at the first one that fails.
So two bundles that begin with the same documents are the same to it if it stops at one of those:
it asks for the same things, is told the same and leaves the cluster in the same state.  Only how
many documents the bundle has is known by then.

* `runsAlike_of_isLocal`: a plan that asks nobody but the cluster sees nothing but the cluster.
* `applyDocuments_setTotal`: how many documents there are changes nothing else.
* `run_applyDocuments_unreached`: a pass that stops does not depend on what comes behind.
* `attempt_ignores_unreached`: neither does an attempt.
-/

namespace BundleInstaller.Install

open BundleInstaller.Bundle Cluster Program

/-! ## Plans that see the cluster alone -/

/-- Whether a call is answered by the cluster, or by nobody. -/
def Call.IsLocal : Call → Prop
  | .cluster _ | .note _ => True
  | .fetch _ | .build _ => False

/-- From both rehearsals the plan comes to the same result, by the same calls and with the same
answers, and leaves the same cluster. -/
structure RunsAlike {α : Type} (p : Plan α) (r s : Rehearsal) : Prop where
  result : (s.run p).1 = (r.run p).1
  cluster : (s.run p).2.cluster = (r.run p).2.cluster
  log : p.transcript Rehearsal.handle s = p.transcript Rehearsal.handle r

/-- **A plan that asks nobody but the cluster sees nothing but the cluster.** -/
theorem runsAlike_of_isLocal {α : Type} {p : Plan α} (h : p.Asks Call.IsLocal) {r s : Rehearsal}
    (hcluster : s.cluster = r.cluster) : RunsAlike p r s := by
  -- The shelves of the two rehearsals may differ, but a local call does not look at them.
  induction p generalizing r s with
  | done a => exact ⟨rfl, hcluster, rfl⟩
  | ask c next ih =>
    have hanswer : (Rehearsal.handle c s).1 = (Rehearsal.handle c r).1 ∧
        (Rehearsal.handle c s).2.cluster = (Rehearsal.handle c r).2.cluster := by
      cases c with
      | cluster c =>
        show (s.cluster.answer c).1 = _ ∧ (s.cluster.answer c).2 = _
        rw [hcluster]
        exact ⟨rfl, rfl⟩
      | note e => exact ⟨rfl, hcluster⟩
      | _ => exact h.1.elim
    obtain ⟨hresult, hstate, hlog⟩ := ih (Rehearsal.handle c r).1 (h.2 _) hanswer.2
    refine ⟨?_, ?_, ?_⟩
    · rw [Rehearsal.run, run_ask, hanswer.1]
      exact hresult
    · rw [Rehearsal.run, run_ask, hanswer.1]
      exact hstate
    · rw [transcript, transcript, hanswer.1, hlog]

theorem transcript_ask_bind {α : Type} (c : Call) (f : c.Answer → Plan α) (r : Rehearsal) :
    (ask c >>= f).transcript Rehearsal.handle r = ⟨c, (Rehearsal.handle c r).1⟩ ::
      (f (Rehearsal.handle c r).1).transcript Rehearsal.handle (Rehearsal.handle c r).2 := rfl

/-! ## Passes over documents -/

/-- How many documents there are changes nothing but the total. -/
theorem applyDocuments_setTotal (catalog : Catalog) (documents : List Document) (p : Progress)
    (total? : Option Nat) :
    applyDocuments catalog { p with total? := total? } documents =
      applyDocuments catalog p documents >>= fun x =>
        done ({ x.1 with total? := total? }, x.2) := by
  induction documents generalizing p with
  | nil => rfl
  | cons document rest ih =>
    have henter : ∀ (q : Progress) (f : Progress → Plan (Progress × Option InstallError)),
        (q.enter (.applying document.index) >>= f) =
          note .debug "Attempt phase"
            [("from", q.phase.text), ("to", (Phase.applying document.index).text)] >>= fun _ =>
          f { q with phase := .applying document.index } :=
      fun _ _ => rfl
    rw [applyDocuments, applyDocuments, henter, henter, Program.bind_assoc]
    congr 1
    funext _
    rw [Program.bind_assoc]
    congr 1
    funext result
    cases result with
    | error e => rfl
    | ok named => exact ih ({ p with phase := .applying document.index }.record named.1 named.2)

/-- **A pass that stops does not depend on what comes behind**, nor on how much that is. -/
theorem run_applyDocuments_unreached {catalog : Catalog} {before : List Document} {p : Progress}
    {r : Rehearsal} (h : (r.run (applyDocuments catalog p before)).1.2.isSome)
    (after : List Document) (total? : Option Nat) :
    let whole := applyDocuments catalog { p with total? := total? } (before ++ after)
    let x := r.run (applyDocuments catalog p before)
    r.run whole = (({ x.1.1 with total? := total? }, x.1.2), x.2) ∧
      whole.transcript Rehearsal.handle r =
        (applyDocuments catalog p before).transcript Rehearsal.handle r := by
  -- After an error the plan is done, so that the documents behind it are not even begun.
  obtain ⟨e, he⟩ := Option.isSome_iff_exists.mp h
  have hend : (r.run (applyDocuments catalog { p with total? := total? } before)) =
      (({ (r.run (applyDocuments catalog p before)).1.1 with total? := total? }, some e),
        (r.run (applyDocuments catalog p before)).2) := by
    rw [applyDocuments_setTotal, Rehearsal.run_bind, he]
    rfl
  intro whole x
  have hwhole : whole = _ := applyDocuments_append catalog before after { p with total? := total? }
  rw [hwhole]
  constructor
  · rw [Rehearsal.run_bind, hend, he]
    rfl
  · have hresult : (run Rehearsal.handle
        (applyDocuments catalog { p with total? := total? } before) r).1.2 = some e :=
      congrArg (fun x => x.1.2) hend
    rw [transcript_bind, hresult, applyDocuments_setTotal, transcript_bind]
    simp only [transcript, List.append_nil]

theorem index_of_fails {bundle : Bytes} {passed documents : List Document} {catalog : Catalog}
    {p : Progress} {r : Rehearsal} (hsplit : splitDocuments bundle = .ok (passed ++ documents))
    (herror : (r.run (applyDocuments catalog p documents)).1.2.isSome) :
    passed.length < (r.run (applyDocuments catalog p documents)).1.1.phase.index ∧
      (r.run (applyDocuments catalog p documents)).1.1.phase.index ≤
        (passed ++ documents).length := by
  obtain ⟨before, d, after, hdocuments, hphase, -⟩ := (admits_of_run catalog documents p r).2 herror
  rw [hphase]
  subst hdocuments
  rw [← List.append_assoc] at hsplit
  rw [Phase.index, index_of_split hsplit]
  simp only [List.length_append, List.length_cons]
  omega

/-- A pass that fails at one of the first documents fails without the others. -/
theorem run_fails_within {bundle : Bytes} {before after : List Document} {catalog : Catalog}
    {p : Progress} {r : Rehearsal} (hsplit : splitDocuments bundle = .ok (before ++ after))
    (herror : (r.run (applyDocuments catalog p (before ++ after))).1.2.isSome)
    (hindex : (r.run (applyDocuments catalog p (before ++ after))).1.1.phase.index ≤
      before.length) :
    (r.run (applyDocuments catalog p before)).1.2.isSome := by
  rw [applyDocuments_append, Rehearsal.run_bind] at herror hindex
  cases hbefore : (r.run (applyDocuments catalog p before)).1.2 with
  | some e => rfl
  | none =>
    rw [hbefore] at herror hindex
    exact absurd hindex (Nat.not_le.mpr (index_of_fails hsplit herror).1)

/-! ## Attempts -/

/-- The event of ending an attempt. -/
def finished (report : Report) : Event :=
  .ofTexts .debug "Attempt finished"
    [("phase", report.phase.text), ("summary", report.summary.text)]

/-- What an attempt does with a bundle of documents when it has it. -/
def installFetched (bundle : Bytes) : Plan Report := do
  let (p, error?) ← installDocuments bundle ⟨.fetching, none, .empty⟩
  ask (.note (finished (p.finish error?)))
  return p.finish error?

def entered (before after : Phase) : Event :=
  .ofTexts .debug "Attempt phase" [("from", before.text), ("to", after.text)]

/-- What an attempt does with what it fetched. -/
def goOn : Except FetchError Bytes → Plan Report
  | .error e => do
    let report := Progress.finish ⟨.fetching, none, .empty⟩ (some (.ofFetch e))
    ask (.note (finished report))
    return report
  | .ok bundle => installFetched bundle

theorem attempt_of_valid (config : Config) {i : Installation} {url : Url}
    (hkind : i.spec.kind = .rawBundle) (hvalid : Fetch.validate i.spec.url = .ok url) :
    attempt config i = ask (.note (entered .pending .fetching)) >>= fun _ =>
      ask (.fetch i.spec.url) >>= goOn := by
  unfold attempt attemptSteps fetchAndInstall fetchBundle
  rw [hkind]
  dsimp only
  rw [hvalid]
  show Program.ask _ (fun _ => Program.ask _ _) = Program.ask _ (fun _ => Program.ask _ _)
  congr 2
  funext _
  congr 1
  funext fetched
  cases fetched <;> rfl

theorem attempt_of_fetch (config : Config) {i : Installation} {r : Rehearsal} {bundle : Bytes}
    (hkind : i.spec.kind = .rawBundle) (hfetch : (r.shelf.fetch i.spec.url).1 = .ok bundle) :
    ∃ shelf, r.run (attempt config i) = Rehearsal.run (installFetched bundle)
        { r with shelf := shelf } ∧
      (attempt config i).transcript Rehearsal.handle r =
        noted (entered .pending .fetching) :: ⟨.fetch i.spec.url, .ok bundle⟩ ::
          (installFetched bundle).transcript Rehearsal.handle { r with shelf := shelf } := by
  obtain ⟨url, hvalid⟩ := validate_of_fetch hfetch
  have hanswer : Rehearsal.handle (.fetch i.spec.url) r =
      (.ok bundle, { r with shelf := (r.shelf.fetch i.spec.url).2 }) := Prod.ext hfetch rfl
  refine ⟨(r.shelf.fetch i.spec.url).2, ?_, ?_⟩
  · rw [attempt_of_valid config hkind hvalid, Rehearsal.run_ask, Rehearsal.run_ask]
    show Rehearsal.run (goOn (Rehearsal.handle (.fetch i.spec.url) r).1)
      (Rehearsal.handle (.fetch i.spec.url) r).2 = _
    rw [hanswer]
    rfl
  · rw [attempt_of_valid config hkind hvalid, transcript_ask_bind, transcript_ask_bind]
    show _ :: ⟨_, (Rehearsal.handle (.fetch i.spec.url) r).1⟩ ::
      (goOn (Rehearsal.handle (.fetch i.spec.url) r).1).transcript Rehearsal.handle
        (Rehearsal.handle (.fetch i.spec.url) r).2 = _
    rw [hanswer]
    rfl

/-- What an attempt does with the documents of a bundle when it was told what is served. -/
def applyServed (documents : List Document) :
    Except ClusterError Catalog → Plan (Progress × Option InstallError)
  | .error e => done (⟨.splitting, some documents.length, .empty⟩, some (.discovery e))
  | .ok catalog => applyDocuments catalog ⟨.splitting, some documents.length, .empty⟩ documents

theorem run_installFetched {bundle : Bytes} {documents : List Document}
    (hsplit : splitDocuments bundle = .ok documents) (r : Rehearsal) :
    let d := Rehearsal.handle (.cluster .discover) r
    let x := d.2.run (applyServed documents d.1)
    let report := x.1.1.finish x.1.2
    r.run (installFetched bundle) = (report, x.2) ∧
      (installFetched bundle).transcript Rehearsal.handle r =
        noted (entered .fetching .splitting) :: ⟨.cluster .discover, d.1⟩ ::
          ((applyServed documents d.1).transcript Rehearsal.handle d.2 ++
            [noted (finished report)]) := by
  have hform : installFetched bundle = ask (.note (entered .fetching .splitting)) >>= fun _ =>
      ask (.cluster .discover) >>= fun served => applyServed documents served >>= fun x =>
      ask (.note (finished (x.1.finish x.2))) >>= fun _ => done (x.1.finish x.2) := by
    unfold installFetched installDocuments
    rw [hsplit]
    rfl
  intro d x report
  rw [hform]
  constructor
  · rw [Rehearsal.run_ask, Rehearsal.run_ask, Rehearsal.run_bind]
    rfl
  · rw [transcript_ask_bind, transcript_ask_bind, transcript_bind]
    rfl

/-- What is served is the same for two bundles, and so are the documents that they begin with. -/
theorem run_applyServed_unreached {bundle : Bytes} {before after : List Document}
    {served : Except ClusterError Catalog} {r : Rehearsal}
    (hsplit : splitDocuments bundle = .ok (before ++ after))
    (herror : (r.run (applyServed (before ++ after) served)).1.2.isSome)
    (hindex : (r.run (applyServed (before ++ after) served)).1.1.phase.index ≤ before.length)
    (after' : List Document) :
    let x := r.run (applyServed (before ++ after) served)
    r.run (applyServed (before ++ after') served) =
        (({ x.1.1 with total? := some (before ++ after').length }, x.1.2), x.2) ∧
      (applyServed (before ++ after') served).transcript Rehearsal.handle r =
        (applyServed (before ++ after) served).transcript Rehearsal.handle r := by
  cases served with
  | error e => exact ⟨rfl, rfl⟩
  | ok catalog =>
    have hbefore := run_fails_within hsplit herror hindex
    obtain ⟨hfirst, hlog⟩ := run_applyDocuments_unreached hbefore after
      (some (before ++ after).length)
    obtain ⟨hsecond, hlog'⟩ := run_applyDocuments_unreached hbefore after'
      (some (before ++ after').length)
    dsimp only [applyServed]
    exact ⟨hsecond.trans (by rw [hfirst]), hlog'.trans hlog.symm⟩

theorem finish_failed {p : Progress} {error? : Option InstallError} {n : Nat}
    (h : (p.finish error?).phase = .failed n) : error?.isSome ∧ p.phase.index = n := by
  cases error? with
  | none => cases h
  | some e =>
    cases h
    exact ⟨rfl, rfl⟩

/-- Two bundles that begin with the same `n` documents are handled alike by an attempt that fails
at the last one of these. -/
theorem run_installFetched_unreached {bundle bundle' : Bytes} {documents documents' : List Document}
    {r : Rehearsal} {n : Nat} (hsplit : splitDocuments bundle = .ok documents)
    (hsplit' : splitDocuments bundle' = .ok documents')
    (hsame : documents'.take n = documents.take n)
    (hfailed : (r.run (installFetched bundle)).1.phase = .failed n) :
    let first := r.run (installFetched bundle)
    r.run (installFetched bundle') =
        ({ first.1 with total? := some documents'.length }, first.2) ∧
      (installFetched bundle').transcript Rehearsal.handle r =
        (installFetched bundle).transcript Rehearsal.handle r := by
  obtain ⟨hrun, hlog⟩ := run_installFetched hsplit r
  obtain ⟨hrun', hlog'⟩ := run_installFetched hsplit' r
  rw [hrun] at hfailed
  rw [hrun, hlog, hrun', hlog']
  clear hrun hlog hrun' hlog'
  generalize Rehearsal.handle (.cluster .discover) r = d at *
  obtain ⟨herror, hindex⟩ := finish_failed hfailed
  have hlength : n ≤ documents.length := by
    rw [← hindex]
    cases hserved : d.1 with
    | error e => exact Nat.zero_le _
    | ok catalog =>
      rw [hserved] at herror
      have hpassed : splitDocuments bundle = .ok ([] ++ documents) := hsplit
      exact (index_of_fails hpassed herror).2
  rw [← List.take_append_drop n documents] at hsplit herror hindex ⊢
  rw [← List.take_append_drop n documents', hsame]
  obtain ⟨hresult, hlog⟩ := run_applyServed_unreached hsplit herror
    (by rw [hindex, List.length_take, Nat.min_eq_left hlength]) (documents'.drop n)
  rw [hresult, hlog]
  exact ⟨rfl, rfl⟩

/-- What was asked for in a log, apart from bundles. -/
def besidesFetches (log : Log) : Log :=
  log.filter fun x => match x.1 with
    | .fetch _ => false
    | _ => true

theorem index_take_of_split {bundle : Bytes} {documents : List Document} (n : Nat)
    (h : splitDocuments bundle = .ok documents) :
    (documents.take n).map (·.index) = List.range' 1 (documents.take n).length := by
  have hindex := index_splitDocuments h
  rw [← List.take_append_drop n documents, List.map_append] at hindex
  obtain ⟨k, -, hk, -⟩ := List.range'_eq_append_iff.mp hindex.symm
  have hlength := congrArg List.length hk
  rw [List.length_map, List.length_range'] at hlength
  rw [hk, hlength]

theorem take_eq_of_bytes {bundle bundle' : Bytes} {documents documents' : List Document} {n : Nat}
    (hsplit : splitDocuments bundle = .ok documents)
    (hsplit' : splitDocuments bundle' = .ok documents')
    (hsame : (documents'.map (·.bytes)).take n = (documents.map (·.bytes)).take n) :
    documents'.take n = documents.take n := by
  rw [← List.map_take, ← List.map_take] at hsame
  have hlength : (documents'.take n).length = (documents.take n).length := by
    simpa only [List.length_map] using congrArg List.length hsame
  have hindex : (documents'.take n).map (·.index) = (documents.take n).map (·.index) := by
    rw [index_take_of_split n hsplit, index_take_of_split n hsplit', hlength]
  have hpairs := congrArg₂ List.zip hindex hsame
  rw [List.zip_map', List.zip_map'] at hpairs
  refine List.map_injective_iff.mpr (fun d d' h => ?_) hpairs
  obtain ⟨index, bytes⟩ := d
  obtain ⟨index', bytes'⟩ := d'
  cases h
  rfl

theorem asks_installDocuments (bundle : Bytes) (p : Progress) :
    (installDocuments bundle p).Asks Call.IsLocal := by
  unfold installDocuments
  refine (asks_enter (fun _ => trivial) _ _).bind fun p => ?_
  cases splitDocuments bundle with
  | error e => trivial
  | ok documents =>
    refine ⟨trivial, fun served => ?_⟩
    cases served with
    | error e => trivial
    | ok catalog =>
      exact asks_applyDocuments (fun _ => trivial) (fun _ _ _ => trivial) (fun _ _ _ => trivial)
        catalog documents _

theorem asks_installFetched (bundle : Bytes) : (installFetched bundle).Asks Call.IsLocal :=
  (asks_installDocuments bundle _).bind fun _ => ⟨trivial, fun _ => trivial⟩

/-- **Documents behind the one that fails have no influence.**  Whatever stands there in another
bundle, the attempt with it fails at the same document, for the same reason. -/
theorem attempt_ignores_unreached (config config' : Config) {i i' : Installation}
    {r s : Rehearsal} {bundle bundle' : Bytes} {documents documents' : List Document} {n : Nat}
    (hcluster : s.cluster = r.cluster) (hkind : i.spec.kind = .rawBundle)
    (hkind' : i'.spec.kind = .rawBundle) (hfetch : (r.shelf.fetch i.spec.url).1 = .ok bundle)
    (hfetch' : (s.shelf.fetch i'.spec.url).1 = .ok bundle')
    (hsplit : splitDocuments bundle = .ok documents)
    (hsplit' : splitDocuments bundle' = .ok documents')
    (hsame : (documents'.map (·.bytes)).take n = (documents.map (·.bytes)).take n)
    (hfailed : (r.run (attempt config i)).1.phase = .failed n) :
    let first := r.run (attempt config i)
    let second := s.run (attempt config' i')
    second.1 = { first.1 with total? := some documents'.length } ∧
      second.2.cluster = first.2.cluster ∧
      besidesFetches ((attempt config' i').transcript Rehearsal.handle s) =
        besidesFetches ((attempt config i).transcript Rehearsal.handle r) := by
  obtain ⟨shelf, hrun, hlog⟩ := attempt_of_fetch config hkind hfetch
  obtain ⟨shelf', hrun', hlog'⟩ := attempt_of_fetch config' hkind' hfetch'
  rw [hrun] at hfailed
  obtain ⟨hsecond, hseconds⟩ := run_installFetched_unreached hsplit hsplit'
    (take_eq_of_bytes hsplit hsplit' hsame) hfailed
  obtain ⟨hresult, hstate, hasked⟩ := runsAlike_of_isLocal (asks_installFetched bundle')
    (r := { r with shelf := shelf }) (s := { s with shelf := shelf' }) hcluster
  dsimp only
  rw [hrun, hrun', hlog, hlog', hresult, hstate, hasked, hsecond, hseconds]
  exact ⟨rfl, rfl, rfl⟩

/-- An object, another one of a kind that nobody serves, and a third one. -/
def stopping : List String :=
  ["apiVersion: v1", "kind: ConfigMap", "metadata: {name: a}", "---", "apiVersion: v1",
    "kind: Widget", "metadata: {name: w}", "---", "apiVersion: v1", "kind: Secret",
    "metadata: {name: s}"]

/-- The first two objects in other words, and then no object at all. -/
def stoppingToo : List String :=
  ["{apiVersion: v1, kind: ConfigMap, metadata: {name: a}}", "---", "apiVersion: v1",
    "kind: Widget", "metadata:", "  name: w", "---", "5", "---", "kind: Secret"]

def textsOf (bundle : Bytes) : Option (List Bytes) :=
  (splitDocuments bundle).toOption.map (·.map (·.bytes))

theorem split_of_textsOf {bundle : Bytes} {texts : List Bytes} (h : textsOf bundle = some texts) :
    ∃ documents, splitDocuments bundle = .ok documents ∧ documents.map (·.bytes) = texts := by
  unfold textsOf at h
  cases hsplit : splitDocuments bundle with
  | error e =>
    rw [hsplit] at h
    cases h
  | ok documents =>
    rw [hsplit] at h
    exact ⟨documents, rfl, Option.some.inj h⟩

/-- Both attempts stop at the second object. -/
theorem attempt_ignores_unreached_widget :
    let first := (Rehearsal.ofLines stopping).run (attempt .standard demo)
    let second := (Rehearsal.ofLines stoppingToo).run (attempt .standard demo)
    first.1 = ⟨some 3, .failed 2, some (.mapping "" "v1" "Widget"), ⟨["ConfigMap/a"], []⟩⟩ ∧
      second.1 = { first.1 with total? := some 4 } ∧ second.2.cluster = first.2.cluster := by
  have htexts : textsOf (bundleOf stopping) =
      some (["apiVersion: v1\nkind: ConfigMap\nmetadata:\n  name: a\n",
        "apiVersion: v1\nkind: Widget\nmetadata:\n  name: w\n",
        "apiVersion: v1\nkind: Secret\nmetadata:\n  name: s\n"].map Text.Utf8.ofString) := by
    decide +kernel
  have htexts' : textsOf (bundleOf stoppingToo) =
      some (["apiVersion: v1\nkind: ConfigMap\nmetadata:\n  name: a\n",
        "apiVersion: v1\nkind: Widget\nmetadata:\n  name: w\n", "5\n",
        "kind: Secret\n"].map Text.Utf8.ofString) := by
    decide +kernel
  obtain ⟨documents, hsplit, hbytes⟩ := split_of_textsOf htexts
  obtain ⟨documents', hsplit', hbytes'⟩ := split_of_textsOf htexts'
  have hlength : documents'.length = 4 := by
    rw [← List.length_map (·.bytes), hbytes']
    rfl
  have hfirst : ((Rehearsal.ofLines stopping).run (attempt .standard demo)).1 =
      ⟨some 3, .failed 2, some (.mapping "" "v1" "Widget"), ⟨["ConfigMap/a"], []⟩⟩ := by
    decide +kernel
  obtain ⟨hsecond, hcluster, -⟩ := attempt_ignores_unreached .standard .standard
    (r := .ofLines stopping) (s := .ofLines stoppingToo) (n := 2) rfl rfl rfl
    (awaits_ofLines stopping).fetched (awaits_ofLines stoppingToo).fetched hsplit hsplit'
    (by rw [hbytes, hbytes']; rfl) (by rw [hfirst])
  rw [hlength] at hsecond
  exact ⟨hfirst, hsecond, hcluster⟩

end BundleInstaller.Install
