import BundleInstaller.Install.Attempt
import BundleInstaller.Proofs.Calls
import BundleInstaller.Proofs.Numbering
import Mathlib.Data.List.Basic
import Mathlib.Data.List.Infix

/-!
# What an attempt accounts for

An attempt goes through the parts of a bundle in order: the documents of a bundle of documents, the
chunks of an overlay.  `Sweep` is that pass, whichever the kind; it is what `applyDocuments` and
`postChunks` have in common.  From it follows what the report of an attempt says, whatever it was
answered on its way.

* `Sweep.tally`: each part before the one that the pass stops at is recorded once, in order, and
  each is entered with its own number.
* `attempt_course`: an attempt either ends before the first part, with nothing recorded, or passes
  over the parts of its bundle.
* `attempt_accounted`: the report of an attempt accounts for the parts of its bundle, and its phases
  are entered in order.
-/

namespace BundleInstaller.Install

open BundleInstaller.Bundle Program

/-- What an attempt asked for, with the answers. -/
abbrev Log := List (Answered Call Call.Answer)

/-! ## Phases -/

/-- The two phases that an event names which tells of going on: where from, and where to. -/
def phaseChange? : Call → Option (String × String)
  | .note e =>
    if e.message = "Attempt phase" then
      match e.fields with
      | [("from", .str a), ("to", .str b)] => some (a, b)
      | _ => none
    else none
  | _ => none

theorem phaseChange?_note : CoversNotes (phaseChange? · = none) := fun _ he => if_neg he

def Log.changes (log : Log) : List (String × String) := log.filterMap (phaseChange? ·.1)

/-- The changes of phase of someone who goes from `p` through `phases`. -/
def changesOf (p : Phase) : List Phase → List (String × String)
  | [] => []
  | q :: phases => (p.text, q.text) :: changesOf q phases

/-- The phases before the first part of a bundle, behind the pending one. -/
def preamble : BundleKind → List Phase
  | .rawBundle => [.fetching, .splitting]
  | .overlay => [.fetching, .rendering, .splitting]
  | .packagedChart => []

/-- All phases that an attempt enters which has `n` parts to install. -/
def route (kind : BundleKind) (n : Nat) : List Phase :=
  .pending :: preamble kind ++ (List.range' 1 n).map .applying

theorem Log.changes_append (l₁ l₂ : Log) :
    Log.changes (l₁ ++ l₂) = l₁.changes ++ l₂.changes := List.filterMap_append

theorem Log.changes_eq_nil {α : Type} {p : Plan α} {log : Log} {a : α}
    (hp : p.Asks (phaseChange? · = none)) (h : p.Yields log a) : log.changes = [] := by
  rw [Log.changes, List.filterMap_eq_nil_iff]
  exact hp.of_yields h

theorem changesOf_append (p : Phase) (l₁ l₂ : List Phase) :
    changesOf p (l₁ ++ l₂) = changesOf p l₁ ++ changesOf (l₁.getLastD p) l₂ := by
  induction l₁ generalizing p with
  | nil => rfl
  | cons q l₁ ih => rw [List.cons_append, changesOf, changesOf, ih, List.cons_append,
      List.getLastD_cons]

theorem yields_enter_bind {α : Type} {p : Progress} {q : Phase} {f : Progress → Plan α} {log : Log}
    {a : α} (h : (p.enter q >>= f).Yields log a) :
    ∃ rest : Log, log.changes = (p.phase.text, q.text) :: rest.changes ∧ (∀ x ∈ rest, x ∈ log) ∧
      (f { p with phase := q }).Yields rest a := by
  obtain ⟨answer, rest, rfl, hf⟩ := yields_call_bind_iff.mp h
  exact ⟨rest, rfl, fun x hx => List.mem_cons_of_mem _ hx, hf⟩

/-! ## Parts of a bundle -/

/-- A part of a bundle: its number, and its name if it has one. -/
structure Part where
  index : Nat
  name? : Option String

/-- The part that a document is; a document that is no declaration has no name. -/
def Part.ofDocument (d : Document) : Part :=
  ⟨d.index, (Declaration.parse d).toOption.map (·.header.displayName)⟩

def Part.ofChunk (index : Nat) : Part := ⟨index, some (chunkName index)⟩

def Summary.recordAll (s : Summary) (results : List (String × Applied)) : Summary :=
  results.foldl (fun s x => s.record x.1 x.2) s

/-- A pass over parts in order, up to the first one that fails: it goes from one progress to
another, with the changes of phase on its way and what became of the parts that it got through. -/
inductive Sweep : Progress → List Part → List (String × String) → Progress →
    Option InstallError → List (String × Applied) → Prop
  | nil (p : Progress) : Sweep p [] [] p none []
  | stop (p : Progress) (part : Part) (rest : List Part) (e : InstallError) :
      Sweep p (part :: rest) [(p.phase.text, (Phase.applying part.index).text)]
        { p with phase := .applying part.index } (some e) []
  | step {p p' : Progress} {part : Part} {rest : List Part} {name : String} {applied : Applied}
      {changes : List (String × String)} {error? : Option InstallError}
      {results : List (String × Applied)} (hname : part.name? = some name)
      (h : Sweep ({ p with phase := .applying part.index }.record name applied) rest changes p'
        error? results) :
      Sweep p (part :: rest) ((p.phase.text, (Phase.applying part.index).text) :: changes) p'
        error? ((name, applied) :: results)

namespace Sweep

variable {p p' : Progress} {parts : List Part} {changes : List (String × String)}
  {error? : Option InstallError} {results : List (String × Applied)}

/-- The number of parts that a pass comes to: those that it gets through, and the failing one. -/
def reached (error? : Option InstallError) (results : List (String × Applied)) : Nat :=
  results.length + error?.toList.length

theorem length_results (h : Sweep p parts changes p' error? results) :
    reached error? results ≤ parts.length ∧ (error? = none → results.length = parts.length) := by
  induction h with
  | nil p => exact ⟨Nat.le_refl _, fun _ => rfl⟩
  | stop p part rest e => exact ⟨by simp [reached], fun h => by cases h⟩
  | step hname h ih =>
    refine ⟨?_, fun h => ?_⟩
    · have := ih.1
      simp only [reached, List.length_cons] at this ⊢
      omega
    · rw [List.length_cons, List.length_cons, ih.2 h]

/-- **What a pass got through is recorded once each, in order.** -/
theorem tally (h : Sweep p parts changes p' error? results) :
    p'.total? = p.total? ∧ p'.summary = p.summary.recordAll results ∧
      results.map (some ·.1) = (parts.map (·.name?)).take results.length := by
  induction h with
  | nil p => exact ⟨rfl, rfl, rfl⟩
  | stop p part rest e => exact ⟨rfl, rfl, rfl⟩
  | step hname h ih =>
    obtain ⟨htotal, hsummary, hnames⟩ := ih
    refine ⟨htotal, hsummary, ?_⟩
    rw [List.map_cons, List.map_cons, List.length_cons, List.take_succ_cons, hnames, hname]

/-- **A pass enters each part that it comes to with its number.** -/
theorem entered (h : Sweep p parts changes p' error? results) :
    changes = changesOf p.phase
        ((parts.take (reached error? results)).map fun x => .applying x.index) ∧
      p'.phase = ((parts.take (reached error? results)).map
        fun x => Phase.applying x.index).getLastD p.phase := by
  induction h with
  | nil p => exact ⟨rfl, rfl⟩
  | stop p part rest e => exact ⟨rfl, rfl⟩
  | @step p p' part rest name applied changes error? results hname h ih =>
    have hreached : reached error? ((name, applied) :: results) = reached error? results + 1 := by
      simp only [reached, List.length_cons]
      omega
    rw [hreached, List.take_succ_cons, List.map_cons, changesOf, List.getLastD_cons]
    exact ⟨by rw [ih.1]; rfl, ih.2⟩

end Sweep

/-! ## Passes over bundles -/

theorem applyDocument_ok {catalog : Cluster.Catalog} {document : Document} {log : Log}
    {name : String} {applied : Applied}
    (h : (applyDocument catalog document).Yields log (.ok (name, applied))) :
    (Part.ofDocument document).name? = some name := by
  unfold applyDocument at h
  unfold Part.ofDocument
  cases hd : Declaration.parse document with
  | error e =>
    rw [hd] at h
    cases (yields_done_iff.mp h).2
  | ok d =>
    rw [hd] at h
    obtain ⟨_, inner, -, hnoted⟩ := yields_call_bind_iff.mp h
    obtain ⟨_, result, after, -, -, hresult⟩ := yields_bind_iff.mp hnoted
    cases result with
    | error e => cases (yields_done_iff.mp hresult).2
    | ok applied =>
      cases (yields_done_iff.mp hresult).2
      rfl

theorem applyDocuments_sweep {catalog : Cluster.Catalog} {p' : Progress}
    {error? : Option InstallError} : ∀ {documents : List Document} {p : Progress} {log : Log},
      (applyDocuments catalog p documents).Yields log (p', error?) →
        ∃ results, Sweep p (documents.map .ofDocument) log.changes p' error? results := by
  intro documents
  induction documents with
  | nil =>
    intro p log h
    obtain ⟨rfl, he⟩ := yields_done_iff.mp h
    cases he
    exact ⟨[], .nil _⟩
  | cons document rest ih =>
    intro p log h
    unfold applyDocuments at h
    obtain ⟨inner, hchanges, -, hinner⟩ := yields_enter_bind h
    obtain ⟨before, result, after, hsplit, hdocument, hafter⟩ := yields_bind_iff.mp hinner
    have hquiet : Log.changes before = [] :=
      Log.changes_eq_nil (asks_applyDocument phaseChange?_note (fun _ _ _ => rfl)
        (fun _ _ _ => rfl) _ _) hdocument
    rw [hsplit, Log.changes_append, hquiet, List.nil_append] at hchanges
    rw [hchanges]
    cases result with
    | error e =>
      obtain ⟨rfl, he⟩ := yields_done_iff.mp hafter
      cases he
      exact ⟨[], .stop p _ _ e⟩
    | ok named =>
      obtain ⟨results, hrest⟩ := ih hafter
      exact ⟨named :: results, .step (applyDocument_ok hdocument) hrest⟩

theorem postChunks_sweep {config : OverlayConfig} {p' : Progress} {error? : Option InstallError} :
    ∀ {chunks : List Bytes} {index : Nat} {p : Progress} {log : Log},
      (postChunks config p index chunks).Yields log (p', error?) →
        ∃ results, Sweep p ((List.range' index chunks.length).map .ofChunk) log.changes p' error?
          results := by
  intro chunks
  induction chunks with
  | nil =>
    intro index p log h
    obtain ⟨rfl, he⟩ := yields_done_iff.mp h
    cases he
    exact ⟨[], .nil _⟩
  | cons chunk rest ih =>
    intro index p log h
    unfold postChunks at h
    obtain ⟨inner, hchanges, -, hinner⟩ := yields_enter_bind h
    obtain ⟨answer, posted, rfl, hposted⟩ := yields_call_bind_iff.mp hinner
    rw [hchanges]
    cases answer with
    | ok _ =>
      obtain ⟨_, noted, rfl, hnoted⟩ := yields_call_bind_iff.mp hposted
      obtain ⟨results, hrest⟩ := ih hnoted
      exact ⟨(chunkName index, .created) :: results, .step rfl hrest⟩
    | error e =>
      change (if e.isAlreadyExists && config.tolerateExisting then _ else _ : Plan _).Yields _ _
        at hposted
      split at hposted
      · obtain ⟨_, noted, rfl, hnoted⟩ := yields_call_bind_iff.mp hposted
        obtain ⟨results, hrest⟩ := ih hnoted
        exact ⟨(chunkName index, .alreadyThere) :: results, .step rfl hrest⟩
      · obtain ⟨rfl, he⟩ := yields_done_iff.mp hposted
        cases he
        exact ⟨[], .stop p _ _ _⟩

/-! ## Courses of attempts -/

/-- The parts of the bundle that an attempt took apart, by what it was answered. -/
inductive Drained : BundleKind → Log → List Part → Prop
  | documents {log : Log} {url : String} {bundle : Bytes} {documents : List Document}
      (hfetch : ⟨.fetch url, .ok bundle⟩ ∈ log) (hsplit : splitDocuments bundle = .ok documents) :
      Drained .rawBundle log (documents.map .ofDocument)
  | chunks {log : Log} {descriptor rendered : Bytes}
      (hbuild : ⟨.build descriptor, .ok rendered⟩ ∈ log) :
      Drained .overlay log ((List.range' 1 (Overlay.chunks rendered).length).map .ofChunk)

theorem Drained.index_parts {kind : BundleKind} {log : Log} {parts : List Part}
    (h : Drained kind log parts) : parts.map (·.index) = List.range' 1 parts.length := by
  cases h with
  | documents hfetch hsplit =>
    rw [List.map_map, List.length_map]
    exact index_splitDocuments hsplit
  | chunks hbuild =>
    rw [List.map_map, List.length_map, List.length_range']
    exact List.map_id _

theorem Drained.mono {kind : BundleKind} {log log' : Log} {parts : List Part}
    (h : Drained kind log parts) (hlog : ∀ x ∈ log, x ∈ log') : Drained kind log' parts := by
  cases h with
  | documents hfetch hsplit => exact .documents (hlog _ hfetch) hsplit
  | chunks hbuild => exact .chunks (hlog _ hbuild)

/-- An attempt for an installation of some kind ends with this progress: before the first part, or
after a pass over all parts. -/
inductive Course (kind : BundleKind) (log : Log) : Progress → Option InstallError → Prop
  | early {phase : Phase} {total? : Option Nat} {e : InstallError} (phases : List Phase)
      (hphases : phases <+: preamble kind) (hchanges : log.changes = changesOf .pending phases)
      (hphase : phase = phases.getLastD .pending)
      (htotal : ∀ n, total? = some n → kind = .rawBundle ∧
        (∃ parts, Drained kind log parts ∧ parts.length = n) ∧
        ∃ cause, e = .discovery cause ∧ ⟨.cluster .discover, .error cause⟩ ∈ log) :
      Course kind log ⟨phase, total?, .empty⟩ (some e)
  | through {parts : List Part} {n : Nat} {changes : List (String × String)} {p : Progress}
      {error? : Option InstallError} {results : List (String × Applied)}
      (hdrained : Drained kind log parts) (hlength : parts.length = n)
      (hsweep : Sweep ⟨.splitting, some n, .empty⟩ parts changes p error? results)
      (hchanges : log.changes = changesOf .pending (preamble kind) ++ changes) :
      Course kind log p error?

/-- An attempt either does not get its bundle or goes on with it. -/
theorem fetchAndInstall_course (kind : BundleKind) {url : String}
    {install : Bytes → Progress → Plan (Progress × Option InstallError)} {log : Log} {p : Progress}
    {error? : Option InstallError} (hkind : [.fetching] <+: preamble kind)
    (h : (fetchAndInstall url install).Yields log (p, error?)) :
    Course kind log p error? ∨ ∃ (bundle : Bytes) (rest : Log),
      ⟨.fetch url, .ok bundle⟩ ∈ log ∧ (∀ x ∈ rest, x ∈ log) ∧
        log.changes = (Phase.text .pending, Phase.text .fetching) :: rest.changes ∧
        (install bundle ⟨.fetching, none, .empty⟩).Yields rest (p, error?) := by
  unfold fetchAndInstall fetchBundle at h
  cases hurl : Fetch.validate url with
  | error e =>
    rw [hurl] at h
    obtain ⟨rfl, he⟩ := yields_done_iff.mp h
    cases he
    exact .inl (.early [] List.nil_prefix rfl rfl (fun n hn => by cases hn))
  | ok u =>
    rw [hurl] at h
    obtain ⟨_, entered, rfl, hentered⟩ := yields_ask_iff.mp h
    obtain ⟨answer, rest, rfl, hrest⟩ := yields_ask_iff.mp hentered
    cases answer with
    | error e =>
      obtain ⟨rfl, he⟩ := yields_done_iff.mp hrest
      cases he
      exact .inl (.early [.fetching] hkind rfl rfl (fun n hn => by cases hn))
    | ok bundle =>
      exact .inr ⟨bundle, rest, List.mem_cons_of_mem _ List.mem_cons_self,
        fun x hx => List.mem_cons_of_mem _ (List.mem_cons_of_mem _ hx), rfl, hrest⟩

theorem documents_course {config : Config} {url : String} {log : Log} {p : Progress}
    {error? : Option InstallError}
    (h : (attemptSteps config ⟨url, .rawBundle⟩).Yields log (p, error?)) :
    Course .rawBundle log p error? := by
  rcases fetchAndInstall_course .rawBundle (by decide) h with
    h | ⟨bundle, rest, hfetch, hmem, hchanges, hrest⟩
  · exact h
  unfold installDocuments at hrest
  obtain ⟨split, hsplitting, hmem', hsplit⟩ := yields_enter_bind hrest
  rw [hsplitting] at hchanges
  cases hdocuments : splitDocuments bundle with
  | error e =>
    rw [hdocuments] at hsplit
    obtain ⟨rfl, he⟩ := yields_done_iff.mp hsplit
    cases he
    exact .early [.fetching, .splitting] (by decide) hchanges rfl (fun n hn => by cases hn)
  | ok documents =>
    rw [hdocuments] at hsplit
    have hdrained : Drained .rawBundle log (documents.map .ofDocument) :=
      .documents hfetch hdocuments
    obtain ⟨answer, discovered, rfl, hdiscovered⟩ := yields_call_bind_iff.mp hsplit
    cases answer with
    | error cause =>
      obtain ⟨rfl, he⟩ := yields_done_iff.mp hdiscovered
      cases he
      refine .early [.fetching, .splitting] (by decide) hchanges rfl (fun n hn => ?_)
      cases hn
      exact ⟨rfl, ⟨_, hdrained, List.length_map _⟩, cause, rfl,
        hmem _ (hmem' _ List.mem_cons_self)⟩
    | ok catalog =>
      obtain ⟨results, hsweep⟩ := applyDocuments_sweep hdiscovered
      exact .through hdrained (List.length_map _) hsweep hchanges

theorem overlay_course {config : Config} {url : String} {log : Log} {p : Progress}
    {error? : Option InstallError}
    (h : (attemptSteps config ⟨url, .overlay⟩).Yields log (p, error?)) :
    Course .overlay log p error? := by
  rcases fetchAndInstall_course .overlay (by decide) h with
    h | ⟨descriptor, rest, -, hmem, hchanges, hrest⟩
  · exact h
  unfold installOverlay at hrest
  obtain ⟨asked, hrendering, hmem', hasked⟩ := yields_enter_bind hrest
  obtain ⟨answer, built, rfl, hbuilt⟩ := yields_call_bind_iff.mp hasked
  rw [hrendering] at hchanges
  cases answer with
  | error e =>
    obtain ⟨rfl, he⟩ := yields_done_iff.mp hbuilt
    cases he
    exact .early [.fetching, .rendering] (by decide) hchanges rfl (fun n hn => by cases hn)
  | ok rendered =>
    obtain ⟨split, hsplitting, -, hsplit⟩ := yields_enter_bind hbuilt
    obtain ⟨results, hsweep⟩ := postChunks_sweep hsplit
    have hdrained : Drained .overlay log ((List.range' 1 (Overlay.chunks rendered).length).map
        .ofChunk) := .chunks (hmem _ (hmem' _ List.mem_cons_self))
    have hlength : ((List.range' 1 (Overlay.chunks rendered).length).map Part.ofChunk).length =
        (Overlay.chunks rendered).length := by
      rw [List.length_map, List.length_range']
    refine .through hdrained hlength hsweep ?_
    rw [hchanges]
    show _ :: _ :: Log.changes built = _
    rw [hsplitting]
    rfl

/-- **An attempt ends before the first part, or after a pass over all parts.** -/
theorem attemptSteps_course {config : Config} {spec : InstallationSpec} {log : Log} {p : Progress}
    {error? : Option InstallError} (h : (attemptSteps config spec).Yields log (p, error?)) :
    Course spec.kind log p error? := by
  obtain ⟨url, kind⟩ := spec
  cases kind with
  | rawBundle => exact documents_course h
  | overlay => exact overlay_course h
  | packagedChart =>
    obtain ⟨rfl, he⟩ := yields_done_iff.mp h
    cases he
    exact .early [] List.nil_prefix rfl rfl (fun n hn => by cases hn)

/-! ## Reports -/

/-- A summary records each of the parts once, in order: those that were created by their names, the
others by their names and what became of them. -/
def Recorded (parts : List Part) (s : Summary) : Prop :=
  ∃ results : List (String × Applied), results.map (some ·.1) = parts.map (·.name?) ∧
    s.created = (results.filter (·.2 = .created)).map (·.1) ∧
    s.skipped = results.filter (·.2 ≠ .created)

def Summary.size (s : Summary) : Nat := s.created.length + s.skipped.length

theorem Summary.recordAll_eq (s : Summary) (results : List (String × Applied)) :
    s.recordAll results = ⟨s.created ++ (results.filter (·.2 = .created)).map (·.1),
      s.skipped ++ results.filter (·.2 ≠ .created)⟩ := by
  induction results generalizing s with
  | nil => simp [recordAll]
  | cons x results ih =>
    obtain ⟨name, applied⟩ := x
    rw [recordAll, List.foldl_cons, ← recordAll, ih]
    cases applied <;> simp [record]

theorem Recorded.size {parts : List Part} {s : Summary} (h : Recorded parts s) :
    s.size = parts.length := by
  obtain ⟨results, hnames, hcreated, hskipped⟩ := h
  have hlength := congrArg List.length hnames
  rw [List.length_map, List.length_map] at hlength
  have hsplit := List.length_eq_length_filter_add (l := results) (·.2 = .created)
  rw [Summary.size, hcreated, hskipped, List.length_map, ← hlength, hsplit]
  simp only [ne_eq, decide_not]

/-- What the report of an attempt says of the parts of its bundle.  The phase tells three cases
apart: all parts were installed, the part with the number `i + 1` failed, or the attempt ended
before the first part. -/
def Accounted (kind : BundleKind) (log : Log) (r : Report) : Prop :=
  match r.phase with
  | .succeeded => r.error? = none ∧ ∃ parts, Drained kind log parts ∧
      r.total? = some parts.length ∧ r.summary.size = parts.length ∧ Recorded parts r.summary
  | .failed (i + 1) => r.error?.isSome ∧ ∃ parts, Drained kind log parts ∧
      r.total? = some parts.length ∧ i + 1 ≤ parts.length ∧ r.summary.size = i ∧
      Recorded (parts.take i) r.summary
  | .failed 0 => r.error?.isSome ∧ r.summary.created = [] ∧ r.summary.skipped = [] ∧
      ∀ n, r.total? = some n → kind = .rawBundle ∧
        (∃ parts, Drained kind log parts ∧ parts.length = n) ∧
        ∃ cause, r.error? = some (.discovery cause) ∧ ⟨.cluster .discover, .error cause⟩ ∈ log
  | _ => False

/-- The phases of an attempt are entered in order, without a gap, and a report of a failure has the
number of the last one. -/
def InOrder (kind : BundleKind) (log : Log) (r : Report) : Prop :=
  ∃ phases, (.pending :: phases) <+: route kind (r.total?.getD 0) ∧
    log.changes = changesOf .pending phases ∧
    (r.error?.isSome → r.phase = .failed (phases.getLastD .pending).index)

theorem index_of_prefix {kind : BundleKind} {phases : List Phase} (h : phases <+: preamble kind) :
    (phases.getLastD .pending).index = 0 := by
  have hpreamble : ∀ q ∈ preamble kind, q.index = 0 := by cases kind <;> decide
  cases phases with
  | nil => rfl
  | cons q phases =>
    rw [List.getLastD_cons]
    exact hpreamble _ (h.subset List.getLastD_mem_cons)

theorem Drained.getLastD_preamble {kind : BundleKind} {log : Log} {parts : List Part}
    (h : Drained kind log parts) : (preamble kind).getLastD .pending = .splitting := by
  cases h <;> rfl

theorem Sweep.phases {p p' : Progress} {parts : List Part} {changes : List (String × String)}
    {error? : Option InstallError} {results : List (String × Applied)}
    (h : Sweep p parts changes p' error? results)
    (hindex : parts.map (·.index) = List.range' 1 parts.length) :
    changes = changesOf p.phase ((List.range' 1 (reached error? results)).map .applying) ∧
      p'.phase =
        ((List.range' 1 (reached error? results)).map Phase.applying).getLastD p.phase := by
  have hphases : (parts.take (reached error? results)).map (fun x => Phase.applying x.index) =
      (List.range' 1 (reached error? results)).map .applying := by
    rw [← List.take_range'_of_length_ge h.length_results.1, ← hindex, List.map_take, List.map_take,
      List.map_map]
    rfl
  rw [← hphases]
  exact h.entered

theorem Sweep.index_of_error {p p' : Progress} {parts : List Part}
    {changes : List (String × String)} {e : InstallError} {results : List (String × Applied)}
    (h : Sweep p parts changes p' (some e) results)
    (hindex : parts.map (·.index) = List.range' 1 parts.length) :
    p'.phase = .applying (results.length + 1) := by
  rw [(h.phases hindex).2]
  show ((List.range' 1 (results.length + 1)).map Phase.applying).getLastD _ = _
  rw [List.range'_1_concat, List.map_append, List.map_cons, List.map_nil, List.getLastD_concat,
    Nat.add_comm]

namespace Course

variable {kind : BundleKind} {log : Log} {p : Progress} {error? : Option InstallError}

theorem append {x : Answered Call Call.Answer} (h : Course kind log p error?)
    (hx : phaseChange? x.1 = none) : Course kind (log ++ [x]) p error? := by
  have hchanges : Log.changes (log ++ [x]) = log.changes := by
    have hlast : Log.changes [x] = [] := by rw [Log.changes, List.filterMap_cons, hx]; rfl
    rw [Log.changes_append, hlast, List.append_nil]
  have hmem : ∀ y ∈ log, y ∈ log ++ [x] := fun y hy => List.mem_append_left _ hy
  cases h with
  | early phases hphases hlog hphase htotal =>
    refine .early phases hphases (hchanges.trans hlog) hphase (fun n hn => ?_)
    obtain ⟨hkind, ⟨parts, hdrained, hlength⟩, cause, he, hcause⟩ := htotal n hn
    exact ⟨hkind, ⟨parts, hdrained.mono hmem, hlength⟩, cause, he, hmem _ hcause⟩
  | through hdrained hlength hsweep hlog =>
    exact .through (hdrained.mono hmem) hlength hsweep (hchanges.trans hlog)

/-- The report at the end of a course accounts for the parts of the bundle. -/
theorem accounted (h : Course kind log p error?) : Accounted kind log (p.finish error?) := by
  cases h with
  | @early phase total? e phases hphases hlog hphase htotal =>
    have hindex : phase.index = 0 := by rw [hphase, index_of_prefix hphases]
    rw [Accounted, Progress.finish]
    dsimp only
    rw [hindex]
    refine ⟨rfl, rfl, rfl, fun n hn => ?_⟩
    obtain ⟨hkind, hparts, cause, rfl, hcause⟩ := htotal n hn
    exact ⟨hkind, hparts, cause, rfl, hcause⟩
  | @through parts n changes p error? results hdrained hlength hsweep hlog =>
    subst hlength
    obtain ⟨htotal, hsummary, hnames⟩ := hsweep.tally
    rw [Summary.recordAll_eq] at hsummary
    have hrecorded : Recorded (parts.take results.length) p.summary := by
      refine ⟨results, ?_, by rw [hsummary]; rfl, by rw [hsummary]; rfl⟩
      rw [hnames, List.map_take]
    have hle := hsweep.length_results
    cases error? with
    | none =>
      rw [hle.2 rfl, List.take_length] at hrecorded
      exact ⟨rfl, parts, hdrained, htotal, hrecorded.size, hrecorded⟩
    | some e =>
      have hphase := hsweep.index_of_error hdrained.index_parts
      have hbound : results.length + 1 ≤ parts.length := hle.1
      have hsize : p.summary.size = results.length := by
        rw [hrecorded.size, List.length_take]
        omega
      rw [Accounted, Progress.finish]
      dsimp only
      rw [hphase]
      exact ⟨rfl, parts, hdrained, htotal, hbound, hsize, hrecorded⟩

theorem inOrder (h : Course kind log p error?) : InOrder kind log (p.finish error?) := by
  cases h with
  | @early phase total? e phases hphases hlog hphase htotal =>
    refine ⟨phases, ?_, hlog, fun _ => by rw [← hphase]; rfl⟩
    rw [route]
    exact (List.cons_prefix_cons.mpr ⟨rfl, hphases⟩).trans (List.prefix_append _ _)
  | @through parts n changes p error? results hdrained hlength hsweep hlog =>
    subst hlength
    obtain ⟨htotal, -, -⟩ := hsweep.tally
    obtain ⟨hchanges, hphase⟩ := hsweep.phases hdrained.index_parts
    refine ⟨preamble kind ++ (List.range' 1 (Sweep.reached error? results)).map .applying,
      ?_, ?_, fun he => ?_⟩
    · show _ <+: route kind (p.total?.getD 0)
      rw [htotal, route, List.cons_append, List.cons_prefix_cons]
      refine ⟨rfl, (List.prefix_append_right_inj _).mpr (List.IsPrefix.map _ ?_)⟩
      rw [← List.take_range'_of_length_ge hsweep.length_results.1]
      exact List.take_prefix _ _
    · rw [hlog, hchanges, changesOf_append, hdrained.getLastD_preamble]
    · cases error? with
      | none => cases he
      | some e =>
        show Phase.failed p.phase.index = _
        rw [hsweep.index_of_error hdrained.index_parts]
        show _ = Phase.failed ((preamble kind ++
          (List.range' 1 (results.length + 1)).map Phase.applying).getLastD Phase.pending).index
        rw [List.range'_1_concat, List.map_append, ← List.append_assoc, List.map_cons,
          List.map_nil, List.getLastD_concat, Nat.add_comm]

end Course

/-- **An attempt goes a course and reports its end.** -/
theorem attempt_course {config : Config} {i : Installation} {log : Log} {report : Report}
    (h : (attempt config i).Yields log report) :
    ∃ p error?, Course i.spec.kind log p error? ∧ report = p.finish error? := by
  unfold attempt at h
  obtain ⟨before, ⟨p, error?⟩, after, rfl, hsteps, hnoted⟩ := yields_bind_iff.mp h
  obtain ⟨_, rest, rfl, hdone⟩ := yields_call_bind_iff.mp hnoted
  obtain ⟨rfl, rfl⟩ := yields_done_iff.mp hdone
  exact ⟨p, error?, (attemptSteps_course hsteps).append (phaseChange?_note _ (by
    simp [Event.ofTexts])), rfl⟩

/-- An attempt without an error knows how many parts its bundle has. -/
theorem total_of_attempt {config : Config} {i : Installation} {log : Log} {report : Report}
    (h : (attempt config i).Yields log report) (he : report.error? = none) :
    ∃ n, report.total? = some n := by
  obtain ⟨p, error?, hcourse, rfl⟩ := attempt_course h
  have haccounted := hcourse.accounted
  cases error? with
  | some e => cases he
  | none =>
    obtain ⟨-, parts, -, htotal, -⟩ := haccounted
    exact ⟨_, htotal⟩

/-- **The report of an attempt accounts for the parts of its bundle, and its phases are entered in
order**, in whatever world it is made. -/
theorem attempt_accounted {σ : Type} (world : (c : Call) → StateM σ c.Answer) (s : σ)
    (config : Config) (i : Installation) :
    Accounted i.spec.kind ((attempt config i).transcript world s)
        ((attempt config i).run world s).1 ∧
      InOrder i.spec.kind ((attempt config i).transcript world s)
        ((attempt config i).run world s).1 := by
  obtain ⟨p, error?, hcourse, hreport⟩ := attempt_course (yields_transcript world _ s)
  rw [hreport]
  exact ⟨hcourse.accounted, hcourse.inOrder⟩

end BundleInstaller.Install
