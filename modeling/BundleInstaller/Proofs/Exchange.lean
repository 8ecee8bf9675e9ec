import BundleInstaller.Proofs.Unreached

/-!
# Installations in either order

Two installations whose bundles declare no new kinds do not get into each other's way.  Where an
attempt stops depends on its bundle and on what is served, and neither it nor the other attempt
changes what is served.  Where both declare an object with the same key, the first one is stored and
the other one is skipped: the keys that are stored in the end are the same in either order, but what
is stored under them need not be.

* `offer`: what a document adds to a cluster, or why it fails.
* `run_applyDocuments_offers`: what a pass over documents adds, and where it stops.
* `run_attempt_forecast`, `run_reconcile_forecast`: what an attempt and reconciling come to, told
  without the objects that are there.
* `reconcile_exchange`: two installations in either order.
-/

namespace BundleInstaller.Install

open BundleInstaller.Bundle Cluster Program

/-! ## What is added -/

/-- The second cluster has what the first one has and, under other keys, what the entries say.  The
definitions are the same. -/
structure Adds (entries : List (Key × Object)) (m m' : Memory) : Prop where
  lookup : ∀ key, m'.objects.lookup key = (m.objects.lookup key).or (entries.lookup key)
  definitions : m'.objects.filter (·.1.isDefinition) = m.objects.filter (·.1.isDefinition)

theorem Adds.of_objects {m m' : Memory} (h : m'.objects = m.objects) : Adds [] m m' :=
  ⟨fun key => by rw [h, List.lookup_nil, Option.or_none], by rw [h]⟩

theorem Adds.trans {entries entries' : List (Key × Object)} {m₁ m₂ m₃ : Memory}
    (h₁ : Adds entries m₁ m₂) (h₂ : Adds entries' m₂ m₃) : Adds (entries ++ entries') m₁ m₃ where
  lookup key := by rw [h₂.lookup, h₁.lookup, List.lookup_append, Option.or_assoc]
  definitions := h₂.definitions.trans h₁.definitions

/-- What is served hangs on the definitions. -/
theorem Adds.catalog {entries : List (Key × Object)} {m m' : Memory} (h : Adds entries m m') :
    m'.catalog = m.catalog := by
  unfold Memory.catalog Memory.learned
  rw [h.definitions]

theorem filter_insertObject {p : Key × Object → Bool} {key : Key} {o : Object}
    (h : p (key, o) = false) (objects : List (Key × Object)) :
    (Memory.insertObject key o objects).filter p = objects.filter p := by
  induction objects with
  | nil => simp [Memory.insertObject, h]
  | cons e rest ih =>
    rw [Memory.insertObject]
    split
    · rw [List.filter_cons_of_neg (by rw [h]; decide)]
    · rw [List.filter_cons, List.filter_cons, ih]

/-- A creation that was not told to fail adds the object, if it is no definition. -/
theorem adds_create (place : Collection) (space : Option String) {m : Memory} {o : Object}
    {name : String} (hm : m.IsQuiet) (hname : o.metadata.name? = some name)
    (hkind : (Key.ofCollection place space name).isDefinition = false) :
    Memory.IsSettled (m.create place space o).1 ∧
      Adds [(Key.ofCollection place space name,
        Memory.stored (Key.ofCollection place space name) o)] m (m.create place space o).2 := by
  refine ⟨Memory.create_settled_iff.mpr ⟨name, hname, hm.creates _⟩, ?_⟩
  cases hobject : m.objects.lookup (Key.ofCollection place space name) with
  | some old =>
    obtain ⟨counts, hcreate⟩ :=
      Memory.create_of_present hname (hm.creates _) (Option.isSome_of_mem hobject)
    rw [hcreate]
    refine ⟨fun key => ?_, rfl⟩
    by_cases hkey : key = Key.ofCollection place space name
    · rw [hkey]
      show m.objects.lookup _ = (m.objects.lookup _).or _
      rw [hobject, Option.some_or]
    · rw [lookup_cons_of_ne hkey, List.lookup_nil, Option.or_none]
  | none =>
    obtain ⟨counts, hcreate⟩ := Memory.create_of_absent hname (hm.creates _) hobject
    rw [hcreate]
    refine ⟨fun key => ?_, filter_insertObject hkind _⟩
    show (Memory.insertObject _ _ m.objects).lookup key = _
    rw [Memory.lookup_insertObject hobject]
    by_cases hkey : key = Key.ofCollection place space name
    · rw [if_pos hkey, hkey, hobject, Option.none_or, List.lookup_cons_self]
    · rw [if_neg hkey, lookup_cons_of_ne hkey, List.lookup_nil, Option.or_none]

/-! ## Documents -/

/-- What a document that does not declare a new kind adds to a cluster that serves this, or why it
fails. -/
def offer (catalog : Catalog) (document : Document) : Except InstallError (Key × Object) :=
  match Declaration.parse document with
  | .error e => .error (.parse e)
  | .ok d =>
    match d.object with
    | .error e => .error (.parse e)
    | .ok o =>
      match catalog.find? d.header.group d.header.kind d.header.version with
      | none => .error (.mapping d.header.group d.header.version d.header.kind)
      | some place =>
        match o.metadata.name? with
        | none => .error (.apply d.header.displayName
            (.rejected place.kind "metadata.name: Required value"))
        | some name =>
          let key := Key.ofCollection place (place.targetNamespace o.metadata.ns?) name
          .ok (key, Memory.stored key o)

/-- What documents add, up to the first one that fails. -/
def offers (catalog : Catalog) : List Document → List (Key × Object)
  | [] => []
  | document :: rest =>
    match offer catalog document with
    | .error _ => []
    | .ok entry => entry :: offers catalog rest

/-- Why the first document that fails does. -/
def failure? (catalog : Catalog) : List Document → Option InstallError
  | [] => none
  | document :: rest =>
    match offer catalog document with
    | .error e => some e
    | .ok _ => failure? catalog rest

/-- Whether a document is no declaration in the group of the definitions of kinds. -/
def DeclaresNoKind (document : Document) : Prop :=
  ∀ d, Declaration.parse document = .ok d → d.header.group ≠ schemaGroup

theorem declaresNoKind_iff {document : Document} : DeclaresNoKind document ↔
    (Declaration.parse document).toOption.all fun d => d.header.group != schemaGroup := by
  unfold DeclaresNoKind
  cases Declaration.parse document with
  | error e => exact ⟨fun _ => rfl, fun _ d hd => by cases hd⟩
  | ok d =>
    refine ⟨fun h => bne_iff_ne.mpr (h d rfl), fun h d' hd' => ?_⟩
    cases hd'
    exact bne_iff_ne.mp h

instance (document : Document) : Decidable (DeclaresNoKind document) :=
  decidable_of_iff _ declaresNoKind_iff.symm

/-- **A document adds what it offers.** -/
theorem run_applyDocument_offer (catalog : Catalog) {document : Document} {r : Rehearsal}
    (hr : r.cluster.IsQuiet) (hkind : DeclaresNoKind document) :
    let x := r.run (applyDocument catalog document)
    match offer catalog document with
    | .error e => x.1 = .error e ∧ Adds [] r.cluster x.2.cluster
    | .ok entry => (∃ named, x.1 = .ok named) ∧ Adds [entry] r.cluster x.2.cluster := by
  cases hparse : Declaration.parse document with
  | error e =>
    unfold offer applyDocument
    rw [hparse]
    exact ⟨rfl, .of_objects rfl⟩
  | ok d =>
    have hgeneric : classify d.header = .generic := by
      unfold classify
      rw [if_neg fun h => hkind d hparse h.1]
    rw [applyDocument_of_parse hparse, applyDeclaration, hgeneric]
    dsimp only
    unfold offer
    rw [hparse]
    dsimp only
    cases hobject : d.object with
    | error e =>
      unfold applyGeneric
      dsimp only
      rw [hobject]
      exact ⟨rfl, .of_objects rfl⟩
    | ok o =>
      dsimp only
      cases hfind : catalog.find? d.header.group d.header.kind d.header.version with
      | none =>
        have hcovers : ¬catalog.Covers (d.header.group, d.header.version, d.header.kind) := by
          rw [← Catalog.find?_isSome_iff, hfind]
          decide
        rw [applyGeneric_of_not_covers hobject hcovers]
        exact ⟨rfl, .of_objects rfl⟩
      | some place =>
        dsimp only
        rw [applyGeneric_of_find hobject hfind]
        cases hname : o.metadata.name? with
        | none =>
          unfold Memory.create
          dsimp only
          rw [hname]
          exact ⟨rfl, .of_objects rfl⟩
        | some name =>
          have hgroup : place.group = d.header.group :=
            congrArg (·.1) (Catalog.find?_triple hfind)
          have hkey : ∀ space, (Key.ofCollection place space name).isDefinition = false := by
            intro space
            rw [Key.isDefinition, Key.ofCollection, hgroup]
            simp [hkind d hparse]
          obtain ⟨hsettled, hadds⟩ :=
            adds_create place (place.targetNamespace o.metadata.ns?) hr hname (hkey _)
          obtain ⟨applied, happlied⟩ := settle_ok_iff.mpr hsettled
          dsimp only
          rw [happlied]
          exact ⟨⟨_, rfl⟩, hadds⟩

/-- **A pass adds what its documents offer, and stops at the first one that fails.** -/
theorem run_applyDocuments_offers (catalog : Catalog) {documents : List Document} {p : Progress}
    {r : Rehearsal} (hr : r.cluster.IsQuiet) (hkinds : ∀ x ∈ documents, DeclaresNoKind x) :
    let x := r.run (applyDocuments catalog p documents)
    x.1.2 = failure? catalog documents ∧ Adds (offers catalog documents) r.cluster x.2.cluster := by
  induction documents generalizing p r with
  | nil => exact ⟨rfl, .of_objects rfl⟩
  | cons document rest ih =>
    have hdocument := run_applyDocument_offer catalog hr (hkinds document List.mem_cons_self)
    rw [run_applyDocuments_cons, failure?, offers]
    cases hoffer : offer catalog document with
    | error e =>
      rw [hoffer] at hdocument
      rw [hdocument.1]
      exact ⟨rfl, hdocument.2⟩
    | ok entry =>
      rw [hoffer] at hdocument
      obtain ⟨⟨named, hnamed⟩, hadds⟩ := hdocument
      rw [hnamed]
      obtain ⟨hfailure, hrest⟩ := ih
        (p := { p with phase := .applying document.index }.record named.1 named.2)
        (hr.mono (r.extends_run _)) fun x hx => hkinds x (List.mem_cons_of_mem _ hx)
      exact ⟨hfailure, hadds.trans hrest⟩

/-! ## Attempts -/

/-- What an attempt comes to, but for what it finds already there. -/
structure Forecast where
  total? : Option Nat
  error? : Option InstallError
  entries : List (Key × Object)

/-- The forecast of an attempt with a bundle of documents, from what is fetched. -/
def forecast (catalog : Catalog) : Except FetchError Bytes → Forecast
  | .error e => ⟨none, some (.ofFetch e), []⟩
  | .ok bundle =>
    match splitDocuments bundle with
    | .error e => ⟨none, some (.parse e), []⟩
    | .ok documents =>
      ⟨some documents.length, failure? catalog documents, offers catalog documents⟩

/-- The documents of what is fetched, if it is a bundle that can be split. -/
def fetchedDocuments : Except FetchError Bytes → List Document
  | .error _ => []
  | .ok bundle => (splitDocuments bundle).toOption.getD []

theorem run_attempt_of_fetch_error (config : Config) {i : Installation} {r : Rehearsal}
    {e : FetchError} (hkind : i.spec.kind = .rawBundle)
    (hfetch : (r.shelf.fetch i.spec.url).1 = .error e) :
    (r.run (attempt config i)).1 = ⟨none, .failed 0, some (.ofFetch e), .empty⟩ ∧
      (r.run (attempt config i)).2.cluster = r.cluster := by
  cases hvalid : Fetch.validate i.spec.url with
  | error e' =>
    unfold Fetch.Shelf.fetch at hfetch
    rw [hvalid] at hfetch
    cases hfetch
    unfold attempt attemptSteps fetchAndInstall fetchBundle
    rw [hkind]
    dsimp only
    rw [hvalid]
    exact ⟨rfl, rfl⟩
  | ok url =>
    have hanswer : Rehearsal.handle (.fetch i.spec.url) r =
        (.error e, { r with shelf := (r.shelf.fetch i.spec.url).2 }) := Prod.ext hfetch rfl
    rw [attempt_of_valid config hkind hvalid, Rehearsal.run_ask, Rehearsal.run_ask]
    change (Rehearsal.run (goOn (Rehearsal.handle (.fetch i.spec.url) r).1)
        (Rehearsal.handle (.fetch i.spec.url) r).2).1 = _ ∧
      (Rehearsal.run (goOn (Rehearsal.handle (.fetch i.spec.url) r).1)
        (Rehearsal.handle (.fetch i.spec.url) r).2).2.cluster = _
    rw [hanswer]
    exact ⟨rfl, rfl⟩

theorem run_attempt_of_split_error (config : Config) {i : Installation} {r : Rehearsal}
    {bundle : Bytes} {e : ReadError} (hkind : i.spec.kind = .rawBundle)
    (hfetch : (r.shelf.fetch i.spec.url).1 = .ok bundle)
    (hsplit : splitDocuments bundle = .error e) :
    (r.run (attempt config i)).1 = ⟨none, .failed 0, some (.parse e), .empty⟩ ∧
      (r.run (attempt config i)).2.cluster = r.cluster := by
  obtain ⟨shelf, hrun⟩ := run_attempt_rawBundle config hkind hfetch
  rw [hrun]
  unfold installDocuments
  rw [Rehearsal.run_enter, hsplit]
  exact ⟨rfl, rfl⟩

/-- **An attempt comes to what is forecast.** -/
theorem run_attempt_forecast (config : Config) {i : Installation} {r : Rehearsal}
    (hkind : i.spec.kind = .rawBundle) (hr : r.cluster.IsQuiet)
    (hkinds : ∀ x ∈ fetchedDocuments (r.shelf.fetch i.spec.url).1, DeclaresNoKind x) :
    let x := r.run (attempt config i)
    let f := forecast r.cluster.catalog (r.shelf.fetch i.spec.url).1
    x.1.total? = f.total? ∧ x.1.error? = f.error? ∧ Adds f.entries r.cluster x.2.cluster := by
  dsimp only
  cases hfetch : (r.shelf.fetch i.spec.url).1 with
  | error e =>
    obtain ⟨hreport, hcluster⟩ := run_attempt_of_fetch_error config hkind hfetch
    rw [hreport]
    exact ⟨rfl, rfl, .of_objects (by rw [hcluster])⟩
  | ok bundle =>
    rw [forecast]
    cases hsplit : splitDocuments bundle with
    | error e =>
      obtain ⟨hreport, hcluster⟩ := run_attempt_of_split_error config hkind hfetch hsplit
      rw [hreport]
      exact ⟨rfl, rfl, .of_objects (by rw [hcluster])⟩
    | ok documents =>
      rw [hfetch, fetchedDocuments, hsplit] at hkinds
      change ∀ x ∈ documents, DeclaresNoKind x at hkinds
      rcases run_attempt_cases config hkind hfetch with
        ⟨_, shelf, counts, hdocuments, -, hrun⟩ | ⟨hearly, -⟩
      · cases hsplit.symm.trans hdocuments
        have hquiet : (r.recount shelf counts).cluster.IsQuiet := hr.mono (r.extends_recount _ _)
        obtain ⟨hfailure, hadds⟩ := run_applyDocuments_offers r.cluster.catalog
          (p := ⟨.splitting, some documents.length, .empty⟩) hquiet hkinds
        rw [hrun]
        exact ⟨total_run, hfailure, hadds.lookup, hadds.definitions⟩
      · rcases hearly with hnone | hdiscovery
        · exact absurd hsplit (hnone documents)
        · rw [hr.discovery] at hdiscovery
          cases hdiscovery

/-! ## Reconciliations -/

def Forecast.outcome (f : Forecast) : Outcome :=
  match f.error? with
  | none => .succeeded (f.total?.getD 0)
  | some e => .failed f.total? e.message

def Forecast.status (f : Forecast) (i : Installation) : InstallationStatus :=
  ⟨f.error?.isNone, (f.total?.map fun n : Nat => (min n Installation.maxTotal : Int)).getD
    i.status.total, f.error?.map (·.message)⟩

/-- An installation that is stored and needs processing, whose bundle of documents declares no new
kinds. -/
structure Waits (i : Installation) (r : Rehearsal) : Prop where
  stored : r.cluster.installations.lookup i.anyName = some i
  needs : i.needsProcessing = true
  kind : i.spec.kind = .rawBundle
  plain : ∀ x ∈ fetchedDocuments (r.shelf.fetch i.spec.url).1, DeclaresNoKind x

/-- The forecast of the next attempt for an installation. -/
def Rehearsal.forecast (r : Rehearsal) (i : Installation) : Forecast :=
  Install.forecast r.cluster.catalog (r.shelf.fetch i.spec.url).1

theorem Rehearsal.statusOf?_congr {name : String} {r s : Rehearsal}
    (h : s.cluster.installations.lookup name = r.cluster.installations.lookup name) :
    s.statusOf? name = r.statusOf? name := by
  rw [statusOf?, statusOf?, h]

/-- **Reconciling comes to what is forecast**, and it changes neither what is served nor another
installation. -/
theorem run_reconcile_forecast (config : Config) (version : Option String) {i : Installation}
    {r : Rehearsal} (hr : r.cluster.IsQuiet) (hwritable : r.cluster.failsNextStatus = false)
    (h : Waits i r) :
    let x := r.run (reconcile config version i.anyName)
    x.1 = .ok (r.forecast i).outcome ∧
      x.2.statusOf? i.anyName = some ((r.forecast i).status i) ∧
      Adds (r.forecast i).entries r.cluster x.2.cluster ∧
      (∀ name, name ≠ i.anyName →
        x.2.cluster.installations.lookup name = r.cluster.installations.lookup name) ∧
      x.2.cluster.failsNextStatus = false := by
  intro x
  have hread : (r.afterRead i.anyName).cluster.IsQuiet :=
    hr.mono (Memory.extends_of_eq rfl rfl rfl rfl)
  obtain ⟨htotal, herror, hadds⟩ := run_attempt_forecast config h.kind hread h.plain
  obtain ⟨counts, new, hprocess, hnew, hstatus, -, -⟩ := Rehearsal.run_process_of_current
    config version (r := r.afterRead i.anyName) h.stored hwritable
  have hkeeps := Rehearsal.run_attempt_keeps config i (r.afterRead i.anyName)
  have hx : x = _ := Rehearsal.run_reconcile config version i.anyName r
  rw [h.stored] at hx
  dsimp only at hx
  rw [if_pos h.needs] at hx
  rw [← hx] at hnew
  rw [hprocess] at hx
  generalize (r.afterRead i.anyName).run (attempt config i) = attempted at *
  refine ⟨?_, ?_, ?_, fun name hname => ?_, ?_⟩
  · rw [hx]
    show Except.ok (Rehearsal.outcome attempted.1) = _
    unfold Rehearsal.outcome
    rw [htotal, herror]
    rfl
  · rw [Rehearsal.statusOf?, hnew, Option.bind_some, hstatus, Report.apply_status,
      Report.isSuccess, htotal, herror]
    rfl
  · rw [hx]
    exact ⟨hadds.lookup, hadds.definitions⟩
  · rw [hx]
    show (Memory.setEntry i.anyName new _).lookup name = _
    rw [Memory.lookup_setEntry, if_neg (by simpa using hname), hkeeps.1]
    rfl
  · rw [hx]
    exact hkeeps.2.trans hwritable

/-- Reconciling one installation leaves the forecast of another one as it is. -/
theorem forecast_reconcile (config : Config) (version : Option String) {i j : Installation}
    {r : Rehearsal} (hr : r.cluster.IsQuiet) (hwritable : r.cluster.failsNextStatus = false)
    (hi : Waits i r) (hj : Waits j r) (hne : j.anyName ≠ i.anyName) :
    let next := (r.run (reconcile config version i.anyName)).2
    Waits j next ∧ next.forecast j = r.forecast j := by
  obtain ⟨-, -, hadds, hothers, -⟩ := run_reconcile_forecast config version hr hwritable hi
  have hfetch := Rehearsal.fetch_of_bundles
    (r.bundles_run (reconcile config version i.anyName)) j.spec.url
  refine ⟨⟨?_, hj.needs, hj.kind, ?_⟩, ?_⟩
  · rw [hothers _ hne, hj.stored]
  · rw [hfetch]
    exact hj.plain
  · rw [Rehearsal.forecast, Rehearsal.forecast, hfetch, hadds.catalog]

/-- Whether a bundle declares an object that is stored under this key where this is served. -/
def Declares (catalog : Catalog) (fetched : Except FetchError Bytes) (key : Key) : Prop :=
  ∃ document ∈ fetchedDocuments fetched, ∃ o, offer catalog document = .ok (key, o)

theorem declares_of_lookup_offers {catalog : Catalog} {documents : List Document} {key : Key}
    (h : ((offers catalog documents).lookup key).isSome) :
    ∃ document ∈ documents, ∃ o, offer catalog document = .ok (key, o) := by
  induction documents with
  | nil => cases h
  | cons document rest ih =>
    rw [offers] at h
    cases hoffer : offer catalog document with
    | error e =>
      rw [hoffer] at h
      cases h
    | ok entry =>
      rw [hoffer] at h
      by_cases hkey : key = entry.1
      · exact ⟨document, List.mem_cons_self, entry.2, by rw [hoffer, hkey]⟩
      · obtain ⟨x, hx, hx'⟩ := ih (by rwa [lookup_cons_of_ne hkey] at h)
        exact ⟨x, List.mem_cons_of_mem _ hx, hx'⟩

theorem declares_of_lookup {catalog : Catalog} {fetched : Except FetchError Bytes} {key : Key}
    (h : ((forecast catalog fetched).entries.lookup key).isSome) :
    Declares catalog fetched key := by
  cases fetched with
  | error e => cases h
  | ok bundle =>
    rw [forecast] at h
    unfold Declares
    rw [fetchedDocuments]
    cases hsplit : splitDocuments bundle with
    | error e =>
      rw [hsplit] at h
      cases h
    | ok documents =>
      rw [hsplit] at h
      have hdeclares := declares_of_lookup_offers h
      exact hdeclares

/-- **Installations whose bundles declare no new kinds can be reconciled in either order**: each
comes to the same, and the same keys are stored in the end.  Only what is stored under a key that
both declare may depend on the order. -/
theorem reconcile_exchange (config : Config) (version version' : Option String)
    {a b : Installation} {r : Rehearsal} (hquiet : r.cluster.IsQuiet)
    (hwritable : r.cluster.failsNextStatus = false) (ha : Waits a r) (hb : Waits b r)
    (hne : a.anyName ≠ b.anyName) :
    let firstA := r.run (reconcile config version a.anyName)
    let thenB := firstA.2.run (reconcile config version' b.anyName)
    let firstB := r.run (reconcile config version' b.anyName)
    let thenA := firstB.2.run (reconcile config version a.anyName)
    (firstA.1.isOk ∧ thenA.1 = firstA.1 ∧ firstB.1.isOk ∧ thenB.1 = firstB.1) ∧
      ((thenB.2.statusOf? a.anyName).isSome ∧
        thenA.2.statusOf? a.anyName = thenB.2.statusOf? a.anyName ∧
        (thenB.2.statusOf? b.anyName).isSome ∧
        thenA.2.statusOf? b.anyName = thenB.2.statusOf? b.anyName) ∧
      (∀ key, (thenB.2.cluster.objects.lookup key).isSome =
        (thenA.2.cluster.objects.lookup key).isSome) ∧
      ∀ key, ¬(Declares r.cluster.catalog (r.shelf.fetch a.spec.url).1 key ∧
          Declares r.cluster.catalog (r.shelf.fetch b.spec.url).1 key) →
        thenB.2.cluster.objects.lookup key = thenA.2.cluster.objects.lookup key := by
  intro firstA thenB firstB thenA
  obtain ⟨hfirstA, hstatusA, haddsA, hothersA, hwritableA⟩ :=
    run_reconcile_forecast config version hquiet hwritable ha
  obtain ⟨hfirstB, hstatusB, haddsB, hothersB, hwritableB⟩ :=
    run_reconcile_forecast config version' hquiet hwritable hb
  -- The one that comes second still waits, and what is forecast of it is what was forecast of it
  -- at first: a forecast hangs on what is served and on the bundle, not on the objects.
  obtain ⟨hwaitsB, hforecastB⟩ :=
    forecast_reconcile config version hquiet hwritable ha hb (Ne.symm hne)
  obtain ⟨hwaitsA, hforecastA⟩ := forecast_reconcile config version' hquiet hwritable hb ha hne
  obtain ⟨hthenB, hstatusB', haddsB', hothersB', -⟩ := run_reconcile_forecast config version'
    (hquiet.mono (r.extends_run _)) hwritableA hwaitsB
  obtain ⟨hthenA, hstatusA', haddsA', hothersA', -⟩ := run_reconcile_forecast config version
    (hquiet.mono (r.extends_run _)) hwritableB hwaitsA
  rw [hforecastB] at hthenB hstatusB' haddsB'
  rw [hforecastA] at hthenA hstatusA' haddsA'
  -- Either order adds what both forecasts say; only which of them a lookup finds first differs.
  have hlookupB := (haddsA.trans haddsB').lookup
  have hlookupA := (haddsB.trans haddsA').lookup
  have hkeptA := (Rehearsal.statusOf?_congr (hothersB' _ hne)).trans hstatusA
  have hkeptB := (Rehearsal.statusOf?_congr (hothersA' _ (Ne.symm hne))).trans hstatusB
  refine ⟨⟨?_, hthenA.trans hfirstA.symm, ?_, hthenB.trans hfirstB.symm⟩,
    ⟨Option.isSome_of_mem hkeptA, hstatusA'.trans hkeptA.symm, Option.isSome_of_mem hstatusB',
      hkeptB.trans hstatusB'.symm⟩, fun key => ?_, fun key hkey => ?_⟩
  · rw [hfirstA]
    rfl
  · rw [hfirstB]
    rfl
  · rw [hlookupB, hlookupA]
    simp only [List.lookup_append, Option.isSome_or]
    rw [Bool.or_comm (Option.isSome _) (Option.isSome (List.lookup key (r.forecast b).entries))]
  · rw [hlookupB, hlookupA, List.lookup_append, List.lookup_append]
    congr 1
    cases hA : (r.forecast a).entries.lookup key with
    | none => rw [Option.none_or, Option.or_none]
    | some o =>
      cases hB : (r.forecast b).entries.lookup key with
      | none => rfl
      | some o' =>
        exact absurd ⟨declares_of_lookup (Option.isSome_of_mem hA),
          declares_of_lookup (Option.isSome_of_mem hB)⟩ hkey

/-- Installations with these names and bundles. -/
def named (name url : String) : Installation :=
  ⟨{ Metadata.empty with name? := some name, resourceVersion? := some "1" }, ⟨url, .rawBundle⟩,
    none⟩

/-- An object that both bundles have, and one of its own. -/
def overlapA : List String :=
  ["apiVersion: v1", "kind: ConfigMap", "metadata: {name: shared}", "data: {from: a}", "---",
    "apiVersion: v1", "kind: Secret", "metadata: {name: s}"]

/-- The same object with another text in it, and one of a kind that nobody serves. -/
def overlapB : List String :=
  ["apiVersion: v1", "kind: ConfigMap", "metadata: {name: shared}", "data: {from: b}", "---",
    "apiVersion: v1", "kind: Widget", "metadata: {name: w}"]

def Rehearsal.overlapping : Rehearsal :=
  (Rehearsal.start ((Fetch.Shelf.empty.put "http://[::1]/b" (bundleOf overlapB)).put
    "http://[::1]/a" (bundleOf overlapA)) .ok).after
      [.register (named "a" "http://[::1]/a"), .register (named "b" "http://[::1]/b")]

/-- Who came first decides what the shared object says, and nothing else. -/
theorem reconcile_exchange_overlapping :
    let firstA := Rehearsal.overlapping.run (reconcile .standard none "a")
    let thenB := firstA.2.run (reconcile .standard none "b")
    let firstB := Rehearsal.overlapping.run (reconcile .standard none "b")
    let thenA := firstB.2.run (reconcile .standard none "a")
    let said (r : Rehearsal) : Option String :=
      (r.cluster.object? "ConfigMap" (some "default") "shared").bind fun o =>
        textAt (o.get? "data") "from"
    thenA.1 = firstA.1 ∧ thenB.1 = firstB.1 ∧
      (∀ key, (thenB.2.cluster.objects.lookup key).isSome =
        (thenA.2.cluster.objects.lookup key).isSome) ∧
      said thenB.2 = some "a" ∧ said thenA.2 = some "b" := by
  have hquiet : Rehearsal.overlapping.cluster.IsQuiet := ⟨fun _ => rfl, fun _ => rfl, rfl⟩
  have hfetchA : (Rehearsal.overlapping.shelf.fetch "http://[::1]/a").1 =
      .ok (bundleOf overlapA) := Rehearsal.fetch_put (by decide +kernel)
  have hfetchB : (Rehearsal.overlapping.shelf.fetch "http://[::1]/b").1 =
      .ok (bundleOf overlapB) := by
    unfold Fetch.Shelf.fetch
    decide +kernel
  have hplainA : ∀ x ∈ fetchedDocuments (.ok (bundleOf overlapA)), DeclaresNoKind x := by
    decide +kernel
  have hplainB : ∀ x ∈ fetchedDocuments (.ok (bundleOf overlapB)), DeclaresNoKind x := by
    decide +kernel
  obtain ⟨⟨-, hA, -, hB⟩, -, hkeys, -⟩ := reconcile_exchange .standard none none
    (a := named "a" "http://[::1]/a") (b := named "b" "http://[::1]/b") hquiet rfl
    ⟨rfl, rfl, rfl, by rw [← hfetchA] at hplainA; exact hplainA⟩
    ⟨rfl, rfl, rfl, by rw [← hfetchB] at hplainB; exact hplainB⟩ (by decide)
  refine ⟨hA, hB, hkeys, ?_, ?_⟩
  · decide +kernel
  · decide +kernel

end BundleInstaller.Install
