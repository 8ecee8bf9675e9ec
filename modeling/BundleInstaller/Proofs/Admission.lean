import BundleInstaller.Proofs.Identity
import BundleInstaller.Proofs.Rehearsal

/-!
# Which documents a cluster in memory takes

`Admits m catalog document` says, of the state before a document is applied, whether applying it
will go well.  What is admitted once is admitted in every later state (`Admits.mono`), since looking
a new kind up and creating an object are never in each other's way: both go by the same name
(`identity_of_object`).

* `applyDocument_ok_iff`: a document is applied just if it is admitted.
* `applyDocuments_append`: applying documents is applying some and then the others.
-/

namespace BundleInstaller.Install

open BundleInstaller.Bundle Cluster Program

/-! ## Declarations -/

/-- Whether applying a declaration goes well in a cluster with this state, when the kinds of the
catalog were found. -/
def AdmitsDeclaration (m : Memory) (catalog : Catalog) (d : Declaration) : Prop :=
  ∃ name, d.header.name? = some name ∧
    match classify d.header with
    | .schema resource =>
      m.getFailures.lookup ("CustomResourceDefinition", name) = none ∧
        ((m.objects.lookup (Key.ofCollection (schemaCollection resource) none name)).isSome ∨
          d.object.isOk ∧ m.createFailures.lookup ("CustomResourceDefinition", name) = none)
    | .generic =>
      d.object.isOk ∧ catalog.Covers (d.header.group, d.header.version, d.header.kind) ∧
        m.createFailures.lookup (d.header.kind, name) = none

/-- Whether applying a document goes well. -/
def Admits (m : Memory) (catalog : Catalog) (document : Document) : Prop :=
  ∃ d, Declaration.parse document = .ok d ∧ AdmitsDeclaration m catalog d

/-- **What is admitted is admitted later on.** -/
theorem Admits.mono {m m' : Memory} {catalog catalog' : Catalog} {document : Document}
    (hm : m.Extends m') (hcatalog : ∀ triple, catalog.Covers triple → catalog'.Covers triple)
    (h : Admits m catalog document) : Admits m' catalog' document := by
  obtain ⟨d, hd, name, hname, h⟩ := h
  refine ⟨d, hd, name, hname, ?_⟩
  cases hclass : classify d.header with
  | schema resource =>
    rw [hclass] at h
    refine ⟨hm.getFailures _ h.1, h.2.imp ?_ ?_⟩
    · intro hstored
      obtain ⟨o, ho⟩ := Option.isSome_iff_exists.mp hstored
      rw [hm.objects _ _ ho]
      rfl
    · exact fun hfree => ⟨hfree.1, hm.createFailures _ hfree.2⟩
  | generic =>
    rw [hclass] at h
    exact ⟨h.1, hcatalog _ h.2.1, hm.createFailures _ h.2.2⟩

abbrev schemaKey (resource name : String) : Key :=
  Key.ofCollection (schemaCollection resource) none name

theorem exists_of_isOk {ε α : Type} {x : Except ε α} (h : x.isOk) : ∃ a, x = .ok a := by
  cases x with
  | ok a => exact ⟨a, rfl⟩
  | error e => cases h

/-! ## Definitions -/

section Schema

variable {document : Document} {d : Declaration} {resource name : String} {r : Rehearsal}

theorem applySchema_present (hname : d.header.name? = some name)
    (hget : r.cluster.getFailures.lookup ("CustomResourceDefinition", name) = none)
    (hpresent : (r.cluster.objects.lookup (schemaKey resource name)).isSome) :
    ∃ counts getFailures, r.run (applySchema resource d) = (.ok .untouched,
      { r with cluster := { r.cluster with counts := counts, getFailures := getFailures } }) := by
  obtain ⟨o, ho⟩ := Option.isSome_iff_exists.mp hpresent
  have hfound : (r.cluster.get (schemaCollection resource) none name).1 = .ok (some o) :=
    Memory.get_ok_iff.mpr ⟨hget, ho⟩
  obtain ⟨counts, getFailures, hstate⟩ :=
    Memory.get_state r.cluster (schemaCollection resource) none name
  refine ⟨counts, getFailures, ?_⟩
  unfold applySchema Declaration.requireName
  rw [hname]
  dsimp only
  rw [Rehearsal.run_askCluster]
  dsimp only [Memory.answer]
  rw [hfound, hstate]
  rfl

theorem applySchema_of_get_none {o : Object} (hname : d.header.name? = some name)
    (hfound : (r.cluster.get (schemaCollection resource) none name).1 = .ok none)
    (hobject : d.object = .ok o) :
    ∃ counts getFailures, r.run (applySchema resource d) =
      let created := Memory.create (schemaCollection resource) none o
        { r.cluster with counts := counts, getFailures := getFailures }
      ((created.1.mapError (.apply d.header.displayName)).map fun _ => .created,
        { r with cluster := created.2 }) := by
  obtain ⟨counts, getFailures, hstate⟩ :=
    Memory.get_state r.cluster (schemaCollection resource) none name
  refine ⟨counts, getFailures, ?_⟩
  unfold applySchema Declaration.requireName
  rw [hname]
  dsimp only
  rw [Rehearsal.run_askCluster]
  dsimp only [Memory.answer]
  rw [hfound, hstate]
  dsimp only
  rw [hobject]
  dsimp only
  rw [Rehearsal.run_askCluster]
  dsimp only [Memory.answer]
  cases (Memory.create (schemaCollection resource) none o
    { r.cluster with counts := counts, getFailures := getFailures }).1 <;> rfl

theorem applySchema_absent {o : Object} (hparse : Declaration.parse document = .ok d)
    (hname : d.header.name? = some name)
    (hget : r.cluster.getFailures.lookup ("CustomResourceDefinition", name) = none)
    (habsent : r.cluster.objects.lookup (schemaKey resource name) = none)
    (hobject : d.object = .ok o)
    (hcreate : r.cluster.createFailures.lookup ("CustomResourceDefinition", name) = none) :
    ∃ counts getFailures, r.run (applySchema resource d) = (.ok .created,
      { r with cluster := { r.cluster with
        counts := counts
        getFailures := getFailures
        objects := Memory.insertObject (schemaKey resource name)
          (Memory.stored (schemaKey resource name) o) r.cluster.objects } }) := by
  obtain ⟨counts, getFailures, hrun⟩ := applySchema_of_get_none (r := r) hname
    (Memory.get_ok_iff.mpr ⟨hget, habsent⟩) hobject
  have hidentity : o.metadata.name? = some name := by
    rw [(identity_of_object hparse hobject).1, hname]
  obtain ⟨counts', hcreated⟩ := Memory.create_of_absent
    (m := { r.cluster with counts := counts, getFailures := getFailures }) hidentity hcreate habsent
  refine ⟨counts', getFailures, ?_⟩
  rw [hrun, hcreated]
  rfl

/-- A definition that is applied has a name and is looked up, and it can be read if it is not
there. -/
theorem get_of_applySchema_ok {applied : Applied}
    (h : (r.run (applySchema resource d)).1 = .ok applied) :
    ∃ name found, d.header.name? = some name ∧
      (r.cluster.get (schemaCollection resource) none name).1 = .ok found ∧
        (found.isSome ∨ d.object.isOk) := by
  unfold applySchema Declaration.requireName at h
  cases hname : d.header.name? with
  | none =>
    rw [hname] at h
    cases h
  | some name =>
    rw [hname] at h
    dsimp only at h
    rw [Rehearsal.run_askCluster] at h
    dsimp only [Memory.answer] at h
    cases hget : (r.cluster.get (schemaCollection resource) none name).1 with
    | error e =>
      rw [hget] at h
      cases h
    | ok found =>
      refine ⟨name, found, rfl, hget, ?_⟩
      cases found with
      | some o => exact .inl rfl
      | none =>
        rw [hget] at h
        cases hobject : d.object with
        | error e =>
          simp only [hobject] at h
          cases h
        | ok o => exact .inr rfl

theorem createFailures_of_applySchema_ok {o : Object} {applied : Applied}
    (hparse : Declaration.parse document = .ok d) (hname : d.header.name? = some name)
    (hfound : (r.cluster.get (schemaCollection resource) none name).1 = .ok none)
    (hobject : d.object = .ok o) (h : (r.run (applySchema resource d)).1 = .ok applied) :
    r.cluster.createFailures.lookup ("CustomResourceDefinition", name) = none := by
  obtain ⟨counts, getFailures, hrun⟩ := applySchema_of_get_none hname hfound hobject
  have hsettled : Memory.IsSettled (Memory.create (schemaCollection resource) none o
      { r.cluster with counts := counts, getFailures := getFailures }).1 := by
    rw [hrun] at h
    dsimp only at h
    cases hcreate : (Memory.create (schemaCollection resource) none o
        { r.cluster with counts := counts, getFailures := getFailures }).1 with
    | error e =>
      rw [hcreate] at h
      cases h
    | ok created => trivial
  obtain ⟨name', hname', hfree⟩ := Memory.create_settled_iff.mp hsettled
  rw [(identity_of_object hparse hobject).1, hname] at hname'
  cases hname'
  exact hfree

theorem applySchema_ok_iff (hparse : Declaration.parse document = .ok d) :
    (∃ applied, (r.run (applySchema resource d)).1 = .ok applied) ↔
      ∃ name, d.header.name? = some name ∧
        r.cluster.getFailures.lookup ("CustomResourceDefinition", name) = none ∧
          ((r.cluster.objects.lookup (schemaKey resource name)).isSome ∨
            d.object.isOk ∧
              r.cluster.createFailures.lookup ("CustomResourceDefinition", name) = none) := by
  constructor
  · rintro ⟨applied, h⟩
    obtain ⟨name, found, hname, hget, hread⟩ := get_of_applySchema_ok h
    obtain ⟨hfree, hfound⟩ := Memory.get_ok_iff.mp hget
    refine ⟨name, hname, hfree, ?_⟩
    cases found with
    | some o => exact .inl (Option.isSome_of_mem hfound)
    | none =>
      obtain ⟨o, ho⟩ := exists_of_isOk (hread.resolve_left (by decide))
      exact .inr ⟨by rw [ho]; rfl, createFailures_of_applySchema_ok hparse hname hget ho h⟩
  · rintro ⟨name, hname, hget, hadmits⟩
    cases hobject : r.cluster.objects.lookup (schemaKey resource name) with
    | some o =>
      obtain ⟨_, _, hrun⟩ :=
        applySchema_present (d := d) hname hget (Option.isSome_of_mem hobject)
      rw [hrun]
      exact ⟨_, rfl⟩
    | none =>
      rw [hobject] at hadmits
      obtain ⟨hread, hcreate⟩ := hadmits.resolve_left (by decide)
      obtain ⟨o, ho⟩ := exists_of_isOk hread
      obtain ⟨_, _, hrun⟩ := applySchema_absent hparse hname hget hobject ho hcreate
      rw [hrun]
      exact ⟨_, rfl⟩

end Schema

/-! ## Other declarations -/

section Generic

variable {document : Document} {d : Declaration} {catalog : Catalog} {r : Rehearsal}

/-- What creating an object that may be there amounts to. -/
def settle (display : String) : Except ClusterError Object → Except InstallError Applied
  | .ok _ => .ok .created
  | .error e => if e.isAlreadyExists then .ok .alreadyThere else .error (.apply display e)

theorem settle_ok_iff {display : String} {a : Except ClusterError Object} :
    (∃ applied, settle display a = .ok applied) ↔ Memory.IsSettled a := by
  cases a with
  | ok o => exact ⟨fun _ => trivial, fun _ => ⟨_, rfl⟩⟩
  | error e =>
    unfold settle Memory.IsSettled
    by_cases he : e.isAlreadyExists = true
    · simp [he]
    · simp [he]

theorem applyGeneric_of_find {o : Object} {place : Collection} (hobject : d.object = .ok o)
    (hfind : catalog.find? d.header.group d.header.kind d.header.version = some place) :
    r.run (applyGeneric catalog d) =
      (settle d.header.displayName
          (r.cluster.create place (place.targetNamespace o.metadata.ns?) o).1,
        { r with
          cluster := (r.cluster.create place (place.targetNamespace o.metadata.ns?) o).2 }) := by
  unfold applyGeneric
  dsimp only
  rw [hobject]
  dsimp only
  rw [hfind]
  dsimp only
  rw [Rehearsal.run_note, Rehearsal.run_askCluster]
  dsimp only [Memory.answer]
  cases (r.cluster.create place (place.targetNamespace o.metadata.ns?) o).1 with
  | ok created => rfl
  | error e =>
    unfold settle
    dsimp only
    split <;> rfl

theorem applyGeneric_of_not_covers {o : Object} (hobject : d.object = .ok o)
    (hcovers : ¬catalog.Covers (d.header.group, d.header.version, d.header.kind)) :
    applyGeneric catalog d =
      done (.error (.mapping d.header.group d.header.version d.header.kind)) := by
  have hfind : catalog.find? d.header.group d.header.kind d.header.version = none := by
    rw [← Catalog.find?_isSome_iff, Option.not_isSome_iff_eq_none] at hcovers
    exact hcovers
  unfold applyGeneric
  dsimp only
  rw [hobject]
  dsimp only
  rw [hfind]
  rfl

theorem applyGeneric_ok_iff (hparse : Declaration.parse document = .ok d) :
    (∃ applied, (r.run (applyGeneric catalog d)).1 = .ok applied) ↔
      ∃ name, d.header.name? = some name ∧ d.object.isOk ∧
        catalog.Covers (d.header.group, d.header.version, d.header.kind) ∧
          r.cluster.createFailures.lookup (d.header.kind, name) = none := by
  cases hobject : d.object with
  | error e =>
    unfold applyGeneric
    dsimp only
    rw [hobject]
    constructor
    · rintro ⟨_, h⟩
      cases h
    · rintro ⟨_, _, h, _⟩
      cases h
  | ok o =>
    have hidentity := (identity_of_object hparse hobject).1
    by_cases hcovers : catalog.Covers (d.header.group, d.header.version, d.header.kind)
    · obtain ⟨place, hfind⟩ := Option.isSome_iff_exists.mp (Catalog.find?_isSome_iff.mpr hcovers)
      have hkind : place.kind = d.header.kind :=
        (Prod.mk.inj (Prod.mk.inj (Catalog.find?_triple hfind)).2).2
      rw [applyGeneric_of_find hobject hfind, settle_ok_iff, Memory.create_settled_iff, hkind,
        hidentity]
      constructor
      · rintro ⟨name, hname, hfree⟩
        exact ⟨name, hname, rfl, hcovers, hfree⟩
      · rintro ⟨name, hname, -, -, hfree⟩
        exact ⟨name, hname, hfree⟩
    · rw [applyGeneric_of_not_covers hobject hcovers]
      constructor
      · rintro ⟨_, h⟩
        cases h
      · rintro ⟨_, _, _, h, _⟩
        exact absurd h hcovers

end Generic

/-! ## Documents -/

theorem applyDocument_of_parse {document : Document} {d : Declaration} {catalog : Catalog}
    {r : Rehearsal} (hparse : Declaration.parse document = .ok d) :
    r.run (applyDocument catalog document) =
      ((r.run (applyDeclaration catalog d)).1.map (d.header.displayName, ·),
        (r.run (applyDeclaration catalog d)).2) := by
  unfold applyDocument
  rw [hparse]
  dsimp only
  rw [Rehearsal.run_note, Rehearsal.run_bind]
  cases (r.run (applyDeclaration catalog d)).1 <;> rfl

/-- **A document is applied just if it is admitted.** -/
theorem applyDocument_ok_iff {catalog : Catalog} {document : Document} {r : Rehearsal} :
    (∃ x, (r.run (applyDocument catalog document)).1 = .ok x) ↔
      Admits r.cluster catalog document := by
  cases hparse : Declaration.parse document with
  | error e =>
    unfold applyDocument Admits
    rw [hparse]
    constructor
    · rintro ⟨_, h⟩
      cases h
    · rintro ⟨_, h, -⟩
      cases h
  | ok d =>
    have hdeclaration : (∃ applied, (r.run (applyDeclaration catalog d)).1 = .ok applied) ↔
        AdmitsDeclaration r.cluster catalog d := by
      unfold applyDeclaration AdmitsDeclaration
      cases classify d.header with
      | schema resource => exact applySchema_ok_iff hparse
      | generic => exact applyGeneric_ok_iff hparse
    rw [applyDocument_of_parse hparse]
    constructor
    · rintro ⟨x, h⟩
      refine ⟨d, hparse, hdeclaration.mp ?_⟩
      cases hrun : (r.run (applyDeclaration catalog d)).1 with
      | ok applied => exact ⟨applied, rfl⟩
      | error e =>
        rw [hrun] at h
        cases h
    · rintro ⟨d', hd', hadmits⟩
      cases hparse.symm.trans hd'
      obtain ⟨applied, hrun⟩ := hdeclaration.mpr hadmits
      rw [hrun]
      exact ⟨_, rfl⟩

/-! ## Documents in a row -/

theorem applyDocuments_append (catalog : Catalog) (before after : List Document) (p : Progress) :
    applyDocuments catalog p (before ++ after) = (applyDocuments catalog p before >>= fun x =>
      match x.2 with
      | some e => done (x.1, some e)
      | none => applyDocuments catalog x.1 after) := by
  induction before generalizing p with
  | nil => rfl
  | cons document before ih =>
    rw [List.cons_append, applyDocuments, applyDocuments, Program.bind_assoc]
    congr 1
    funext p'
    rw [Program.bind_assoc]
    congr 1
    funext result
    cases result with
    | error e => rfl
    | ok named => exact ih _

theorem run_applyDocuments_cons (catalog : Catalog) (document : Document) (rest : List Document)
    (p : Progress) (r : Rehearsal) :
    r.run (applyDocuments catalog p (document :: rest)) =
      match (r.run (applyDocument catalog document)).1 with
      | .error e => (({ p with phase := .applying document.index }, some e),
          (r.run (applyDocument catalog document)).2)
      | .ok (name, applied) =>
        (r.run (applyDocument catalog document)).2.run (applyDocuments catalog
          ({ p with phase := .applying document.index }.record name applied) rest) := by
  have hentered : r.run (applyDocuments catalog p (document :: rest)) =
      r.run (applyDocument catalog document >>= fun result =>
        match result with
        | .error e => done ({ p with phase := .applying document.index }, some e)
        | .ok (name, applied) => applyDocuments catalog
            ({ p with phase := .applying document.index }.record name applied) rest) := rfl
  rw [hentered, Rehearsal.run_bind]
  cases (r.run (applyDocument catalog document)).1 with
  | error e => rfl
  | ok named => rfl

/-- What was applied is admitted in the end: all documents, or those before the one that failed. -/
theorem admits_of_run (catalog : Catalog) (documents : List Document) (p : Progress)
    (r : Rehearsal) :
    ((r.run (applyDocuments catalog p documents)).1.2 = none →
        ∀ x ∈ documents, Admits (r.run (applyDocuments catalog p documents)).2.cluster catalog x) ∧
      ((r.run (applyDocuments catalog p documents)).1.2.isSome →
        ∃ before document after, documents = before ++ document :: after ∧
          (r.run (applyDocuments catalog p documents)).1.1.phase = .applying document.index ∧
            ∀ x ∈ before,
              Admits (r.run (applyDocuments catalog p documents)).2.cluster catalog x) := by
  induction documents generalizing p r with
  | nil => exact ⟨fun _ x hx => absurd hx List.not_mem_nil, fun h => by cases h⟩
  | cons document rest ih =>
    rw [run_applyDocuments_cons]
    cases hrun : (r.run (applyDocument catalog document)).1 with
    | error e =>
      refine ⟨fun h => (by cases h), fun _ => ?_⟩
      exact ⟨[], document, rest, rfl, rfl, fun x hx => absurd hx List.not_mem_nil⟩
    | ok named =>
      have hadmits : Admits r.cluster catalog document := applyDocument_ok_iff.mp ⟨named, hrun⟩
      obtain ⟨name, applied⟩ := named
      dsimp only
      have hextends := ((r.extends_run (applyDocument catalog document)).trans
        (Rehearsal.extends_run (applyDocuments catalog
          ({ p with phase := .applying document.index }.record name applied) rest) _))
      have hlater := hadmits.mono hextends (fun _ h => h)
      obtain ⟨hall, hsome⟩ := ih
        (p := { p with phase := .applying document.index }.record name applied)
        (r := (r.run (applyDocument catalog document)).2)
      refine ⟨fun hnone x hx => ?_, fun h => ?_⟩
      · rcases List.mem_cons.mp hx with rfl | hx
        · exact hlater
        · exact hall hnone x hx
      · obtain ⟨before, failing, after, hsplit, hphase, hbefore⟩ := hsome h
        refine ⟨document :: before, failing, after, by rw [hsplit]; rfl, hphase, fun x hx => ?_⟩
        rcases List.mem_cons.mp hx with rfl | hx
        · exact hlater
        · exact hbefore x hx

theorem run_of_admits {catalog : Catalog} {documents : List Document} {p : Progress} {r : Rehearsal}
    (h : ∀ x ∈ documents, Admits r.cluster catalog x) :
    (r.run (applyDocuments catalog p documents)).1.2 = none := by
  induction documents generalizing p r with
  | nil => rfl
  | cons document rest ih =>
    obtain ⟨named, hrun⟩ := applyDocument_ok_iff.mpr (h document List.mem_cons_self)
    rw [run_applyDocuments_cons, hrun]
    exact ih fun x hx => (h x (List.mem_cons_of_mem _ hx)).mono (r.extends_run _) (fun _ ht => ht)

/-! ## Attempts -/

theorem validate_of_fetch {s : Fetch.Shelf} {url : String} {bundle : Bytes}
    (h : (s.fetch url).1 = .ok bundle) : ∃ u, Fetch.validate url = .ok u := by
  unfold Fetch.Shelf.fetch at h
  cases hvalid : Fetch.validate url with
  | error e =>
    rw [hvalid] at h
    cases h
  | ok u => exact ⟨u, rfl⟩

theorem run_fetchBundle {url : String} {r : Rehearsal} {bundle : Bytes}
    (hfetch : (r.shelf.fetch url).1 = .ok bundle) (p : Progress) :
    r.run (fetchBundle url p) = (({ p with phase := .fetching }, .ok bundle),
      { r with shelf := (r.shelf.fetch url).2 }) := by
  obtain ⟨u, hvalid⟩ := validate_of_fetch hfetch
  have hanswer : Rehearsal.handle (.fetch url) r =
      (.ok bundle, { r with shelf := (r.shelf.fetch url).2 }) := Prod.ext hfetch rfl
  unfold fetchBundle
  rw [hvalid]
  dsimp only
  rw [Rehearsal.run_enter, Rehearsal.run_ask, hanswer]
  rfl

theorem run_attempt_rawBundle (config : Config) {i : Installation} {r : Rehearsal} {bundle : Bytes}
    (hkind : i.spec.kind = .rawBundle) (hfetch : (r.shelf.fetch i.spec.url).1 = .ok bundle) :
    ∃ shelf, r.run (attempt config i) =
      let x := Rehearsal.run (installDocuments bundle ⟨.fetching, none, .empty⟩)
        { r with shelf := shelf }
      (x.1.1.finish x.1.2, x.2) := by
  refine ⟨(r.shelf.fetch i.spec.url).2, ?_⟩
  have hsteps : r.run (attemptSteps config i.spec) = Rehearsal.run
      (installDocuments bundle ⟨.fetching, none, .empty⟩)
      { r with shelf := (r.shelf.fetch i.spec.url).2 } := by
    unfold attemptSteps fetchAndInstall
    rw [hkind]
    dsimp only
    rw [Rehearsal.run_bind, run_fetchBundle hfetch]
    rfl
  unfold attempt
  rw [Rehearsal.run_bind, hsteps]
  rfl

/-- A bundle that is split where discovery goes well leads to its documents. -/
theorem run_installDocuments {bundle : Bytes} {documents : List Document} {p : Progress}
    {r : Rehearsal} (hsplit : splitDocuments bundle = .ok documents)
    (hdiscovery : r.cluster.failsDiscovery = false) :
    ∃ counts, r.run (installDocuments bundle p) = Rehearsal.run
      (applyDocuments r.cluster.catalog ⟨.splitting, some documents.length, p.summary⟩ documents)
      { r with cluster := { r.cluster with counts := counts } } := by
  have hdiscover : ∃ counts, r.cluster.answer .discover =
      (.ok r.cluster.catalog, { r.cluster with counts := counts }) := by
    show ∃ counts, r.cluster.discover = _
    unfold Memory.discover
    rw [if_neg (by rw [hdiscovery]; decide)]
    exact ⟨_, rfl⟩
  obtain ⟨counts, hdiscover⟩ := hdiscover
  refine ⟨counts, ?_⟩
  unfold installDocuments
  rw [Rehearsal.run_enter, hsplit]
  dsimp only
  rw [Rehearsal.run_askCluster, hdiscover]

theorem run_installDocuments_early {bundle : Bytes} {p : Progress} {r : Rehearsal}
    (h : (∀ documents, splitDocuments bundle ≠ .ok documents) ∨ r.cluster.failsDiscovery = true) :
    (r.run (installDocuments bundle p)).1.2.isSome ∧
      (r.run (installDocuments bundle p)).1.1.phase = .splitting := by
  unfold installDocuments
  rw [Rehearsal.run_enter]
  cases hsplit : splitDocuments bundle with
  | error e => exact ⟨rfl, rfl⟩
  | ok documents =>
    rcases h with hsplit' | hdiscovery
    · exact absurd hsplit (hsplit' documents)
    · have hdiscover : ∃ e, (r.cluster.answer .discover).1 = .error e := by
        show ∃ e, r.cluster.discover.1 = .error e
        unfold Memory.discover
        rw [if_pos hdiscovery]
        exact ⟨_, rfl⟩
      obtain ⟨e, hdiscover⟩ := hdiscover
      dsimp only
      rw [Rehearsal.run_askCluster, hdiscover]
      exact ⟨rfl, rfl⟩

end BundleInstaller.Install
