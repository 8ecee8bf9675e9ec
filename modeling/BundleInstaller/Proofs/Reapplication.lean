import BundleInstaller.Proofs.Retry

/-!
# Bundles that are applied again

What an attempt applied is there from then on, under the key that the same declaration leads to
again, as long as its kind is found with the same scope.  Such a declaration is `Settled`: it is
left alone, and nothing is stored.

* `settled_run`: what a pass got through is settled in the end.
* `run_settled`: a pass over settled documents leaves the objects as they are.
* `reapplying_changes_nothing`: so do all further attempts with a bundle that was installed once.
-/

namespace BundleInstaller.Install

open BundleInstaller.Bundle Cluster Program

/-! ## What becomes of a document that is there -/

/-- The scope in which a catalog has the kind of a document, if discovery decides where it goes. -/
def scope? (catalog : Catalog) (document : Document) : Option Scope :=
  match Declaration.parse document with
  | .error _ => none
  | .ok d =>
    match classify d.header with
    | .schema _ => none
    | .generic => (catalog.find? d.header.group d.header.kind d.header.version).map (·.scope)

/-- How a document is skipped: definitions are found unchanged, and all else exists already. -/
def skip? (document : Document) : Option (String × Applied) :=
  match Declaration.parse document with
  | .error _ => none
  | .ok d =>
    match classify d.header with
    | .schema _ => some (d.header.displayName, .untouched)
    | .generic => some (d.header.displayName, .alreadyThere)

/-- The documents of a bundle, none if it cannot be split. -/
def documentsOf (bundle : Bytes) : List Document := (splitDocuments bundle).toOption.getD []

theorem documentsOf_of_split {bundle : Bytes} {documents : List Document}
    (h : splitDocuments bundle = .ok documents) : documentsOf bundle = documents := by
  rw [documentsOf, h]
  rfl

/-! ## Settled declarations -/

/-- Whether a declaration of a new kind is stored, and nothing was told to fail that it needs. -/
structure SettledSchema (m : Memory) (resource : String) (d : Declaration) (name : String) :
    Prop where
  hasName : d.header.name? = some name
  readable : m.getFailures.lookup ("CustomResourceDefinition", name) = none
  stored : (m.objects.lookup (schemaKey resource name)).isSome

/-- Whether any other declaration is stored where the catalog has its kind. -/
structure SettledGeneric (m : Memory) (catalog : Catalog) (d : Declaration) (o : Object)
    (name : String) (place : Collection) : Prop where
  object : d.object = .ok o
  hasName : o.metadata.name? = some name
  found : catalog.find? d.header.group d.header.kind d.header.version = some place
  creatable : m.createFailures.lookup (place.kind, name) = none
  stored : (m.objects.lookup
    (Key.ofCollection place (place.targetNamespace o.metadata.ns?) name)).isSome

/-- Whether a document is stored where it would be created. -/
def Settled (m : Memory) (catalog : Catalog) (document : Document) : Prop :=
  ∃ d, Declaration.parse document = .ok d ∧
    match classify d.header with
    | .schema resource => ∃ name, SettledSchema m resource d name
    | .generic => ∃ o name place, SettledGeneric m catalog d o name place

/-- **What is settled is settled later on**, where its kind has the same scope. -/
theorem Settled.mono {m m' : Memory} {catalog catalog' : Catalog} {document : Document}
    (h : Settled m catalog document) (hm : m.Extends m')
    (hscope : scope? catalog' document = scope? catalog document) :
    Settled m' catalog' document := by
  obtain ⟨d, hparse, hsettled⟩ := h
  refine ⟨d, hparse, ?_⟩
  have hkept : ∀ key, (m.objects.lookup key).isSome → (m'.objects.lookup key).isSome := by
    intro key hkey
    obtain ⟨o, ho⟩ := Option.isSome_iff_exists.mp hkey
    exact Option.isSome_of_mem (hm.objects key o ho)
  unfold scope? at hscope
  rw [hparse] at hscope
  dsimp only at hscope
  cases hclass : classify d.header with
  | schema resource =>
    rw [hclass] at hsettled
    obtain ⟨name, hname, hreadable, hstored⟩ := hsettled
    exact ⟨name, hname, hm.getFailures _ hreadable, hkept _ hstored⟩
  | generic =>
    rw [hclass] at hsettled hscope
    obtain ⟨o, name, place, hobject, hname, hfound, hcreatable, hstored⟩ := hsettled
    dsimp only at hscope
    rw [hfound] at hscope
    obtain ⟨place', hfound', hscope'⟩ := Option.map_eq_some_iff.mp hscope
    have htriple := (Catalog.find?_triple hfound).trans (Catalog.find?_triple hfound').symm
    have hgroup : place.group = place'.group := congrArg (·.1) htriple
    have hkind : place.kind = place'.kind := congrArg (·.2.2) htriple
    have hspace : ∀ ns?, place.targetNamespace ns? = place'.targetNamespace ns? := by
      intro ns?
      unfold Collection.targetNamespace
      rw [hscope']
    refine ⟨o, name, place', hobject, hname, hfound', ?_, ?_⟩
    · rw [← hkind]
      exact hm.createFailures _ hcreatable
    · have hkey : Key.ofCollection place' (place'.targetNamespace o.metadata.ns?) name =
          Key.ofCollection place (place.targetNamespace o.metadata.ns?) name := by
        simp only [Key.ofCollection, hgroup, hkind, hspace]
      rw [hkey]
      exact hkept _ hstored

section Documents

variable {document : Document} {catalog : Catalog} {r : Rehearsal}

/-- A creation that goes well or comes too late leaves an object under its key. -/
theorem lookup_create_of_settled {m : Memory} {place : Collection} {space : Option String}
    {o : Object} {name : String} (hname : o.metadata.name? = some name)
    (hfailure : m.createFailures.lookup (place.kind, name) = none) :
    ((m.create place space o).2.objects.lookup (Key.ofCollection place space name)).isSome := by
  cases hobject : m.objects.lookup (Key.ofCollection place space name) with
  | some found =>
    exact Option.isSome_of_mem ((Memory.extends_create m place space o).objects _ _ hobject)
  | none =>
    obtain ⟨_, hcreate⟩ := Memory.create_of_absent hname hfailure hobject
    rw [hcreate]
    dsimp only
    rw [Memory.lookup_insertObject hobject, if_pos rfl]
    rfl

theorem settled_applySchema {d : Declaration} {resource name : String}
    (hparse : Declaration.parse document = .ok d) (hname : d.header.name? = some name)
    (hget : r.cluster.getFailures.lookup ("CustomResourceDefinition", name) = none)
    (h : (r.cluster.objects.lookup (schemaKey resource name)).isSome ∨ d.object.isOk ∧
      r.cluster.createFailures.lookup ("CustomResourceDefinition", name) = none) :
    SettledSchema (r.run (applySchema resource d)).2.cluster resource d name := by
  have hextends := r.extends_run (applySchema resource d)
  refine ⟨hname, hextends.getFailures _ hget, ?_⟩
  cases hobject : r.cluster.objects.lookup (schemaKey resource name) with
  | some found => exact Option.isSome_of_mem (hextends.objects _ _ hobject)
  | none =>
    rw [hobject] at h
    obtain ⟨hread, hcreate⟩ := h.resolve_left (by decide)
    obtain ⟨o, ho⟩ := exists_of_isOk hread
    obtain ⟨_, _, hrun⟩ := applySchema_absent hparse hname hget hobject ho hcreate
    rw [hrun]
    dsimp only
    rw [Memory.lookup_insertObject hobject, if_pos rfl]
    rfl

theorem settled_applyGeneric {d : Declaration} {name : String}
    (hparse : Declaration.parse document = .ok d) (hname : d.header.name? = some name)
    (hread : d.object.isOk)
    (hcovers : catalog.Covers (d.header.group, d.header.version, d.header.kind))
    (hcreate : r.cluster.createFailures.lookup (d.header.kind, name) = none) :
    ∃ o place,
      SettledGeneric (r.run (applyGeneric catalog d)).2.cluster catalog d o name place := by
  obtain ⟨o, ho⟩ := exists_of_isOk hread
  obtain ⟨place, hfind⟩ := Option.isSome_iff_exists.mp (Catalog.find?_isSome_iff.mpr hcovers)
  have hkind : place.kind = d.header.kind := congrArg (·.2.2) (Catalog.find?_triple hfind)
  have hidentity : o.metadata.name? = some name := (identity_of_object hparse ho).1.trans hname
  rw [← hkind] at hcreate
  rw [applyGeneric_of_find ho hfind]
  exact ⟨o, place, ho, hidentity, hfind,
    (Memory.extends_create _ _ _ _).createFailures _ hcreate,
    lookup_create_of_settled hidentity hcreate⟩

/-- **A document that was applied is settled.** -/
theorem settled_of_apply {x : String × Applied}
    (h : (r.run (applyDocument catalog document)).1 = .ok x) :
    Settled (r.run (applyDocument catalog document)).2.cluster catalog document := by
  obtain ⟨d, hparse, name, hname, hadmits⟩ := applyDocument_ok_iff.mp ⟨x, h⟩
  refine ⟨d, hparse, ?_⟩
  rw [applyDocument_of_parse hparse]
  unfold applyDeclaration
  cases hclass : classify d.header with
  | schema resource =>
    rw [hclass] at hadmits
    exact ⟨name, settled_applySchema hparse hname hadmits.1 hadmits.2⟩
  | generic =>
    rw [hclass] at hadmits
    obtain ⟨o, place, hsettled⟩ :=
      settled_applyGeneric hparse hname hadmits.1 hadmits.2.1 hadmits.2.2
    exact ⟨o, name, place, hsettled⟩

/-- **A settled document is skipped**, and nothing is stored. -/
theorem apply_of_settled (h : Settled r.cluster catalog document) :
    ∃ x, (r.run (applyDocument catalog document)).1 = .ok x ∧ skip? document = some x ∧
      x.2 ≠ .created ∧
      (r.run (applyDocument catalog document)).2.cluster.objects = r.cluster.objects := by
  obtain ⟨d, hparse, hsettled⟩ := h
  rw [applyDocument_of_parse hparse]
  unfold applyDeclaration skip?
  rw [hparse]
  dsimp only
  cases hclass : classify d.header with
  | schema resource =>
    rw [hclass] at hsettled
    obtain ⟨name, hname, hreadable, hstored⟩ := hsettled
    obtain ⟨_, _, hrun⟩ := applySchema_present (r := r) hname hreadable hstored
    dsimp only
    rw [hrun]
    exact ⟨_, rfl, rfl, nofun, rfl⟩
  | generic =>
    rw [hclass] at hsettled
    obtain ⟨o, name, place, hobject, hname, hfound, hcreatable, hstored⟩ := hsettled
    obtain ⟨_, hcreate⟩ := Memory.create_of_present hname hcreatable hstored
    dsimp only
    rw [applyGeneric_of_find hobject hfound, hcreate]
    exact ⟨_, rfl, rfl, nofun, rfl⟩

end Documents

/-! ## Passes -/

/-- **What a pass got through is settled in the end.** -/
theorem settled_run {catalog : Catalog} {documents : List Document} {p : Progress} {r : Rehearsal}
    (h : (r.run (applyDocuments catalog p documents)).1.2 = none) :
    ∀ x ∈ documents, Settled (r.run (applyDocuments catalog p documents)).2.cluster catalog x := by
  induction documents generalizing p r with
  | nil => exact fun x hx => absurd hx List.not_mem_nil
  | cons document rest ih =>
    rw [run_applyDocuments_cons] at h ⊢
    cases hrun : (r.run (applyDocument catalog document)).1 with
    | error e =>
      rw [hrun] at h
      cases h
    | ok named =>
      rw [hrun] at h
      intro x hx
      rcases List.mem_cons.mp hx with rfl | hx
      · exact (settled_of_apply hrun).mono (Rehearsal.extends_run _ _) rfl
      · exact ih h x hx

/-- **A pass over settled documents skips them all**, and leaves the objects as they are. -/
theorem run_settled {catalog : Catalog} {documents : List Document} {p : Progress} {r : Rehearsal}
    (h : ∀ x ∈ documents, Settled r.cluster catalog x) :
    let passed := r.run (applyDocuments catalog p documents)
    passed.1.2 = none ∧ passed.1.1.total? = p.total? ∧
      passed.1.1.summary.created = p.summary.created ∧
      passed.1.1.summary.skipped.map some = p.summary.skipped.map some ++ documents.map skip? ∧
      passed.2.cluster.objects = r.cluster.objects := by
  induction documents generalizing p r with
  | nil => exact ⟨rfl, rfl, rfl, (List.append_nil _).symm, rfl⟩
  | cons document rest ih =>
    obtain ⟨⟨name, applied⟩, hrun, hskip, hcreated, hobjects⟩ :=
      apply_of_settled (h document List.mem_cons_self)
    have hrest : ∀ x ∈ rest, Settled (r.run (applyDocument catalog document)).2.cluster catalog x :=
      fun x hx => (h x (List.mem_cons_of_mem _ hx)).mono (r.extends_run _) rfl
    obtain ⟨hnone, htotal, hnew, hskipped, hkept⟩ := ih
      (p := { p with phase := .applying document.index }.record name applied) hrest
    have hrecord : p.summary.record name applied =
        ⟨p.summary.created, p.summary.skipped ++ [(name, applied)]⟩ := by
      cases applied with
      | created => exact absurd rfl hcreated
      | _ => rfl
    dsimp only
    rw [run_applyDocuments_cons, hrun]
    refine ⟨hnone, htotal, hnew.trans ?_, hskipped.trans ?_, hkept.trans hobjects⟩
    · show (p.summary.record name applied).created = _
      rw [hrecord]
    · show (p.summary.record name applied).skipped.map some ++ _ = _
      rw [hrecord, List.map_append, List.append_assoc, List.map_cons, List.map_cons, hskip]
      rfl

/-! ## Attempts -/

/-- Whether all documents of a bundle are settled where an attempt would find them. -/
structure Installed (bundle : Bytes) (url : String) (r : Rehearsal) : Prop where
  fetched : (r.shelf.fetch url).1 = .ok bundle
  splits : splitDocuments bundle = .ok (documentsOf bundle)
  discovered : r.cluster.failsDiscovery = false
  settled : ∀ x ∈ documentsOf bundle, Settled r.cluster r.cluster.catalog x

theorem catalog_of_objects {m m' : Memory} (h : m'.objects = m.objects) :
    m'.catalog = m.catalog := by
  unfold Memory.catalog Memory.learned
  rw [h]

/-- What an attempt with a bundle that is installed comes to. -/
structure Skips (bundle : Bytes) (objects : List (Key × Object)) (x : Report × Rehearsal) :
    Prop where
  succeeds : x.1.error? = none
  total : x.1.total? = some (documentsOf bundle).length
  created : x.1.summary.created = []
  skipped : x.1.summary.skipped.map some = (documentsOf bundle).map skip?
  objects : x.2.cluster.objects = objects

section Attempts

variable {bundle : Bytes} {i : Installation} {r : Rehearsal}

/-- An attempt with a bundle that can be split, where discovery goes well, passes over its
documents. -/
theorem run_attempt_documents (config : Config) (hkind : i.spec.kind = .rawBundle)
    (hfetch : (r.shelf.fetch i.spec.url).1 = .ok bundle)
    (hsplit : splitDocuments bundle = .ok (documentsOf bundle))
    (hdiscovery : r.cluster.failsDiscovery = false) :
    ∃ shelf counts, r.run (attempt config i) =
      let x := Rehearsal.run (applyDocuments r.cluster.catalog
        ⟨.splitting, some (documentsOf bundle).length, .empty⟩ (documentsOf bundle))
        (r.recount shelf counts)
      (x.1.1.finish x.1.2, x.2) := by
  rcases run_attempt_cases config hkind hfetch with
    ⟨documents, shelf, counts, hdocuments, -, hrun⟩ | ⟨hearly | hearly, -⟩
  · cases hsplit.symm.trans hdocuments
    exact ⟨shelf, counts, hrun⟩
  · exact absurd hsplit (hearly _)
  · rw [hdiscovery] at hearly
    cases hearly

/-- **An attempt with a bundle that is installed skips it**, and it stays installed. -/
theorem Installed.attempt (h : Installed bundle i.spec.url r) (config : Config)
    (hkind : i.spec.kind = .rawBundle) :
    Skips bundle r.cluster.objects (r.run (attempt config i)) ∧
      Installed bundle i.spec.url (r.run (Install.attempt config i)).2 := by
  have hextends := r.extends_run (Install.attempt config i)
  have hbundles := r.bundles_run (Install.attempt config i)
  have hskips : Skips bundle r.cluster.objects (r.run (Install.attempt config i)) := by
    obtain ⟨shelf, counts, hrun⟩ :=
      run_attempt_documents config hkind h.fetched h.splits h.discovered
    have hsettled : ∀ x ∈ documentsOf bundle,
        Settled (r.recount shelf counts).cluster r.cluster.catalog x :=
      fun x hx => (h.settled x hx).mono (r.extends_recount shelf counts) rfl
    obtain ⟨hnone, htotal, hcreated, hskipped, hobjects⟩ := run_settled hsettled
      (p := ⟨.splitting, some (documentsOf bundle).length, .empty⟩)
    rw [hrun]
    exact ⟨hnone, htotal, hcreated, hskipped, hobjects⟩
  refine ⟨hskips, (Rehearsal.fetch_of_bundles hbundles _).trans h.fetched, h.splits,
    hextends.failsDiscovery.trans h.discovered, fun x hx => ?_⟩
  rw [catalog_of_objects hskips.objects]
  exact (h.settled x hx).mono hextends rfl

theorem Installed.again (h : Installed bundle i.spec.url r) (config : Config)
    (hkind : i.spec.kind = .rawBundle) (n : Nat) :
    Skips bundle r.cluster.objects
      ((r.after (List.replicate n (.attempt config i))).run (Install.attempt config i)) := by
  induction n generalizing r with
  | zero => exact (h.attempt config hkind).1
  | succ n ih =>
    obtain ⟨hskips, hinstalled⟩ := h.attempt config hkind
    rw [← hskips.objects]
    exact ih hinstalled

/-- An attempt that succeeds has installed its bundle, as long as the kinds that discovery has to
find keep their scopes. -/
theorem installed_of_success {config : Config} {history : List Happening} {url : String}
    (hkind : i.spec.kind = .rawBundle) (hfetch : (r.shelf.fetch i.spec.url).1 = .ok bundle)
    (hsuccess : (r.run (attempt config i)).1.error? = none) (hquiet : ∀ x ∈ history, ¬x.Injects)
    (hfetch' : (((r.run (attempt config i)).2.after history).shelf.fetch url).1 = .ok bundle)
    (hscopes : (documentsOf bundle).map
        (scope? ((r.run (attempt config i)).2.after history).cluster.catalog) =
      (documentsOf bundle).map (scope? r.cluster.catalog)) :
    (r.run (attempt config i)).1.total? = some (documentsOf bundle).length ∧
      Installed bundle url ((r.run (attempt config i)).2.after history) := by
  have hextends : (r.run (attempt config i)).2.cluster.Extends
      ((r.run (attempt config i)).2.after history).cluster := Rehearsal.extends_after hquiet
  rcases run_attempt_cases config hkind hfetch with
    ⟨documents, shelf, counts, hsplit, hdiscovery, hrun⟩ | ⟨-, hphase⟩
  · have hdocuments := documentsOf_of_split hsplit
    subst hdocuments
    have hfirst : (r.run (attempt config i)).1 = _ := congrArg Prod.fst hrun
    have hstate : (r.run (attempt config i)).2 = _ := congrArg Prod.snd hrun
    rw [hfirst] at hsuccess
    refine ⟨by rw [hfirst]; exact total_run, hfetch', hsplit, ?_, fun x hx => ?_⟩
    · exact ((r.extends_run _).trans hextends).failsDiscovery.trans hdiscovery
    · refine Settled.mono (hstate ▸ settled_run hsuccess x hx) hextends ?_
      exact List.map_inj_left.mp hscopes x hx
  · obtain ⟨p, error?, -, hreport⟩ :=
      attempt_course (yields_transcript Rehearsal.handle (attempt config i) r)
    change (r.run (attempt config i)).1 = p.finish error? at hreport
    rw [hreport] at hsuccess hphase
    cases hsuccess
    cases hphase

end Attempts

/-- **A bundle that was installed can be applied again and again**: as long as no new failure is
told of and discovery finds the kinds of its documents with the scopes that they had, each further
attempt succeeds, skips all documents and leaves the objects as they are. -/
theorem reapplying_changes_nothing (r : Rehearsal) (history : List Happening)
    (config config' : Config) (i i' : Installation) {bundle : Bytes}
    (hkind : i.spec.kind = .rawBundle) (hkind' : i'.spec.kind = .rawBundle)
    (hfetch : (r.shelf.fetch i.spec.url).1 = .ok bundle)
    (hsuccess : (r.run (attempt config i)).1.error? = none) (hquiet : ∀ x ∈ history, ¬x.Injects)
    (hfetch' : (((r.run (attempt config i)).2.after history).shelf.fetch i'.spec.url).1 =
      .ok bundle)
    (hscopes : (documentsOf bundle).map
        (scope? ((r.run (attempt config i)).2.after history).cluster.catalog) =
      (documentsOf bundle).map (scope? r.cluster.catalog)) (n : Nat) :
    let first := r.run (attempt config i)
    let later := first.2.after history
    let again := (later.after (List.replicate n (.attempt config' i'))).run (attempt config' i')
    again.1.error? = none ∧ again.1.total? = first.1.total? ∧
      first.1.total? = some (documentsOf bundle).length ∧ again.1.summary.created = [] ∧
      again.1.summary.skipped.map some = (documentsOf bundle).map skip? ∧
      again.2.cluster.objects = later.cluster.objects := by
  intro first later again
  obtain ⟨htotal, hinstalled⟩ :=
    installed_of_success hkind hfetch hsuccess hquiet hfetch' hscopes
  have hskips := hinstalled.again config' hkind' n
  exact ⟨hskips.succeeds, hskips.total.trans htotal.symm, htotal, hskips.created, hskips.skipped,
    hskips.objects⟩

/-- A bundle with a definition and an object. -/
def mixedBundle : Bytes :=
  Text.Utf8.ofString ("apiVersion: apiextensions.k8s.io/v1\nkind: CustomResourceDefinition\n" ++
    "metadata: {name: b}\n---\napiVersion: v1\nkind: ConfigMap\nmetadata: {name: a}\n")

/-- An empty cluster, and the bundle on the shelf. -/
def Rehearsal.mixed : Rehearsal :=
  .start (Fetch.Shelf.empty.put "http://[::1]/b" mixedBundle) .ok

def mixedDemo : Installation := .new "demo" "http://[::1]/b" .rawBundle

theorem Rehearsal.after_nil (r : Rehearsal) : r.after [] = r := rfl

/-- The bundle is installed by the first attempt, and skipped by all others. -/
theorem reapplying_changes_nothing_mixed :
    let first := Rehearsal.mixed.run (attempt .standard mixedDemo)
    first.1 = ⟨some 2, .succeeded, none, ⟨["CustomResourceDefinition/b", "ConfigMap/a"], []⟩⟩ ∧
      ∀ n, ((first.2.after (List.replicate n (.attempt .standard mixedDemo))).run
        (attempt .standard mixedDemo)).2.cluster.objects = first.2.cluster.objects := by
  dsimp only
  have hvalid : (Fetch.validate "http://[::1]/b").isOk := by decide +kernel
  have hfetch : (Rehearsal.mixed.shelf.fetch mixedDemo.spec.url).1 = .ok mixedBundle :=
    Rehearsal.fetch_put hvalid
  have hfetch' : (((Rehearsal.mixed.run (attempt .standard mixedDemo)).2.after []).shelf.fetch
      mixedDemo.spec.url).1 = .ok mixedBundle := by
    rw [Rehearsal.after_nil, Rehearsal.fetch_of_bundles (Rehearsal.mixed.bundles_run _), hfetch]
  -- what the first attempt reports, and which scopes it leaves
  obtain ⟨hfirst, hscopes⟩ : (Rehearsal.mixed.run (attempt .standard mixedDemo)).1 =
        ⟨some 2, .succeeded, none, ⟨["CustomResourceDefinition/b", "ConfigMap/a"], []⟩⟩ ∧
      (documentsOf mixedBundle).map (scope?
          ((Rehearsal.mixed.run (attempt .standard mixedDemo)).2.after []).cluster.catalog) =
        (documentsOf mixedBundle).map (scope? Rehearsal.mixed.cluster.catalog) := by
    decide +kernel
  have hsuccess : (Rehearsal.mixed.run (attempt .standard mixedDemo)).1.error? = none := by
    rw [hfirst]
  refine ⟨hfirst, fun n => ?_⟩
  have hagain := (reapplying_changes_nothing .mixed [] .standard .standard mixedDemo mixedDemo rfl
    rfl hfetch hsuccess (fun x hx => absurd hx List.not_mem_nil) hfetch' hscopes n).2.2.2.2.2
  rwa [Rehearsal.after_nil] at hagain

end BundleInstaller.Install
