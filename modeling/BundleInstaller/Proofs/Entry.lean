import BundleInstaller.Proofs.Admission

/-!
# Documents that can be read

An `Entry` is a document whose header and object can be read and that has a name.  In a cluster that
is told of no failure (`Memory.IsQuiet`) such a document is stopped by one thing only, a kind that
is not served, and it changes what is stored under one key at most.

* `run_stuck`: an object of a kind that is not served.
* `lookup_run`: what entries leave alone.
* `lookup_run_schema`: a definition that is not in anyone's way is stored.
-/

namespace BundleInstaller

open Cluster BundleInstaller.Bundle

/-- Whether a cluster is told of no failure. -/
structure Cluster.Memory.IsQuiet (m : Memory) : Prop where
  creates : ∀ k, m.createFailures.lookup k = none
  gets : ∀ k, m.getFailures.lookup k = none
  discovery : m.failsDiscovery = false

theorem Cluster.Memory.IsQuiet.mono {m m' : Memory} (h : m.IsQuiet) (hm : m.Extends m') :
    m'.IsQuiet :=
  ⟨fun k => hm.createFailures k (h.creates k), fun k => hm.getFailures k (h.gets k),
    hm.failsDiscovery.trans h.discovery⟩

namespace Install

open Program

/-- A document whose header and object can be read, with a name. -/
structure Entry where
  document : Document
  declaration : Declaration
  object : Object
  name : String
  parses : Declaration.parse document = .ok declaration
  decodes : declaration.object = .ok object
  named : object.metadata.name? = some name

namespace Entry

def header (e : Entry) : Header := e.declaration.header

/-- Whether it declares a new kind. -/
def isSchema (e : Entry) : Bool := classify e.header = .schema schemaResource

def triple (e : Entry) : String × String × String :=
  (e.header.group, e.header.version, e.header.kind)

/-- The key that the declaration of a new kind is stored under. -/
def key (e : Entry) : Key := schemaKey schemaResource e.name

/-- Whether it declares a new kind with a triple. -/
def Defines (e : Entry) (triple : String × String × String) : Prop :=
  e.isSchema ∧ ∃ c ∈ definedCollections e.object, c.triple = triple

/-- Whether a key has the group, the kind and the name of what is stored for it. -/
def Takes (e : Entry) (key : Key) : Prop :=
  if e.isSchema then key = e.key
  else key.group = e.header.group ∧ key.kind = e.header.kind ∧ key.name = e.name

theorem header_name (e : Entry) : e.declaration.header.name? = some e.name := by
  rw [← (identity_of_object e.parses e.decodes).1, e.named]

theorem classify_of_isSchema {e : Entry} (h : e.isSchema) :
    classify e.declaration.header = .schema schemaResource := of_decide_eq_true h

theorem classify_of_not_isSchema {e : Entry} (h : ¬e.isSchema) :
    classify e.declaration.header = .generic := by
  unfold isSchema at h
  rw [decide_eq_true_iff] at h
  unfold classify at h ⊢
  split
  · rename_i hschema
    exact absurd (if_pos hschema) h
  · rfl

/-- What of an entry decides how far an attempt comes. -/
structure Outline where
  isSchema : Bool
  name : String
  triple : String × String × String
  /-- The kinds that its object declares. -/
  kinds : List (String × String × String)
  deriving DecidableEq

def outline (e : Entry) : Outline :=
  ⟨e.isSchema, e.name, e.triple, (definedCollections e.object).map (·.triple)⟩

theorem defines_iff {e : Entry} {triple : String × String × String} :
    e.Defines triple ↔ e.isSchema ∧ triple ∈ e.outline.kinds := by
  unfold Defines outline
  rw [List.mem_map]

/-! ## Reading entries -/

def ofDocument (x : Document) : Option Entry :=
  match hparse : Declaration.parse x with
  | .error _ => none
  | .ok d =>
    match hobject : d.object with
    | .error _ => none
    | .ok o =>
      match hname : o.metadata.name? with
      | none => none
      | some name => some ⟨x, d, o, name, hparse, hobject, hname⟩

def ofBundle (bundle : Bytes) : Option (List Entry) :=
  match splitDocuments bundle with
  | .error _ => none
  | .ok documents => documents.mapM ofDocument

theorem document_of_ofDocument {x : Document} {e : Entry} (h : ofDocument x = some e) :
    e.document = x := by
  unfold ofDocument at h
  split at h
  · cases h
  split at h
  · cases h
  split at h
  · cases h
  · cases h
    rfl

theorem map_document_of_mapM {documents : List Document} {entries : List Entry}
    (h : documents.mapM ofDocument = some entries) : entries.map (·.document) = documents := by
  induction documents generalizing entries with
  | nil =>
    cases h
    rfl
  | cons x rest ih =>
    rw [List.mapM_cons] at h
    obtain ⟨e, he, h⟩ := Option.bind_eq_some_iff.mp h
    obtain ⟨others, hothers, h⟩ := Option.bind_eq_some_iff.mp h
    cases h
    rw [List.map_cons, document_of_ofDocument he, ih hothers]

theorem splitDocuments_of_ofBundle {bundle : Bytes} {entries : List Entry}
    (h : ofBundle bundle = some entries) :
    splitDocuments bundle = .ok (entries.map (·.document)) := by
  unfold ofBundle at h
  cases hsplit : splitDocuments bundle with
  | error e =>
    rw [hsplit] at h
    cases h
  | ok documents =>
    rw [hsplit] at h
    rw [map_document_of_mapM h]

/-! ## What is admitted -/

section Quiet

variable {e : Entry} {m : Memory} {catalog : Catalog}

theorem admits_of_isSchema (catalog : Catalog) (hm : m.IsQuiet) (h : e.isSchema) :
    Admits m catalog e.document := by
  refine ⟨e.declaration, e.parses, e.name, e.header_name, ?_⟩
  rw [classify_of_isSchema h]
  exact ⟨hm.gets _, .inr ⟨by rw [e.decodes]; rfl, hm.creates _⟩⟩

theorem admits_of_covers (hm : m.IsQuiet) (h : ¬e.isSchema) (hcovers : catalog.Covers e.triple) :
    Admits m catalog e.document := by
  refine ⟨e.declaration, e.parses, e.name, e.header_name, ?_⟩
  rw [classify_of_not_isSchema h]
  exact ⟨by rw [e.decodes]; rfl, hcovers, hm.creates _⟩

end Quiet

section Runs

variable {e : Entry} {catalog : Catalog} {r : Rehearsal}

/-- An object of a kind that is not served fails, and changes nothing. -/
theorem run_stuck (h : ¬e.isSchema) (hcovers : ¬catalog.Covers e.triple) :
    r.run (applyDocument catalog e.document) =
      (.error (.mapping e.header.group e.header.version e.header.kind), r) := by
  rw [applyDocument_of_parse e.parses, applyDeclaration, classify_of_not_isSchema h]
  dsimp only
  rw [applyGeneric_of_not_covers e.decodes hcovers]
  rfl

theorem lookup_apply {k : Key} (hr : r.cluster.IsQuiet)
    (hcovers : ¬e.isSchema → catalog.Covers e.triple) (hk : ¬e.Takes k) :
    (r.run (applyDocument catalog e.document)).2.cluster.objects.lookup k =
      r.cluster.objects.lookup k := by
  rw [applyDocument_of_parse e.parses]
  unfold applyDeclaration
  by_cases h : e.isSchema
  · rw [classify_of_isSchema h]
    dsimp only
    rw [Takes, if_pos h] at hk
    cases hobject : r.cluster.objects.lookup e.key with
    | some o =>
      obtain ⟨_, _, hrun⟩ := applySchema_present (d := e.declaration) (r := r) e.header_name
        (hr.gets _) (Option.isSome_of_mem hobject)
      rw [hrun]
    | none =>
      obtain ⟨_, _, hrun⟩ := applySchema_absent (r := r) e.parses e.header_name (hr.gets _) hobject
        e.decodes (hr.creates _)
      rw [hrun]
      show (Memory.insertObject e.key _ r.cluster.objects).lookup k = _
      rw [Memory.lookup_insertObject hobject, if_neg hk]
  · rw [classify_of_not_isSchema h]
    dsimp only
    rw [Takes, if_neg h] at hk
    obtain ⟨place, hfind⟩ := Option.isSome_iff_exists.mp
      (Catalog.find?_isSome_iff.mpr (hcovers h))
    have htriple := Catalog.find?_triple hfind
    rw [applyGeneric_of_find e.decodes hfind]
    refine Memory.lookup_create_of_ne fun name hname hkey => hk ?_
    rw [e.named] at hname
    cases hname
    subst hkey
    exact ⟨congrArg (·.1) htriple, congrArg (·.2.2) htriple, rfl⟩

theorem lookup_apply_schema (hr : r.cluster.IsQuiet) (h : e.isSchema)
    (habsent : r.cluster.objects.lookup e.key = none) :
    (r.run (applyDocument catalog e.document)).2.cluster.objects.lookup e.key =
      some (Memory.stored e.key e.object) := by
  rw [applyDocument_of_parse e.parses, applyDeclaration, classify_of_isSchema h]
  dsimp only
  obtain ⟨_, _, hrun⟩ := applySchema_absent (r := r) e.parses e.header_name (hr.gets _) habsent
    e.decodes (hr.creates _)
  rw [hrun]
  show (Memory.insertObject e.key _ r.cluster.objects).lookup e.key = _
  rw [Memory.lookup_insertObject habsent, if_pos rfl]
  rfl

end Runs

/-! ## Entries in a row -/

section Rows

variable {entries : List Entry} {catalog : Catalog} {p : Progress} {r : Rehearsal}

theorem admits_of_entries {m : Memory} (hm : m.IsQuiet)
    (hcovers : ∀ e ∈ entries, ¬e.isSchema → catalog.Covers e.triple) :
    ∀ x ∈ entries.map (·.document), Admits m catalog x := by
  intro x hx
  obtain ⟨e, he, rfl⟩ := List.mem_map.mp hx
  by_cases h : e.isSchema
  · exact admits_of_isSchema catalog hm h
  · exact admits_of_covers hm h (hcovers e he h)

/-- **Applying entries changes nothing under a key that none of them takes.** -/
theorem lookup_run {k : Key} (hr : r.cluster.IsQuiet)
    (hcovers : ∀ e ∈ entries, ¬e.isSchema → catalog.Covers e.triple)
    (hk : ∀ e ∈ entries, ¬e.Takes k) :
    (r.run (applyDocuments catalog p (entries.map (·.document)))).2.cluster.objects.lookup k =
      r.cluster.objects.lookup k := by
  induction entries generalizing p r with
  | nil => rfl
  | cons e rest ih =>
    have hadmits := admits_of_entries hr hcovers e.document List.mem_cons_self
    obtain ⟨named, hrun⟩ := applyDocument_ok_iff.mpr hadmits
    rw [List.map_cons, run_applyDocuments_cons, hrun]
    dsimp only
    rw [ih (hr.mono (r.extends_run _)) (fun x hx => hcovers x (List.mem_cons_of_mem _ hx))
      (fun x hx => hk x (List.mem_cons_of_mem _ hx))]
    exact lookup_apply hr (hcovers e List.mem_cons_self) (hk e List.mem_cons_self)

/-- **The declaration of a new kind is stored** if nothing stands under its key and no entry before
it takes that key. -/
theorem lookup_run_schema {before after : List Entry} {e : Entry} (hr : r.cluster.IsQuiet)
    (hcovers : ∀ x ∈ before ++ e :: after, ¬x.isSchema → catalog.Covers x.triple)
    (h : e.isSchema) (habsent : r.cluster.objects.lookup e.key = none)
    (hbefore : ∀ x ∈ before, ¬x.Takes e.key) :
    (r.run (applyDocuments catalog p
      ((before ++ e :: after).map (·.document)))).2.cluster.objects.lookup e.key =
        some (Memory.stored e.key e.object) := by
  have hcovers' : ∀ x ∈ before, ¬x.isSchema → catalog.Covers x.triple :=
    fun x hx => hcovers x (List.mem_append_left _ hx)
  rw [List.map_append, applyDocuments_append, Rehearsal.run_bind,
    run_of_admits (admits_of_entries hr hcovers')]
  dsimp only
  have hlookup := lookup_run (p := p) hr hcovers' hbefore
  have hquiet := hr.mono (r.extends_run (applyDocuments catalog p (before.map (·.document))))
  generalize r.run (applyDocuments catalog p (before.map (·.document))) = reached at hlookup hquiet
  rw [habsent] at hlookup
  obtain ⟨named, hrun⟩ := applyDocument_ok_iff.mpr (admits_of_isSchema catalog hquiet h)
  rw [List.map_cons, run_applyDocuments_cons, hrun]
  exact (Rehearsal.extends_run _ _).objects _ _ (lookup_apply_schema hquiet h hlookup)

end Rows
end Entry
end Install
end BundleInstaller
