import BundleInstaller.Proofs.Entry
import BundleInstaller.Proofs.Parking
import BundleInstaller.Proofs.Retry

/-!
# Bundles that ship their own kinds

A bundle may declare a new kind and objects of that kind behind it.  What is served is found out
once for each attempt, so the objects fail at first, and an attempt comes as far as the first object
whose kind was not served when it began.  By then a definition that an earlier attempt had not come
to is stored, so no more attempts fail than there are definitions.

* `Stocked`: which entries attempts came past, and what holds of the cluster then.
* `Stocked.pass`, `Stocked.run_attempt`: an attempt succeeds or comes past another definition.
* `reconcile_converges`: reconciling again and again succeeds.
-/

namespace BundleInstaller.Install

open BundleInstaller.Bundle Cluster Program

/-! ## Bundles -/

/-- A bundle whose definitions are new, and whose objects are of kinds that are served or that a
definition before them declares. -/
structure ShipsKinds (m : Memory) (entries : List Entry) : Prop where
  distinct : ((entries.filter (·.isSchema)).map (·.name)).Nodup
  fresh : ∀ e ∈ entries, e.isSchema → m.objects.lookup e.key = none
  served : ∀ before e after, entries = before ++ e :: after → ¬e.isSchema →
    m.catalog.Covers e.triple ∨ ∃ d ∈ before, d.Defines e.triple

/-- No object before a definition is itself of the kind of definitions and has its name. -/
def KeepsApart (entries : List Entry) : Prop :=
  ∀ before e after, entries = before ++ e :: after → e.isSchema → ∀ x ∈ before, ¬x.isSchema →
    x.header.group = schemaGroup → x.header.kind = "CustomResourceDefinition" → x.name ≠ e.name

/-- No entry before a definition takes its key. -/
def Apart (entries : List Entry) : Prop :=
  ∀ before e after, entries = before ++ e :: after → e.isSchema → ∀ x ∈ before, ¬x.Takes e.key

theorem apart_of_distinct {entries : List Entry}
    (hdistinct : ((entries.filter (·.isSchema)).map (·.name)).Nodup) (h : KeepsApart entries) :
    Apart entries := by
  rintro before e after rfl he x hx htakes
  unfold Entry.Takes at htakes
  split at htakes
  · rename_i hschema
    have hname : e.name = x.name := congrArg Key.name htakes
    rw [List.filter_append, List.filter_cons_of_pos he, List.map_append, List.nodup_append]
      at hdistinct
    refine hdistinct.2.2 x.name ?_ e.name ?_ hname.symm
    · exact List.mem_map_of_mem (List.mem_filter.mpr ⟨hx, hschema⟩)
    · exact List.mem_map_of_mem List.mem_cons_self
  · rename_i hschema
    exact h before e after rfl he x hx hschema htakes.1.symm htakes.2.1.symm htakes.2.2.symm

/-! ## How far attempts have come -/

/-- The entries of `past` were applied once, and those of `ahead` are still to be: the kinds of the
former are served, the definitions of the latter are not stored, and the objects among them are of
kinds that are served or that a definition among them declares. -/
structure Stocked (past ahead : List Entry) (m : Memory) : Prop where
  quiet : m.IsQuiet
  covered : ∀ e ∈ past, ¬e.isSchema → m.catalog.Covers e.triple
  absent : ∀ e ∈ ahead, e.isSchema → m.objects.lookup e.key = none
  served : ∀ before e after, ahead = before ++ e :: after → ¬e.isSchema →
    m.catalog.Covers e.triple ∨ ∃ d ∈ before, d.Defines e.triple

theorem Stocked.congr {past ahead : List Entry} {m m' : Memory} (h : Stocked past ahead m)
    (hobjects : m'.objects = m.objects) (hm : m.Extends m') : Stocked past ahead m' where
  quiet := h.quiet.mono hm
  covered e he hschema := hm.covers (h.covered e he hschema)
  absent e he hschema := by rw [hobjects, h.absent e he hschema]
  served before e after hahead hschema :=
    (h.served before e after hahead hschema).imp (hm.covers ·) id

/-- A list either has a property all through, or it has it up to some element. -/
theorem forall_or_first {α : Type} (P : α → Prop) (l : List α) :
    (∀ x ∈ l, P x) ∨ ∃ before x after, l = before ++ x :: after ∧ (∀ y ∈ before, P y) ∧ ¬P x := by
  induction l with
  | nil => exact .inl fun x hx => absurd hx List.not_mem_nil
  | cons a l ih =>
    by_cases ha : P a
    · rcases ih with hall | ⟨before, x, after, rfl, hbefore, hx⟩
      · exact .inl fun x hx => (List.mem_cons.mp hx).elim (fun h => h ▸ ha) (hall x)
      · refine .inr ⟨a :: before, x, after, rfl, fun y hy => ?_, hx⟩
        exact (List.mem_cons.mp hy).elim (fun h => h ▸ ha) (hbefore y)
    · exact .inr ⟨[], a, l, rfl, fun y hy => absurd hy List.not_mem_nil, ha⟩

theorem covers_of_defines {m : Memory} {d : Entry} {triple : String × String × String}
    (h : d.Defines triple)
    (hstored : m.objects.lookup d.key = some (Memory.stored d.key d.object)) :
    m.catalog.Covers triple := by
  obtain ⟨-, c, hc, htriple⟩ := h
  obtain ⟨l₁, l₂, heq, -⟩ := List.lookup_eq_some_iff.mp hstored
  refine Memory.covers_catalog.mpr (.inr ⟨(d.key, Memory.stored d.key d.object), ?_, rfl, c, hc,
    htriple⟩)
  rw [heq]
  exact List.mem_append_right _ List.mem_cons_self

/-- **A pass over entries of kinds that are served comes past them.** -/
theorem Stocked.pass {past before ahead : List Entry} {p : Progress} {r : Rehearsal}
    (h : Stocked past (before ++ ahead) r.cluster) (hapart : Apart (past ++ (before ++ ahead)))
    (hcovers : ∀ x ∈ past ++ before, ¬x.isSchema → r.cluster.catalog.Covers x.triple) :
    Stocked (past ++ before) ahead (r.run (applyDocuments r.cluster.catalog p
      ((past ++ before).map (·.document)))).2.cluster := by
  have hextends := r.extends_run
    (applyDocuments r.cluster.catalog p ((past ++ before).map (·.document)))
  refine ⟨h.quiet.mono hextends, fun e he hschema => hextends.covers (hcovers e he hschema),
    fun e he hschema => ?_, fun first e last hahead hschema => ?_⟩
  · -- nothing that was applied takes the key of a definition ahead
    obtain ⟨first, last, rfl⟩ := List.append_of_mem he
    have hentries : past ++ (before ++ (first ++ e :: last)) =
        (past ++ before ++ first) ++ e :: last := by simp only [List.append_assoc]
    refine (Entry.lookup_run h.quiet hcovers fun x hx => ?_).trans
      (h.absent e (List.mem_append_right _ he) hschema)
    exact hapart _ e last hentries hschema x (List.mem_append_left _ hx)
  · -- a definition that was applied is stored
    have hserved := h.served (before ++ first) e last (by rw [hahead, List.append_assoc]) hschema
    rcases hserved with hcovered | ⟨d, hd, hdefines⟩
    · exact .inl (hextends.covers hcovered)
    rcases List.mem_append.mp hd with hd | hd
    · have habsent := h.absent d (List.mem_append_left _ hd) hdefines.1
      obtain ⟨b₁, b₂, rfl⟩ := List.append_of_mem hd
      have hfirst : ∀ x ∈ past ++ b₁, ¬x.Takes d.key :=
        hapart (past ++ b₁) d (b₂ ++ ahead) (by simp only [List.append_assoc, List.cons_append])
          hdefines.1
      rw [← List.append_assoc] at hcovers ⊢
      exact .inl (covers_of_defines hdefines
        (Entry.lookup_run_schema h.quiet hcovers hdefines.1 habsent hfirst))
    · exact .inr ⟨d, hd, hdefines⟩

theorem run_stop {before after : List Entry} {e : Entry} {catalog : Catalog} {p : Progress}
    {r : Rehearsal} (hquiet : r.cluster.IsQuiet)
    (hcovers : ∀ x ∈ before, ¬x.isSchema → catalog.Covers x.triple) (he : ¬e.isSchema)
    (hstuck : ¬catalog.Covers e.triple) :
    let passed := r.run (applyDocuments catalog p (before.map (·.document)))
    r.run (applyDocuments catalog p ((before ++ e :: after).map (·.document))) =
      (({ passed.1.1 with phase := .applying e.document.index },
        some (.mapping e.header.group e.header.version e.header.kind)), passed.2) := by
  intro passed
  rw [List.map_append, applyDocuments_append, Rehearsal.run_bind,
    run_of_admits (Entry.admits_of_entries hquiet hcovers)]
  dsimp only
  rw [List.map_cons, run_applyDocuments_cons, Entry.run_stuck he hstuck]

/-! ## Attempts -/

theorem index_of_split {bundle : Bytes} {before after : List Document} {d : Document}
    (h : splitDocuments bundle = .ok (before ++ d :: after)) : d.index = before.length + 1 := by
  have hindex := congrArg (·[before.length]?) (index_splitDocuments h)
  rw [List.map_append, List.getElem?_append_right (by rw [List.length_map]), List.length_map,
    Nat.sub_self, List.map_cons, List.getElem?_cons_zero, List.getElem?_range' (by simp)]
    at hindex
  rw [Option.some.inj hindex]
  omega

/-- **An attempt succeeds, or it comes past a definition** and fails at an object whose kind was
not served when it began. -/
theorem Stocked.run_attempt (config : Config) {i : Installation} {r : Rehearsal} {bundle : Bytes}
    {past ahead : List Entry} (h : Stocked past ahead r.cluster) (hapart : Apart (past ++ ahead))
    (hkind : i.spec.kind = .rawBundle) (hfetch : (r.shelf.fetch i.spec.url).1 = .ok bundle)
    (hsplit : splitDocuments bundle = .ok ((past ++ ahead).map (·.document))) :
    let x := r.run (attempt config i)
    x.1.total? = some (past ++ ahead).length ∧
      (x.1.phase = .succeeded ∧ x.1.error? = none ∨ ∃ before e after, ahead = before ++ e :: after ∧
        (∃ d ∈ before, d.isSchema) ∧ x.1.phase = .failed ((past ++ before).length + 1) ∧
        x.1.error? = some (.mapping e.header.group e.header.version e.header.kind) ∧
        Stocked (past ++ before) (e :: after) x.2.cluster) := by
  intro x
  rcases run_attempt_cases config hkind hfetch with
    ⟨documents, shelf, counts, hdocuments, -, hrun⟩ | ⟨hearly, -⟩
  · cases hsplit.symm.trans hdocuments
    have hx : x = _ := hrun
    clear_value x
    subst hx
    have hstocked : Stocked past ahead (r.recount shelf counts).cluster :=
      h.congr rfl (r.extends_recount shelf counts)
    dsimp only
    refine ⟨by rw [← List.length_map (fun e : Entry => e.document)]; exact total_run, ?_⟩
    rcases forall_or_first (fun e => ¬e.isSchema → r.cluster.catalog.Covers e.triple) ahead with
      hall | ⟨before, e, after, rfl, hbefore, he⟩
    · have hnone := run_of_admits (p := ⟨.splitting, some ((past ++ ahead).map (·.document)).length,
        .empty⟩) (Entry.admits_of_entries hstocked.quiet fun e he =>
          (List.mem_append.mp he).elim (h.covered e) (hall e))
      exact .inl ⟨by rw [hnone]; rfl, hnone⟩
    · rw [Classical.not_imp] at he
      have hcovers : ∀ x ∈ past ++ before, ¬x.isSchema → r.cluster.catalog.Covers x.triple :=
        fun x hx => (List.mem_append.mp hx).elim (h.covered x) (hbefore x)
      have hlater := fun p => hstocked.pass (p := p) hapart hcovers
      obtain ⟨d, hd, hdefines⟩ := (h.served before e after rfl he.1).resolve_left he.2
      rw [← List.append_assoc] at hsplit ⊢
      rw [run_stop hstocked.quiet hcovers he.1 he.2]
      rw [List.map_append, List.map_cons] at hsplit
      have hindex := index_of_split hsplit
      rw [List.length_map] at hindex
      refine .inr ⟨before, e, after, rfl, ⟨d, hd, hdefines.1⟩, ?_, rfl, hlater _⟩
      rw [← hindex]
      rfl
  · rcases hearly with hnone | hdiscovery
    · exact absurd hsplit (hnone _)
    · rw [h.quiet.discovery] at hdiscovery
      cases hdiscovery

/-! ## Reconciliations -/

/-- An installation that is stored and needs processing, whose bundle of documents is there. -/
structure Awaits (i : Installation) (bundle : Bytes) (r : Rehearsal) : Prop where
  stored : r.cluster.installations.lookup i.anyName = some i
  needs : i.needsProcessing = true
  kind : i.spec.kind = .rawBundle
  fetched : (r.shelf.fetch i.spec.url).1 = .ok bundle
  writable : r.cluster.failsNextStatus = false

/-- Reconciling makes an attempt with a bundle of `n` documents that ends in a phase, with an error
or without one, and all of that is answered and written down. -/
structure Attempts (config : Config) (version : Option String) (name : String) (n : Nat)
    (phase : Phase) (error? : Option InstallError) (r : Rehearsal) : Prop where
  made : ∃ i, r.cluster.installations.lookup name = some i ∧ i.needsProcessing = true ∧
    ((r.afterRead name).run (attempt config i)).1.phase = phase ∧
    ((r.afterRead name).run (attempt config i)).1.error? = error?
  answered : (r.run (reconcile config version name)).1 =
    .ok (error?.elim (.succeeded n) fun e => .failed (some n) e.message)
  recorded : ∃ i, (r.run (reconcile config version name)).2.cluster.installations.lookup name =
    some i ∧ i.status? = some ⟨error?.isNone, (min n Installation.maxTotal : Int),
      error?.map (·.message)⟩

/-- Reconciling again and again makes attempts that fail at documents with these numbers, whose
kinds are not served, and then one that succeeds. -/
inductive Converges (config : Config) (version : Option String) (name : String) (n : Nat) :
    Rehearsal → List Nat → Prop
  | succeeded {r : Rehearsal} (h : Attempts config version name n .succeeded none r) :
      Converges config version name n r []
  | failed {r : Rehearsal} {index : Nat} {indices : List Nat} {group kindVersion kind : String}
      (h : Attempts config version name n (.failed index)
        (some (.mapping group kindVersion kind)) r)
      (later : Converges config version name n (r.run (reconcile config version name)).2 indices) :
      Converges config version name n r (index :: indices)

/-- A reconciliation is an attempt that is written down, and after a failure there is another one
to come. -/
theorem Awaits.step (config : Config) (version : Option String) {i : Installation}
    {bundle : Bytes} {r : Rehearsal} {n : Nat} (h : Awaits i bundle r) :
    let x := (r.afterRead i.anyName).run (attempt config i)
    let next := (r.run (reconcile config version i.anyName)).2
    x.1.total? = some n → Attempts config version i.anyName n x.1.phase x.1.error? r ∧
      next.cluster.objects = x.2.cluster.objects ∧ x.2.cluster.Extends next.cluster ∧
      (x.1.error?.isSome → ∃ i', i'.anyName = i.anyName ∧ Awaits i' bundle next) := by
  intro x next htotal
  obtain ⟨counts, new, hrun, hnew, hstatus, hspec, hname⟩ := Rehearsal.run_process_of_current
    config version (r := r.afterRead i.anyName) h.stored h.writable
  have hreconcile := Rehearsal.run_reconcile config version i.anyName r
  rw [h.stored] at hreconcile
  dsimp only at hreconcile
  rw [if_pos h.needs] at hreconcile
  rw [← hreconcile] at hnew
  rw [hrun] at hreconcile
  have hnext : next = _ := congrArg Prod.snd hreconcile
  refine ⟨⟨⟨i, h.stored, h.needs, rfl, rfl⟩, ?_, new, hnew, ?_⟩, ?_, ?_, fun herror => ?_⟩
  · rw [hreconcile]
    show Except.ok (Rehearsal.outcome x.1) = _
    unfold Rehearsal.outcome
    rw [htotal]
    cases x.1.error? <;> rfl
  · rw [hstatus, Report.apply_status]
    show some (InstallationStatus.mk _ ((x.1.total?.map _).getD _) _) = _
    rw [htotal]
    rfl
  · rw [hnext]
  · rw [hnext]
    exact Memory.extends_of_eq rfl rfl rfl rfl
  · have hneeds : new.needsProcessing = x.1.error?.isSome :=
      needsProcessing_of_apply hstatus fun _ => ⟨n, htotal⟩
    refine ⟨new, hname, hname ▸ hnew, hneeds.trans herror, hspec ▸ h.kind, ?_, ?_⟩
    · rw [hspec, ← h.fetched]
      exact Rehearsal.fetch_of_bundles (Rehearsal.bundles_run _ _) _
    · rw [hnext]
      exact (Rehearsal.run_attempt_keeps config i _).2.trans h.writable

/-! ## Bundles in lines -/

theorem forall_split_cons {α : Type} {P : List α → α → List α → Prop} {a : α} {l : List α} :
    (∀ before x after, a :: l = before ++ x :: after → P before x after) ↔
      P [] a l ∧ ∀ before x after, l = before ++ x :: after → P (a :: before) x after := by
  constructor
  · exact fun h => ⟨h [] a l rfl, fun before x after hl => h (a :: before) x after (hl ▸ rfl)⟩
  · rintro ⟨hfirst, hrest⟩ before x after hsplit
    cases before with
    | nil =>
      cases hsplit
      exact hfirst
    | cons b before =>
      obtain ⟨rfl, hl⟩ := List.cons.inj hsplit
      exact hrest before x after hl

theorem forall_split_nil {α : Type} {P : List α → α → List α → Prop} :
    ∀ before x after, [] = before ++ x :: after → P before x after :=
  fun _ _ _ h => absurd h.symm (List.append_ne_nil_of_right_ne_nil _ (List.cons_ne_nil _ _))

/-- Lines as a bundle. -/
def bundleOf (lines : List String) : Bytes :=
  lines.flatMap fun line => Text.Utf8.ofString line ++ [10]

/-- A definition and an object of its kind. -/
def ownKind : List String :=
  ["apiVersion: apiextensions.k8s.io/v1", "kind: CustomResourceDefinition", "metadata: {name: b}",
    "spec:", "  group: g", "  names: {kind: K, plural: k}", "  versions: [{name: v}]", "---",
    "apiVersion: g/v", "kind: K", "metadata: {name: w}"]

/-- An installation that was never attempted. -/
def demo : Installation :=
  ⟨{ Metadata.empty with name? := some "demo", resourceVersion? := some "1" },
    ⟨"http://[::1]/b", .rawBundle⟩, none⟩

/-- A rehearsal in which it is stored and its bundle has these lines. -/
def Rehearsal.ofLines (lines : List String) : Rehearsal :=
  (Rehearsal.start (Fetch.Shelf.empty.put "http://[::1]/b" (bundleOf lines)) .ok).after
    [.register demo]

theorem awaits_ofLines (lines : List String) :
    Awaits demo (bundleOf lines) (.ofLines lines) :=
  ⟨rfl, rfl, rfl, Rehearsal.fetch_put (by decide +kernel), rfl⟩

theorem outline_ownKind : (Entry.ofBundle (bundleOf ownKind)).map (·.map Entry.outline) =
    some
      [⟨true, "b", ("apiextensions.k8s.io", "v1", "CustomResourceDefinition"), [("g", "v", "K")]⟩,
        ⟨false, "w", ("g", "v", "K"), []⟩] := by decide +kernel

/-- The same behind an object that has the name of the definition. -/
def shadowed : List String :=
  ["apiVersion: apiextensions.k8s.io/v2", "kind: CustomResourceDefinition", "metadata: {name: b}",
    "---"] ++ ownKind

/-- A definition of the kind of definitions, in another version. -/
def otherVersion : Object :=
  ⟨none, { Metadata.empty with name? := some "e" }, [("spec", .ofEntries
    [("group", .str schemaGroup), ("scope", .str "Cluster"),
      ("names", .ofEntries [("kind", .str "CustomResourceDefinition"), ("plural", .str "c")]),
      ("versions", .arr [.ofEntries [("name", .str "v2")]])])]⟩

/-- A rehearsal whose cluster serves both versions. -/
def Rehearsal.shadowing : Rehearsal :=
  (Rehearsal.ofLines shadowed).after
    [.call (.cluster (.create (schemaCollection schemaResource) none otherVersion))]

theorem run_shadowing :
    let first := Rehearsal.shadowing.run (reconcile .standard none demo.anyName)
    (Entry.ofBundle (bundleOf shadowed)).map (·.map Entry.outline) =
      some [⟨false, "b", ("apiextensions.k8s.io", "v2", "CustomResourceDefinition"), []⟩,
        ⟨true, "b", ("apiextensions.k8s.io", "v1", "CustomResourceDefinition"), [("g", "v", "K")]⟩,
        ⟨false, "w", ("g", "v", "K"), []⟩] ∧
      first.1.toOption.map Outcome.isFailure = some true ∧
      (first.2.run (reconcile .standard none demo.anyName)).1.toOption.map Outcome.isFailure =
        some true := by decide +kernel

/-! ## Success in the end -/

/-- **From where attempts have come to, reconciling succeeds** after no more failures than there are
definitions ahead. -/
theorem Stocked.converges (config : Config) (version : Option String) {i : Installation}
    {bundle : Bytes} {past ahead : List Entry} {r : Rehearsal} (h : Stocked past ahead r.cluster)
    (hapart : Apart (past ++ ahead))
    (hsplit : splitDocuments bundle = .ok ((past ++ ahead).map (·.document)))
    (hawaits : Awaits i bundle r) :
    ∃ indices, Converges config version i.anyName (past ++ ahead).length r indices ∧
      indices.length ≤ (ahead.filter (·.isSchema)).length ∧
      (∀ k ∈ indices, past.length + 1 < k) ∧ indices.Pairwise (· < ·) := by
  induction hm : (ahead.filter (·.isSchema)).length using Nat.strong_induction_on
    generalizing past ahead r i with
  | _ m ih =>
    have hread : Stocked past ahead (r.afterRead i.anyName).cluster :=
      h.congr rfl (Memory.extends_of_eq rfl rfl rfl rfl)
    obtain ⟨htotal, hcases⟩ := hread.run_attempt config hapart hawaits.kind hawaits.fetched hsplit
    obtain ⟨hattempts, hobjects, hextends, hagain⟩ := hawaits.step config version htotal
    rcases hcases with ⟨hphase, herror⟩ |
      ⟨before, e, after, rfl, ⟨d, hd, hschema⟩, hphase, herror, hlater⟩
    · rw [hphase, herror] at hattempts
      refine ⟨[], .succeeded hattempts, Nat.zero_le _, fun k hk => ?_, .nil⟩
      cases hk
    · rw [hphase, herror] at hattempts
      obtain ⟨i', hname, hawaits'⟩ := hagain (by rw [herror]; rfl)
      -- what was ahead and has been passed has a definition in it
      have hpassed : 0 < (before.filter (·.isSchema)).length :=
        List.length_pos_of_mem (List.mem_filter.mpr ⟨hd, hschema⟩)
      have hbefore : 0 < before.length := List.length_pos_of_mem hd
      rw [List.filter_append, List.length_append] at hm
      rw [← List.append_assoc] at hapart hsplit hattempts ⊢
      obtain ⟨indices, hconverges, hlength, habove, hincreasing⟩ :=
        ih _ (by omega) (hlater.congr hobjects hextends) hapart hsplit hawaits' rfl
      rw [hname] at hconverges
      rw [List.length_append] at habove
      refine ⟨((past ++ before).length + 1) :: indices, .failed hattempts hconverges, ?_, ?_, ?_⟩
      · rw [List.length_cons]
        omega
      · intro k hk
        rw [List.length_append] at hk
        rcases List.mem_cons.mp hk with rfl | hk
        · omega
        · have := habove k hk
          omega
      · rw [List.length_append]
        exact List.pairwise_cons.mpr ⟨habove, hincreasing⟩

/-- **A bundle that ships its own kinds is installed in the end.**  Reconciling fails no more often
than the bundle has definitions, each time at a later document, since a kind was not served yet. -/
theorem reconcile_converges (config : Config) (version : Option String) {i : Installation}
    {bundle : Bytes} {entries : List Entry} {r : Rehearsal} (hquiet : r.cluster.IsQuiet)
    (hawaits : Awaits i bundle r)
    (hsplit : splitDocuments bundle = .ok (entries.map (·.document)))
    (hships : ShipsKinds r.cluster entries) (hapart : KeepsApart entries) :
    ∃ indices, Converges config version i.anyName entries.length r indices ∧
      indices.length ≤ (entries.filter (·.isSchema)).length ∧ indices.Pairwise (· < ·) := by
  have hstocked : Stocked [] entries r.cluster :=
    ⟨hquiet, fun e he => absurd he List.not_mem_nil, hships.fresh, hships.served⟩
  obtain ⟨indices, hconverges, hlength, -, hincreasing⟩ := hstocked.converges config version
    (apart_of_distinct hships.distinct hapart) hsplit hawaits
  exact ⟨indices, hconverges, hlength, hincreasing⟩

theorem reconcile_converges_ownKind :
    ∃ indices, Converges .standard none "demo" 2 (.ofLines ownKind) indices ∧ indices.length ≤ 1 ∧
      indices.Pairwise (· < ·) := by
  obtain ⟨entries, hentries, houtline⟩ := Option.map_eq_some_iff.mp outline_ownKind
  obtain ⟨definition, _, rfl, hdefinition, houtline⟩ := List.map_eq_cons_iff.mp houtline
  obtain ⟨object, _, rfl, hobject, houtline⟩ := List.map_eq_cons_iff.mp houtline
  cases List.map_eq_nil_iff.mp houtline
  obtain ⟨hschema, -, -, hkinds⟩ := Entry.Outline.mk.inj hdefinition
  obtain ⟨hgeneric, -, htriple, -⟩ := Entry.Outline.mk.inj hobject
  have hships : ShipsKinds (Rehearsal.ofLines ownKind).cluster [definition, object] := by
    refine ⟨by simp [hschema, hgeneric], fun e _ _ => rfl, forall_split_cons.mpr ⟨?_,
      forall_split_cons.mpr ⟨?_, forall_split_nil⟩⟩⟩
    · exact fun h => absurd hschema h
    · refine fun _ => .inr ⟨definition, List.mem_cons_self, Entry.defines_iff.mpr ⟨hschema, ?_⟩⟩
      rw [htriple, hdefinition]
      exact List.mem_cons_self
  have hapart : KeepsApart [definition, object] := by
    refine forall_split_cons.mpr ⟨?_, forall_split_cons.mpr ⟨?_, forall_split_nil⟩⟩
    · exact fun _ x hx => absurd hx List.not_mem_nil
    · exact fun h => absurd (hgeneric.symm.trans h) (by decide)
  have hquiet : (Rehearsal.ofLines ownKind).cluster.IsQuiet := ⟨fun _ => rfl, fun _ => rfl, rfl⟩
  have h := reconcile_converges .standard none hquiet (awaits_ofLines ownKind)
    (Entry.splitDocuments_of_ofBundle hentries) hships hapart
  rwa [List.filter_cons_of_pos hschema, List.filter_cons_of_neg (by rw [hgeneric]; decide)] at h

/-- Objects must keep apart from later definitions: one that takes the key of a definition keeps it
from ever being stored. -/
theorem reconcile_diverges_shadowed :
    ∃ entries, Rehearsal.shadowing.cluster.IsQuiet ∧
      Awaits demo (bundleOf shadowed) .shadowing ∧
      splitDocuments (bundleOf shadowed) = .ok (entries.map (·.document)) ∧
      ShipsKinds Rehearsal.shadowing.cluster entries ∧
      ¬∃ indices, Converges .standard none demo.anyName entries.length .shadowing indices ∧
        indices.length ≤ (entries.filter (·.isSchema)).length ∧ indices.Pairwise (· < ·) := by
  obtain ⟨houtline, hfirst, hsecond⟩ := run_shadowing
  obtain ⟨entries, hentries, houtline⟩ := Option.map_eq_some_iff.mp houtline
  obtain ⟨shadow, _, rfl, hshadow, houtline⟩ := List.map_eq_cons_iff.mp houtline
  obtain ⟨definition, _, rfl, hdefinition, houtline⟩ := List.map_eq_cons_iff.mp houtline
  obtain ⟨object, _, rfl, hobject, houtline⟩ := List.map_eq_cons_iff.mp houtline
  cases List.map_eq_nil_iff.mp houtline
  obtain ⟨hgeneric, -, hserved, -⟩ := Entry.Outline.mk.inj hshadow
  obtain ⟨hschema, hname, -, hkinds⟩ := Entry.Outline.mk.inj hdefinition
  obtain ⟨hgeneric', -, htriple, -⟩ := Entry.Outline.mk.inj hobject
  have hawaits := awaits_ofLines shadowed
  refine ⟨[shadow, definition, object], ⟨fun _ => rfl, fun _ => rfl, rfl⟩,
    ⟨rfl, hawaits.needs, hawaits.kind, hawaits.fetched, rfl⟩,
    Entry.splitDocuments_of_ofBundle hentries, ⟨by simp [hgeneric, hschema, hgeneric'],
      fun e he hs => ?_, forall_split_cons.mpr ⟨?_, forall_split_cons.mpr ⟨?_,
        forall_split_cons.mpr ⟨?_, forall_split_nil⟩⟩⟩⟩, ?_⟩
  · simp only [List.mem_cons, List.not_mem_nil, or_false] at he
    rcases he with rfl | rfl | rfl
    · exact absurd (hgeneric.symm.trans hs) (by decide)
    · rw [Entry.key, hname]
      decide +kernel
    · exact absurd (hgeneric'.symm.trans hs) (by decide)
  · refine fun _ => .inl ?_
    rw [hserved]
    decide +kernel
  · exact fun h => absurd hschema h
  · refine fun _ => .inr ⟨definition, List.mem_cons_of_mem _ List.mem_cons_self,
      Entry.defines_iff.mpr ⟨hschema, ?_⟩⟩
    rw [htriple, hdefinition]
    exact List.mem_cons_self
  · rintro ⟨indices, hconverges, hlength, -⟩
    rw [List.filter_cons_of_neg (by rw [hgeneric]; decide), List.filter_cons_of_pos hschema,
      List.filter_cons_of_neg (by rw [hgeneric']; decide)] at hlength
    -- neither of the two attempts that are allowed succeeds
    cases hconverges with
    | succeeded h =>
      rw [h.answered] at hfirst
      cases hfirst
    | failed h later =>
      cases later with
      | succeeded h' =>
        rw [h'.answered] at hsecond
        cases hsecond
      | failed h' later' => exact absurd hlength (by simp)

end BundleInstaller.Install
