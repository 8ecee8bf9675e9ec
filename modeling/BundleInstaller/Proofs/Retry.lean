import BundleInstaller.Proofs.Accounting
import BundleInstaller.Proofs.Admission
import BundleInstaller.Proofs.History
import BundleInstaller.Proofs.Numbering

/-!
# Retries lose no ground

A document that was applied once is admitted from then on, since a history without a new failure
only extends the cluster.  So a second attempt with the same bundle comes at least as far as the
first one (`retry_keeps_ground`).
-/

namespace BundleInstaller.Install

open BundleInstaller.Bundle Cluster Program

/-! ## Phases at the end -/

theorem Progress.finish_phase (p : Progress) (error? : Option InstallError) :
    (p.finish error?).phase = .succeeded ∨ ∃ k, (p.finish error?).phase = .failed k := by
  cases error? with
  | none => exact .inl rfl
  | some e => exact .inr ⟨_, rfl⟩

/-- An end without an error, or one that comes after an error and not before it, is no worse. -/
theorem finish_keeps_ground {p p' : Progress} {error? error'? : Option InstallError}
    (h : error'? = none ∨ error?.isSome ∧ p.phase.index ≤ p'.phase.index) :
    ((p.finish error?).phase = .succeeded → (p'.finish error'?).phase = .succeeded) ∧
      ∀ n, (p.finish error?).phase = .failed n →
        (p'.finish error'?).phase = .succeeded ∨
          ∃ k, n ≤ k ∧ (p'.finish error'?).phase = .failed k := by
  rcases h with rfl | ⟨herror, hindex⟩
  · exact ⟨fun _ => rfl, fun _ _ => .inl rfl⟩
  · obtain ⟨e, rfl⟩ := Option.isSome_iff_exists.mp herror
    refine ⟨fun h => (by cases h), fun n hn => ?_⟩
    cases hn
    cases error'? with
    | none => exact .inl rfl
    | some e' => exact .inr ⟨_, hindex, rfl⟩

theorem index_le_of_split {bundle : Bytes} {before after : List Document} {d d' : Document}
    (h : splitDocuments bundle = .ok (before ++ d :: after)) (hd' : d' ∈ d :: after) :
    d.index ≤ d'.index := by
  have hsorted : ((before ++ d :: after).map (·.index)).Pairwise (· < ·) := by
    rw [index_splitDocuments h]
    exact List.pairwise_lt_range'
  rw [List.map_append, List.pairwise_append, List.map_cons, List.pairwise_cons] at hsorted
  rcases List.mem_cons.mp hd' with rfl | hd'
  · exact Nat.le_refl _
  · exact Nat.le_of_lt (hsorted.2.1.1 _ (List.mem_map_of_mem hd'))

/-- Where the first documents are admitted, no other than one of the rest can fail. -/
theorem run_past_admitted {catalog : Catalog} {before : List Document} {r : Rehearsal}
    (p : Progress) (rest : List Document) (h : ∀ x ∈ before, Admits r.cluster catalog x) :
    (r.run (applyDocuments catalog p (before ++ rest))).1.2 = none ∨
      ∃ d ∈ rest, (r.run (applyDocuments catalog p (before ++ rest))).1.1.phase =
        .applying d.index := by
  rw [applyDocuments_append, Rehearsal.run_bind, run_of_admits h]
  dsimp only
  have hrest := admits_of_run catalog rest (r.run (applyDocuments catalog p before)).1.1
    (r.run (applyDocuments catalog p before)).2
  cases herror : ((r.run (applyDocuments catalog p before)).2.run (applyDocuments catalog
      (r.run (applyDocuments catalog p before)).1.1 rest)).1.2 with
  | none => exact .inl rfl
  | some e =>
    obtain ⟨before', d, after, rfl, hphase, -⟩ := hrest.2 (by rw [herror]; rfl)
    exact .inr ⟨d, List.mem_append_right _ List.mem_cons_self, hphase⟩

/-- A later pass over the same documents comes at least as far as the first one. -/
theorem applyDocuments_keeps_ground {bundle : Bytes} {documents : List Document}
    {catalog catalog' : Catalog} {p p' : Progress} {r r' : Rehearsal}
    (hsplit : splitDocuments bundle = .ok documents)
    (hextends : (r.run (applyDocuments catalog p documents)).2.cluster.Extends r'.cluster)
    (hcatalog : ∀ triple, catalog.Covers triple → catalog'.Covers triple) :
    (r'.run (applyDocuments catalog' p' documents)).1.2 = none ∨
      (r.run (applyDocuments catalog p documents)).1.2.isSome ∧
        (r.run (applyDocuments catalog p documents)).1.1.phase.index ≤
          (r'.run (applyDocuments catalog' p' documents)).1.1.phase.index := by
  obtain ⟨hall, hsome⟩ := admits_of_run catalog documents p r
  cases herror : (r.run (applyDocuments catalog p documents)).1.2 with
  | none => exact .inl (run_of_admits fun x hx => (hall herror x hx).mono hextends hcatalog)
  | some e =>
    obtain ⟨before, d, after, hdocuments, hphase, hbefore⟩ := hsome (by rw [herror]; rfl)
    have hpast := run_past_admitted p' (d :: after)
      fun x hx => (hbefore x hx).mono hextends hcatalog
    rw [hdocuments] at hsplit
    rw [← hdocuments] at hpast
    refine hpast.imp id ?_
    rintro ⟨d', hd', hphase'⟩
    rw [hphase, hphase']
    exact ⟨rfl, index_le_of_split hsplit hd'⟩

theorem total_run {catalog : Catalog} {documents : List Document} {p : Progress} {r : Rehearsal} :
    (r.run (applyDocuments catalog p documents)).1.1.total? = p.total? := by
  obtain ⟨results, hsweep⟩ := applyDocuments_sweep
    (yields_transcript Rehearsal.handle (applyDocuments catalog p documents) r)
  exact hsweep.tally.1

/-! ## Attempts -/

/-- An attempt with a bundle of documents applies them, or it fails before the first one. -/
theorem run_attempt_cases (config : Config) {i : Installation} {r : Rehearsal} {bundle : Bytes}
    (hkind : i.spec.kind = .rawBundle) (hfetch : (r.shelf.fetch i.spec.url).1 = .ok bundle) :
    (∃ documents shelf counts, splitDocuments bundle = .ok documents ∧
        r.cluster.failsDiscovery = false ∧ r.run (attempt config i) =
          let x := Rehearsal.run (applyDocuments r.cluster.catalog
              ⟨.splitting, some documents.length, .empty⟩ documents) (r.recount shelf counts)
          (x.1.1.finish x.1.2, x.2)) ∨
      (((∀ documents, splitDocuments bundle ≠ .ok documents) ∨ r.cluster.failsDiscovery = true) ∧
        (r.run (attempt config i)).1.phase = .failed 0) := by
  obtain ⟨shelf, hrun⟩ := run_attempt_rawBundle config hkind hfetch
  have hearly : (∀ documents, splitDocuments bundle ≠ .ok documents) ∨
      r.cluster.failsDiscovery = true → (r.run (attempt config i)).1.phase = .failed 0 := by
    intro hearly
    obtain ⟨herror, hphase⟩ := run_installDocuments_early
      (p := ⟨.fetching, none, .empty⟩) (r := { r with shelf := shelf }) hearly
    obtain ⟨e, he⟩ := Option.isSome_iff_exists.mp herror
    rw [hrun]
    dsimp only
    rw [he]
    show Phase.failed _ = _
    rw [hphase]
    rfl
  cases hdocuments : splitDocuments bundle with
  | error e =>
    have hsplit : ∀ documents, splitDocuments bundle ≠ .ok documents := by
      rw [hdocuments]
      exact fun _ h => by cases h
    exact .inr ⟨.inl fun _ h => (by cases h), hearly (.inl hsplit)⟩
  | ok documents =>
    cases hdiscovery : r.cluster.failsDiscovery with
    | true => exact .inr ⟨.inr rfl, hearly (.inr hdiscovery)⟩
    | false =>
      obtain ⟨counts, hinstall⟩ := run_installDocuments (p := ⟨.fetching, none, .empty⟩)
        (r := { r with shelf := shelf }) hdocuments hdiscovery
      refine .inl ⟨documents, shelf, counts, rfl, rfl, ?_⟩
      rw [hrun, hinstall]
      rfl

/-- **Retrying loses no ground.**  Between the attempts anything may happen, but for new failures.
-/
theorem retry_keeps_ground (r : Rehearsal) (history : List Happening) (config config' : Config)
    (i i' : Installation) {bundle : Bytes} (hkind : i.spec.kind = .rawBundle)
    (hkind' : i'.spec.kind = .rawBundle) (hfetch : (r.shelf.fetch i.spec.url).1 = .ok bundle)
    (hquiet : ∀ x ∈ history, ¬x.Injects)
    (hfetch' : (((r.run (attempt config i)).2.after history).shelf.fetch i'.spec.url).1 =
      .ok bundle) :
    let first := r.run (attempt config i)
    let second := (first.2.after history).run (attempt config' i')
    (first.1.phase = .succeeded → second.1.phase = .succeeded) ∧
      ∀ n, first.1.phase = .failed n →
        second.1.phase = .succeeded ∨ ∃ k, n ≤ k ∧ second.1.phase = .failed k := by
  intro first second
  have hsecond : second.1.phase = .succeeded ∨ ∃ k, second.1.phase = .failed k := by
    obtain ⟨_, hrun⟩ := run_attempt_rawBundle config' hkind' hfetch'
    have hreport : second.1 = _ := congrArg Prod.fst hrun
    rw [hreport]
    exact Progress.finish_phase _ _
  have hextends : first.2.cluster.Extends (first.2.after history).cluster :=
    Rehearsal.extends_after hquiet
  have hdiscover : (first.2.after history).cluster.failsDiscovery = r.cluster.failsDiscovery :=
    ((r.extends_run _).trans hextends).failsDiscovery
  have hcatalog : ∀ triple, r.cluster.catalog.Covers triple →
      (first.2.after history).cluster.catalog.Covers triple :=
    fun _ h => ((r.extends_run _).trans hextends).covers h
  rcases run_attempt_cases config hkind hfetch with
    ⟨documents, shelf, counts, hsplit, hdiscovery, hrun⟩ | ⟨-, hphase⟩
  · rcases run_attempt_cases config' hkind' hfetch' with
      ⟨documents', shelf', counts', hsplit', -, hrun'⟩ | ⟨hearly, -⟩
    · cases hsplit.symm.trans hsplit'
      have hfirst : first.1 = _ := congrArg Prod.fst hrun
      have hfirst' : first.2 = _ := congrArg Prod.snd hrun
      have hsecond' : second.1 = _ := congrArg Prod.fst hrun'
      rw [hsecond', hfirst]
      refine finish_keeps_ground (applyDocuments_keeps_ground hsplit ?_ hcatalog)
      exact hfirst' ▸ hextends.trans (Rehearsal.extends_recount shelf' counts' _)
    · rcases hearly with hsplit' | hdiscovery'
      · exact absurd hsplit (hsplit' documents)
      · rw [hdiscover, hdiscovery] at hdiscovery'
        cases hdiscovery'
  · have hfirst : first.1.phase = .failed 0 := hphase
    refine ⟨fun h => ?_, fun n hn => ?_⟩
    · cases hfirst.symm.trans h
    · cases hfirst.symm.trans hn
      exact hsecond.imp id fun ⟨k, hk⟩ => ⟨k, Nat.zero_le k, hk⟩

/-- A bundle with one document of a kind that nobody serves. -/
def unservedBundle : Bytes :=
  Text.Utf8.ofString "{apiVersion: v1, kind: Widget, metadata: {name: a}}"

def unservedShelf : Fetch.Shelf := Fetch.Shelf.empty.put "http://[::1]/b" unservedBundle

theorem retry_keeps_ground_unserved :
    let i := Installation.new "demo" "http://[::1]/b" .rawBundle
    let first := (Rehearsal.start unservedShelf .ok).run (attempt .standard i)
    let second := (first.2.after [.supply unservedShelf .ok]).run (attempt .standard i)
    first.1.phase = .failed 1 ∧
      (second.1.phase = .succeeded ∨ ∃ k, 1 ≤ k ∧ second.1.phase = .failed k) := by
  intro i first second
  have hvalid : (Fetch.validate "http://[::1]/b").isOk := by decide +kernel
  have hfetch : (unservedShelf.fetch i.spec.url).1 = .ok unservedBundle :=
    Rehearsal.fetch_put hvalid
  have hfirst : first.1.phase = .failed 1 := by decide +kernel
  refine ⟨hfirst, (retry_keeps_ground (.start unservedShelf .ok) [.supply unservedShelf .ok]
    .standard .standard i i rfl rfl hfetch ?_ hfetch).2 1 hfirst⟩
  intro x hx
  rw [List.mem_singleton.mp hx]
  exact id
end BundleInstaller.Install
