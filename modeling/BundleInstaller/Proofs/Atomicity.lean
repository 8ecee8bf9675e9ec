import BundleInstaller.Proofs.Creations
import BundleInstaller.Proofs.History

/-!
# What a cluster in memory loses

A `Memory` loses no object, and what it refuses to do it does not do in part: a call that fails
leaves everything as it was.  Only a failure that was injected is gone once a call has reported it.

* `Reported`: the failures that are taken out, each with the error that reports it.
* `change`: what one call does to a consistent state.
* `kept_consistent`: every history keeps the state consistent.
* `answer_atomic`: no object is lost, and a call that fails changes nothing else.
-/

namespace BundleInstaller
namespace Cluster.Memory

/-! ## Keys that stand once -/

section Keys

variable {κ α : Type} [BEq κ] [LawfulBEq κ]

theorem nodup_setEntry {key : κ} {value : α} {entries : List (κ × α)}
    (h : (entries.map (·.1)).Nodup) : ((setEntry key value entries).map (·.1)).Nodup := by
  unfold setEntry
  split
  · have hkeys : (entries.map fun e => if e.1 == key then (key, value) else e).map (·.1) =
        entries.map (·.1) := by
      rw [List.map_map]
      refine List.map_congr_left fun e _ => ?_
      by_cases he : e.1 = key
      · simp [he]
      · simp [he]
    rw [hkeys]
    exact h
  · rename_i hfresh
    rw [List.map_append, List.nodup_append]
    refine ⟨h, by simp, ?_⟩
    rintro k hk k' hk' rfl
    obtain ⟨e, he, rfl⟩ := List.mem_map.mp hk
    refine hfresh (List.any_eq_true.mpr ⟨e, he, ?_⟩)
    simpa using hk'

theorem filter_of_lookup {key : κ} {value : α} {entries : List (κ × α)}
    (h : (entries.map (·.1)).Nodup) (hlookup : entries.lookup key = some value) :
    ∃ before after, entries = before ++ (key, value) :: after ∧
      entries.filter (·.1 != key) = before ++ after := by
  induction entries with
  | nil => cases hlookup
  | cons e rest ih =>
    obtain ⟨k, v⟩ := e
    rw [List.map_cons, List.nodup_cons] at h
    by_cases hk : key = k
    · subst hk
      rw [List.lookup_cons_self] at hlookup
      cases hlookup
      refine ⟨[], rest, rfl, ?_⟩
      rw [List.filter_cons_of_neg (by simp), List.nil_append, List.filter_eq_self]
      intro x hx
      rw [bne_iff_ne]
      intro hkey
      exact h.1 (List.mem_map.mpr ⟨x, hx, hkey⟩)
    · rw [lookup_cons_of_ne hk] at hlookup
      obtain ⟨before, after, rfl, hfilter⟩ := ih h.2 hlookup
      refine ⟨(k, v) :: before, after, rfl, ?_⟩
      rw [List.filter_cons_of_pos (by simpa using fun heq => hk heq.symm), hfilter]
      rfl

end Keys

/-! ## Consistent states -/

/-- A state whose parts fit together. -/
structure Consistent (m : Memory) : Prop where
  /-- An object says itself what it is stored under. -/
  named : ∀ x ∈ m.objects, x.2.metadata.name? = some x.1.name ∧ x.2.metadata.ns? = x.1.space
  keys : (m.objects.map (·.1)).Nodup
  /-- Each text that was posted reads as what its key was taken from. -/
  posted : List.Forall₂ (fun post key => ∃ v, readPosted post.2 = .ok v ∧ postKey v = key)
    m.posts m.postKeys
  postKeys : m.postKeys.Nodup
  creations : (m.createFailures.map (·.1)).Nodup
  looks : (m.getFailures.map (·.1)).Nodup

/-- What an injected failure makes of a call. -/
def pending? (m : Memory) : Call → Option String
  | .get place _ name => m.getFailures.lookup (place.kind, name)
  | .create place _ o => o.metadata.name?.bind fun name => m.createFailures.lookup (place.kind, name)
  | .writeStatus _ => if m.failsNextStatus then some "the object has been modified" else none
  | _ => none

/-- A failure that was injected, the error that reports it, and the state without it. -/
inductive Reported (m : Memory) : Call → ClusterError → Memory → Prop
  | look {place : Collection} {space : Option String} {name words : String}
      {before after : List ((String × String) × String)} (counts : Counts)
      (h : m.getFailures = before ++ ((place.kind, name), words) :: after) :
      Reported m (.get place space name) (.rejected (place.kind ++ "/" ++ name) words)
        { m with counts := counts, getFailures := before ++ after }
  | creation {place : Collection} {space : Option String} {o : Object} {name words : String}
      {before after : List ((String × String) × String)} (counts : Counts)
      (hname : o.metadata.name? = some name)
      (h : m.createFailures = before ++ ((place.kind, name), words) :: after) :
      Reported m (.create place space o) (.rejected (place.kind ++ "/" ++ name) words)
        { m with counts := counts, createFailures := before ++ after }
  | status {i : Installation} (counts : Counts) (h : m.failsNextStatus = true) :
      Reported m (.writeStatus i)
        (.conflict ("Installation/" ++ i.anyName) "the object has been modified")
        { m with counts := counts, failsNextStatus := false }

/-! ## What one call does -/

/-- What a call does to a state. -/
inductive Change (m : Memory) (c : Call) : Prop
  /-- The call is counted. -/
  | counted (counts : Counts) (hpending : m.pending? c = none)
      (hstate : (m.answer c).2 = { m with counts := counts })
  | reported {e : ClusterError} (hanswer : (m.answer c).1 = .error e)
      (h : m.Reported c e (m.answer c).2)
  | created (counts : Counts) {key : Key} {o : Object} (hname : o.metadata.name? = some key.name)
      (hfree : m.objects.lookup key = none) (hanswer : ∃ a, (m.answer c).1 = .ok a)
      (hstate : (m.answer c).2 =
        { m with counts := counts, objects := insertObject key (stored key o) m.objects })
  | posted (counts : Counts) {path text : String} {v : Yaml.Value} (hread : readPosted text = .ok v)
      (hkey : postKey v ∉ m.postKeys) (hanswer : ∃ a, (m.answer c).1 = .ok a)
      (hstate : (m.answer c).2 =
        { m with
          counts := counts
          postKeys := m.postKeys ++ [postKey v]
          posts := m.posts ++ [(path, text)] })
  | written (counts : Counts) (installations : List (String × Installation))
      (hanswer : ∃ a, (m.answer c).1 = .ok a)
      (hstate : (m.answer c).2 = { m with counts := counts, installations := installations })

theorem takeFailure_some {key : Key} {failures left : List ((String × String) × String)}
    {words : String} (hnodup : (failures.map (·.1)).Nodup)
    (h : takeFailure key failures = some (words, left)) : ∃ before after,
      failures = before ++ ((key.kind, key.name), words) :: after ∧ left = before ++ after := by
  obtain ⟨_, hlookup, heq⟩ := Option.map_eq_some_iff.mp h
  cases heq
  exact filter_of_lookup hnodup hlookup

theorem change_of_reported {m m' : Memory} {c : Call} {e : ClusterError}
    (hanswer : m.answer c = (.error e, m')) (h : m.Reported c e m') : m.Change c := by
  have hstate : (m.answer c).2 = m' := by rw [hanswer]
  refine .reported (by rw [hanswer]) ?_
  rw [hstate]
  exact h

theorem change_get {m : Memory} (hm : m.Consistent) (place : Collection) (space : Option String)
    (name : String) : m.Change (.get place space name) := by
  let counts : Counts := { m.counts with gets := m.counts.gets + 1 }
  cases hfailure : takeFailure (Key.ofCollection place space name) m.getFailures with
  | none =>
    refine .counted counts (takeFailure_eq_none_iff.mp hfailure) ?_
    show (m.get place space name).2 = _
    unfold get
    dsimp only
    simp only [hfailure]
    rfl
  | some failure =>
    obtain ⟨words, left⟩ := failure
    obtain ⟨before, after, hbefore, rfl⟩ := takeFailure_some hm.looks hfailure
    refine change_of_reported ?_ (.look counts hbefore)
    show m.get place space name = _
    unfold get
    dsimp only
    simp only [hfailure]
    rfl

/-- A creation that was told to fail takes that failure out, whatever is stored. -/
theorem create_of_failure {m : Memory} {place : Collection} {space : Option String} {o : Object}
    {name words : String} {left : List ((String × String) × String)}
    (hname : o.metadata.name? = some name)
    (hfailure : takeFailure (Key.ofCollection place space name) m.createFailures =
      some (words, left)) :
    ∃ counts, m.create place space o = (.error (.rejected (place.kind ++ "/" ++ name) words),
      { m with counts := counts, createFailures := left }) := by
  unfold create
  dsimp only
  simp only [hname, hfailure]
  exact ⟨_, rfl⟩

theorem change_create {m : Memory} (hm : m.Consistent) (place : Collection) (space : Option String)
    (o : Object) : m.Change (.create place space o) := by
  let counts : Counts := { m.counts with creates := m.counts.creates + 1 }
  cases hname : o.metadata.name? with
  | none =>
    refine .counted counts (by rw [pending?, hname]; rfl) ?_
    show (m.create place space o).2 = _
    unfold create
    dsimp only
    simp only [hname]
    rfl
  | some name =>
    cases hfailure : takeFailure (Key.ofCollection place space name) m.createFailures with
    | some failure =>
      obtain ⟨words, left⟩ := failure
      obtain ⟨before, after, hbefore, rfl⟩ := takeFailure_some hm.creations hfailure
      obtain ⟨counts, hcreate⟩ := create_of_failure hname hfailure
      exact change_of_reported hcreate (.creation counts hname hbefore)
    | none =>
      -- only now is it looked whether the object is there
      have hlookup := takeFailure_eq_none_iff.mp hfailure
      cases hobject : m.objects.lookup (Key.ofCollection place space name) with
      | some old =>
        obtain ⟨counts, hcreate⟩ := create_of_present hname hlookup (Option.isSome_of_mem hobject)
        refine .counted counts ?_ (congrArg Prod.snd hcreate)
        rw [pending?, hname]
        exact hlookup
      | none =>
        obtain ⟨counts, hcreate⟩ := create_of_absent hname hlookup hobject
        exact .created counts hname hobject ⟨_, congrArg Prod.fst hcreate⟩
          (congrArg Prod.snd hcreate)

theorem change_post (m : Memory) (path : String) (body : Bytes) :
    m.Change (.post path body) := by
  cases m.posting path body with
  | unreadable counts hread h => exact .counted counts rfl (congrArg Prod.snd h)
  | present counts hread hkey h => exact .counted counts rfl (congrArg Prod.snd h)
  | taken counts hread hkey h =>
    exact .posted counts hread hkey ⟨_, congrArg Prod.fst h⟩ (congrArg Prod.snd h)

theorem change_writeStatus (m : Memory) (i : Installation) : m.Change (.writeStatus i) := by
  let counts : Counts := { m.counts with statusWrites := m.counts.statusWrites + 1 }
  by_cases hfails : m.failsNextStatus = true
  · refine change_of_reported ?_ (.status counts hfails)
    show m.writeStatus i = _
    unfold writeStatus
    dsimp only
    rw [if_pos hfails]
  · have hpending : m.pending? (.writeStatus i) = none := if_neg hfails
    cases hold : m.installations.lookup i.anyName with
    | none =>
      refine .counted counts hpending ?_
      show (m.writeStatus i).2 = _
      unfold writeStatus
      dsimp only
      rw [if_neg hfails]
      simp only [hold]
      rfl
    | some old =>
      by_cases hversion : old.metadata.resourceVersion? ≠ i.metadata.resourceVersion?
      · refine .counted counts hpending ?_
        show (m.writeStatus i).2 = _
        unfold writeStatus
        dsimp only
        rw [if_neg hfails]
        simp only [hold]
        rw [if_pos hversion]
      · have hwrite : ∃ new, m.writeStatus i = (.ok new,
            { m with
              counts := counts
              installations := setEntry i.anyName new m.installations }) := by
          unfold writeStatus
          dsimp only
          rw [if_neg hfails]
          simp only [hold]
          rw [if_neg hversion]
          exact ⟨_, rfl⟩
        obtain ⟨new, hwrite⟩ := hwrite
        exact .written counts _ ⟨new, congrArg Prod.fst hwrite⟩ (congrArg Prod.snd hwrite)

theorem change {m : Memory} (hm : m.Consistent) (c : Call) : m.Change c := by
  cases c with
  | discover =>
    refine .counted { m.counts with discoveries := m.counts.discoveries + 1 } rfl ?_
    show m.discover.2 = _
    unfold discover
    dsimp only
    split <;> rfl
  | get place space name => exact change_get hm place space name
  | create place space o => exact change_create hm place space o
  | post path body => exact change_post m path body
  | readInstallation name => exact .counted _ rfl rfl
  | writeStatus i => exact change_writeStatus m i

/-! ## States stay consistent -/

theorem consistent_empty : Memory.empty.Consistent where
  named := by simp [empty]
  keys := .nil
  posted := .nil
  postKeys := .nil
  creations := .nil
  looks := .nil

theorem consistent_of_reported {m m' : Memory} {c : Call} {e : ClusterError} (hm : m.Consistent)
    (h : m.Reported c e m') : m'.Consistent := by
  cases h with
  | look counts h =>
    refine { hm with looks := hm.looks.sublist (List.Sublist.map _ ?_) }
    rw [h]
    exact List.Sublist.append_left (List.sublist_cons_self _ _) _
  | creation counts hname h =>
    refine { hm with creations := hm.creations.sublist (List.Sublist.map _ ?_) }
    rw [h]
    exact List.Sublist.append_left (List.sublist_cons_self _ _) _
  | status counts h => exact { hm with }

theorem consistent_answer {m : Memory} (hm : m.Consistent) (c : Call) :
    (m.answer c).2.Consistent := by
  cases change hm c with
  | counted counts hpending hstate =>
    rw [hstate]
    exact { hm with }
  | reported hanswer h => exact consistent_of_reported hm h
  | created counts hname hfree hanswer hstate =>
    rw [hstate]
    refine { hm with named := ?_, keys := ?_ }
    · intro x hx
      rcases mem_insertObject.mp hx with rfl | hx
      · exact ⟨hname, rfl⟩
      · exact hm.named x hx
    · rw [((perm_insertObject _ _ _).map _).nodup_iff, List.map_cons, List.nodup_cons,
        ← isSome_lookup_iff, hfree]
      exact ⟨Bool.false_ne_true, hm.keys⟩
  | posted counts hread hkey hanswer hstate =>
    -- both lists get one more entry at their ends, so that they stay aligned
    rw [hstate]
    refine { hm with posted := ?_, postKeys := ?_ }
    · exact List.rel_append hm.posted (.cons ⟨_, hread, rfl⟩ .nil)
    · rw [List.nodup_append]
      refine ⟨hm.postKeys, by simp, ?_⟩
      rintro key hkey' key' hsingle rfl
      rw [List.mem_singleton.mp hsingle] at hkey'
      exact hkey hkey'
  | written counts installations hanswer hstate =>
    rw [hstate]
    exact { hm with }

theorem sublist_insertObject (key : Key) (o : Object) (objects : List (Key × Object)) :
    objects.Sublist (insertObject key o objects) := by
  induction objects with
  | nil => exact List.nil_sublist _
  | cons e rest ih =>
    rw [insertObject]
    split
    · exact List.sublist_cons_self _ _
    · exact ih.cons_cons e

theorem grows_answer {m : Memory} (hm : m.Consistent) (c : Call) :
    m.objects.Sublist (m.answer c).2.objects ∧
      (m.answer c).2.objects.length ≤ m.objects.length + 1 := by
  by_cases hobjects : (m.answer c).2.objects = m.objects
  · rw [hobjects]
    exact ⟨.refl _, Nat.le_succ _⟩
  · cases change hm c with
    | created counts hname hfree hanswer hstate =>
      rw [hstate]
      refine ⟨sublist_insertObject _ _ _, ?_⟩
      rw [(perm_insertObject _ _ _).length_eq, List.length_cons]
    | reported hanswer h =>
      refine absurd ?_ hobjects
      generalize (m.answer c).2 = m' at h
      cases h <;> rfl
    | counted counts hpending hstate => exact absurd (congrArg Memory.objects hstate) hobjects
    | posted counts hread hkey hanswer hstate =>
      exact absurd (congrArg Memory.objects hstate) hobjects
    | written counts installations hanswer hstate =>
      exact absurd (congrArg Memory.objects hstate) hobjects

theorem failed_answer {m : Memory} (hm : m.Consistent) {c : Call} {e : ClusterError}
    (h : (m.answer c).1 = .error e) :
    (m.pending? c = none ∧ ∃ counts, (m.answer c).2 = { m with counts := counts }) ∨
      m.Reported c e (m.answer c).2 := by
  cases change hm c with
  | counted counts hpending hstate => exact .inl ⟨hpending, counts, hstate⟩
  | reported hanswer hreported =>
    rw [hanswer] at h
    cases h
    exact .inr hreported
  | created _ _ _ hanswer _ | posted _ _ _ hanswer _ | written _ _ hanswer _ =>
    obtain ⟨a, hanswer⟩ := hanswer
    rw [hanswer] at h
    cases h

/-- The part of a state that a failing call leaves alone. -/
theorem Reported.kept {m m' : Memory} {c : Call} {e : ClusterError} (h : m.Reported c e m') :
    m'.objects = m.objects ∧ m'.posts = m.posts ∧ m'.postKeys = m.postKeys ∧
      m'.installations = m.installations := by
  cases h <;> exact ⟨rfl, rfl, rfl, rfl⟩

end Cluster.Memory

namespace Install.Rehearsal

open Cluster

theorem kept_consistent : Kept Memory.Consistent where
  answer _ c h := Memory.consistent_answer h c
  register _ _ h := { h with }
  rejectCreate _ _ _ _ h := { h with creations := Memory.nodup_setEntry h.creations }
  rejectGet _ _ _ _ h := { h with looks := Memory.nodup_setEntry h.looks }
  failDiscovery _ _ h := { h with }
  conflictStatus _ h := { h with }

/-- **A cluster in memory only grows, and a call that fails is not done in part.**  After every
history the parts of the state fit together.  Whatever is asked for then, the objects stay and at
most one comes in.  If the answer is an error, no object, post or installation is touched: the call
is counted, and the failure that was injected for it, if there is one, is what the error reports
and is gone. -/
theorem answer_atomic {r : Rehearsal} (hr : r.Reachable) (c : Cluster.Call) :
    let m := r.cluster
    let after := (m.answer c).2
    m.Consistent ∧
      (m.objects.Sublist after.objects ∧ after.objects.length ≤ m.objects.length + 1 ∧
        ∀ key o, m.objects.lookup key = some o → after.objects.lookup key = some o) ∧
      ∀ e, (m.answer c).1 = .error e →
        (after.objects = m.objects ∧ after.posts = m.posts ∧ after.postKeys = m.postKeys ∧
          after.installations = m.installations) ∧
        ((m.pending? c = none ∧ ∃ counts, after = { m with counts := counts }) ∨
          m.Reported c e after) := by
  intro m after
  have hm : m.Consistent := hr.invariant Memory.consistent_empty kept_consistent
  obtain ⟨hsublist, hlength⟩ := Memory.grows_answer hm c
  refine ⟨hm, ⟨hsublist, hlength, (Memory.extends_answer m c).objects⟩, fun e he => ?_⟩
  have hfailed := Memory.failed_answer hm he
  refine ⟨?_, hfailed⟩
  rcases hfailed with ⟨-, counts, hstate⟩ | hreported
  · have heq : after = { m with counts := counts } := hstate
    rw [heq]
    exact ⟨rfl, rfl, rfl, rfl⟩
  · exact hreported.kept

def configMaps : Collection := ⟨"", "v1", "ConfigMap", "configmaps", .namespaced⟩

def configMap : Object := ⟨some ("v1", "ConfigMap"), ⟨some "a", none, none, []⟩, []⟩

/-- A cluster with an object, a post, and failures that wait for their calls. -/
def burdened : Rehearsal :=
  (start .empty .ok).after
    [.call (.cluster (.create configMaps none configMap)), .call (.cluster (.post "/apply" [123, 125])),
      .rejectCreate "ConfigMap" "a" "quota exceeded",
      .rejectCreate "ConfigMap" "b" "field is immutable",
      .rejectGet "ConfigMap" "a" "request timed out"]

/-- The creation is told to fail and fails, although the object is there, and only the failure that
it reports is gone. -/
theorem answer_atomic_burdened :
    let m := burdened.cluster
    let creation := Cluster.Call.create configMaps none configMap
    let after := (m.answer creation).2
    m.posts = [("/apply", "\x7b\x7d")] ∧
      m.createFailures = [(("ConfigMap", "a"), "quota exceeded"),
        (("ConfigMap", "b"), "field is immutable")] ∧
      m.objects.length = 1 ∧
      (m.answer creation).1 = .error (.rejected "ConfigMap/a" "quota exceeded") ∧
      after.createFailures = [(("ConfigMap", "b"), "field is immutable")] ∧
      after.getFailures = m.getFailures ∧ after.objects = m.objects ∧ after.posts = m.posts ∧
      m.Consistent ∧ m.Reported creation (.rejected "ConfigMap/a" "quota exceeded") after := by
  have htake : Memory.takeFailure (Key.ofCollection configMaps none "a")
      burdened.cluster.createFailures =
        some ("quota exceeded", [(("ConfigMap", "b"), "field is immutable")]) := by decide +kernel
  obtain ⟨_, hcreate⟩ := Memory.create_of_failure (o := configMap) rfl htake
  have hfails := congrArg Prod.fst hcreate
  obtain ⟨hconsistent, -, herror⟩ := answer_atomic (r := burdened) ⟨_, _, _, rfl⟩
    (.create configMaps none configMap)
  obtain ⟨⟨hobjects, hposts, -, -⟩, hfailed⟩ := herror _ hfails
  refine ⟨by decide +kernel, by decide +kernel, by decide +kernel, hfails, by decide +kernel,
    by decide +kernel, hobjects, hposts, hconsistent, ?_⟩
  rcases hfailed with ⟨hpending, -⟩ | hreported
  · exact absurd hpending (by decide +kernel)
  · exact hreported

end Install.Rehearsal
end BundleInstaller
