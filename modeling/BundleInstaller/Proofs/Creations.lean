import BundleInstaller.Proofs.Ensemble
import BundleInstaller.Proofs.Memory
import BundleInstaller.Proofs.Passage

/-!
# Who created what

Of the calls that change the objects of a cluster only one kind is made when documents are applied:
creations.  A creation that goes well puts one object in, under a key that was free, and is recorded
as created by the attempt that made it.  Both hold call by call, so they hold of attempts that are
made side by side, in whatever turns.

* `created_through`: how the objects after a log come from those before it and its creations.
* `length_created_attempt`: an attempt records as created what it creates.
* `attempts_create_once`: each object is created once, and none is lost.
-/

namespace BundleInstaller

open BundleInstaller.Bundle Cluster Install Program

namespace Install

/-! ## Creations -/

/-- The key and the object of a creation that went well.  Objects without a name are not created. -/
def creation? : Answered Call Call.Answer → Option (Key × Object)
  | ⟨.cluster (.create place space o), .ok _⟩ =>
    some (Key.ofCollection place space (o.metadata.name?.getD ""), o)
  | _ => none

/-- The creations in a log that went well. -/
def Log.creations (log : Log) : List (Key × Object) := log.filterMap creation?

@[simp] theorem Log.creations_append (l₁ l₂ : Log) :
    Log.creations (l₁ ++ l₂) = l₁.creations ++ l₂.creations := List.filterMap_append

theorem Log.creations_eq_nil {log : Log} : log.creations = [] ↔ ∀ x ∈ log, creation? x = none :=
  List.filterMap_eq_nil_iff

end Install

namespace Cluster.Memory

/-- How the objects after some creations come from those before them. -/
structure Created (before after : List (Key × Object)) (creations : List (Key × Object)) :
    Prop where
  /-- No key is created twice. -/
  nodup : (creations.map (·.1)).Nodup
  fresh : ∀ x ∈ creations, before.lookup x.1 = none
  kept : ∀ key o, before.lookup key = some o → after.lookup key = some o
  bound : ∀ x ∈ creations, after.lookup x.1 = some (stored x.1 x.2)
  /-- Nothing else comes in, and nothing goes. -/
  perm : after.Perm (creations.map (fun x => (x.1, stored x.1 x.2)) ++ before)

/-- The keys that stand in the second list and not in the first one. -/
def addedKeys (before after : List (Key × Object)) : List Key :=
  (after.map (·.1)).filter fun key => (before.lookup key).isNone

theorem perm_insertObject (key : Key) (o : Object) (objects : List (Key × Object)) :
    (insertObject key o objects).Perm ((key, o) :: objects) := by
  induction objects with
  | nil => exact .refl _
  | cons e rest ih =>
    rw [insertObject]
    split
    · exact .refl _
    · exact (ih.cons e).trans (.swap _ _ _)

theorem isSome_lookup_iff {key : Key} {objects : List (Key × Object)} :
    (objects.lookup key).isSome ↔ key ∈ objects.map (·.1) := by
  rw [List.lookup_isSome_iff, List.mem_map]
  exact exists_congr fun x => and_congr_right fun _ => beq_iff_eq.trans eq_comm

namespace Created

variable {before after creations : List (Key × Object)}

theorem refl (objects : List (Key × Object)) : Created objects objects [] where
  nodup := List.nodup_nil
  fresh _ h := absurd h List.not_mem_nil
  kept _ _ h := h
  bound _ h := absurd h List.not_mem_nil
  perm := .refl _

theorem cons {key : Key} {o : Object} (hfree : before.lookup key = none)
    (h : Created (insertObject key (stored key o) before) after creations) :
    Created before after ((key, o) :: creations) := by
  have hlookup : ∀ key', (insertObject key (stored key o) before).lookup key' =
      if key' = key then some (stored key o) else before.lookup key' :=
    fun _ => lookup_insertObject hfree
  have hself : (insertObject key (stored key o) before).lookup key = some (stored key o) := by
    rw [hlookup, if_pos rfl]
  have hne : ∀ x ∈ creations, x.1 ≠ key := by
    rintro x hx rfl
    rw [h.fresh x hx] at hself
    cases hself
  refine ⟨?_, ?_, fun key' o' ho' => h.kept key' o' ?_, ?_, ?_⟩
  · rw [List.map_cons, List.nodup_cons, List.mem_map]
    exact ⟨fun ⟨x, hx, hkey⟩ => hne x hx hkey, h.nodup⟩
  · intro x hx
    rcases List.mem_cons.mp hx with rfl | hx
    · exact hfree
    · have hfresh := h.fresh x hx
      rwa [hlookup, if_neg (hne x hx)] at hfresh
  · rw [hlookup, if_neg, ho']
    rintro rfl
    rw [hfree] at ho'
    cases ho'
  · intro x hx
    rcases List.mem_cons.mp hx with rfl | hx
    · exact h.kept _ _ hself
    · exact h.bound x hx
  · refine h.perm.trans (((perm_insertObject key _ before).append_left _).trans ?_)
    exact List.perm_middle

theorem of_lookup (h : Created before after creations) {key : Key}
    (hbefore : before.lookup key = none) (hafter : (after.lookup key).isSome) :
    ∃ o, (key, o) ∈ creations := by
  rw [isSome_lookup_iff, (h.perm.map (·.1)).mem_iff, List.map_append, List.map_map,
    List.mem_append] at hafter
  rcases hafter with hcreated | hmem
  · obtain ⟨x, hx, rfl⟩ := List.mem_map.mp hcreated
    exact ⟨x.2, hx⟩
  · rw [← isSome_lookup_iff, hbefore] at hmem
    cases hmem

/-- **The keys that are added are those of the creations.** -/
theorem perm_addedKeys (h : Created before after creations) :
    (addedKeys before after).Perm (creations.map (·.1)) := by
  have hcreations : (creations.map (·.1)).filter (fun key => (before.lookup key).isNone) =
      creations.map (·.1) := by
    rw [List.filter_eq_self]
    intro key hkey
    obtain ⟨x, hx, rfl⟩ := List.mem_map.mp hkey
    rw [h.fresh x hx]
    rfl
  have hbefore : (before.map (·.1)).filter (fun key => (before.lookup key).isNone) = [] := by
    rw [List.filter_eq_nil_iff]
    intro key hkey hnone
    rw [← isSome_lookup_iff, Option.isSome_iff_ne_none] at hkey
    exact hkey (Option.isNone_iff_eq_none.mp hnone)
  have hperm := (h.perm.map (·.1)).filter (fun key => (before.lookup key).isNone)
  rw [List.map_append, List.map_map, List.filter_append, hbefore, List.append_nil] at hperm
  exact hperm.trans (List.Perm.of_eq hcreations)

end Created

/-! ## Creations in a log -/

/-- A creation fails and changes no object, or it puts one in where nothing is. -/
theorem create_cases (m : Memory) (place : Collection) (space : Option String) (o : Object) :
    (∃ e, (m.create place space o).1 = .error e ∧
        (m.create place space o).2.objects = m.objects ∧
        (e.isAlreadyExists → ∃ name, o.metadata.name? = some name ∧
          (m.objects.lookup (Key.ofCollection place space name)).isSome)) ∨
      ∃ name, o.metadata.name? = some name ∧
        m.objects.lookup (Key.ofCollection place space name) = none ∧
        (m.create place space o).1 = .ok (stored (Key.ofCollection place space name) o) ∧
        (m.create place space o).2.objects = insertObject (Key.ofCollection place space name)
          (stored (Key.ofCollection place space name) o) m.objects := by
  unfold create
  dsimp only
  split
  · exact .inl ⟨_, rfl, rfl, fun h => by cases h⟩
  rename_i name hname
  split
  · exact .inl ⟨_, rfl, rfl, fun h => by cases h⟩
  split
  · rename_i hpresent
    exact .inl ⟨_, rfl, rfl, fun _ => ⟨name, hname, hpresent⟩⟩
  · rename_i habsent
    exact .inr ⟨name, hname, Option.not_isSome_iff_eq_none.mp habsent, rfl, rfl⟩

theorem objects_answer {m : Memory} {c : Cluster.Call}
    (h : ∀ place space o, c ≠ .create place space o) : (m.answer c).2.objects = m.objects := by
  cases c with
  | discover =>
    show m.discover.2.objects = _
    unfold discover
    dsimp only
    split <;> rfl
  | get place space name =>
    obtain ⟨_, _, hstate⟩ := get_state m place space name
    show (m.get place space name).2.objects = _
    rw [hstate]
  | create place space o => exact absurd rfl (h place space o)
  | post path body =>
    show (m.post path body).2.objects = _
    unfold post
    dsimp only
    split
    · rfl
    · split <;> rfl
  | readInstallation name => rfl
  | writeStatus i =>
    obtain ⟨_, _, _, hstate, -⟩ := writeStatus_state m i
    show (m.writeStatus i).2.objects = _
    rw [hstate]

/-- What a call that is answered by the cluster does to the objects. -/
inductive Effect (m : Memory) (x : Answered Install.Call Install.Call.Answer) : Prop
  | quiet (hx : creation? x = none) (hobjects : (m.afterCall x.1).objects = m.objects)
  | creation {key : Key} {o : Object} (hx : creation? x = some (key, o))
      (hfree : m.objects.lookup key = none)
      (hobjects : (m.afterCall x.1).objects = insertObject key (stored key o) m.objects)

theorem effect {m : Memory} {x : Answered Install.Call Install.Call.Answer} (h : m.Gives x) :
    m.Effect x := by
  obtain ⟨c, answer⟩ := x
  cases c with
  | cluster c =>
    cases c with
    | create place space o =>
      change answer = (m.create place space o).1 at h
      rcases create_cases m place space o with
        ⟨e, hanswer, hobjects, -⟩ | ⟨name, hname, hfree, hanswer, hobjects⟩
      · rw [hanswer] at h
        subst h
        exact .quiet rfl hobjects
      · rw [hanswer] at h
        subst h
        refine .creation ?_ hfree hobjects
        show some (Key.ofCollection place space (o.metadata.name?.getD ""), o) = _
        rw [hname]
        rfl
    | _ => exact .quiet rfl (objects_answer fun _ _ _ h => by cases h)
  | _ => exact .quiet rfl rfl

/-- **What is stored after a log is what was stored before it and what was created.** -/
theorem created_through {m : Memory} {log : Log} (h : m.Answers log) :
    Created m.objects (m.through log).objects log.creations := by
  induction log generalizing m with
  | nil => exact .refl _
  | cons x log ih =>
    obtain ⟨hx, hlog⟩ := h
    have hrest := ih hlog
    rw [through_cons, Log.creations, List.filterMap_cons]
    cases effect hx with
    | quiet hnone hobjects =>
      rw [hnone]
      rwa [hobjects] at hrest
    | creation hcreation hfree hobjects =>
      rw [hcreation]
      rw [hobjects] at hrest
      exact hrest.cons hfree

end Cluster.Memory

namespace Install

/-! ## Counting -/

theorem creations_of_framing {log : Log} (h : ∀ x ∈ log, IsFraming x.1) : log.creations = [] := by
  rw [Log.creations_eq_nil]
  rintro ⟨c, answer⟩ hx
  have hframing := h _ hx
  cases c with
  | cluster c =>
    cases c with
    | create place space o => exact absurd hframing id
    | _ => rfl
  | _ => rfl

/-- How many objects are recorded as created. -/
def createdCount : Except InstallError Applied → Nat
  | .ok .created => 1
  | _ => 0

theorem Applying.length_creations {d : Declaration} {log : Log}
    {result : Except InstallError Applied} (h : Applying d log result) :
    log.creations.length = createdCount result := by
  cases h with
  | unfit hlog he => rcases hlog with rfl | ⟨resource, name, rfl⟩ <;> rfl
  | _ => rfl

theorem Summary.length_created_record (s : Summary) (name : String) (applied : Applied) :
    (s.record name applied).created.length = s.created.length + createdCount (.ok applied) := by
  cases applied with
  | created => exact List.length_append
  | _ => rfl

theorem length_created_applyDocuments {catalog : Catalog} {documents : List Document}
    {p p' : Progress} {log : Log} {error? : Option InstallError}
    (h : (applyDocuments catalog p documents).Yields log (p', error?)) :
    p'.summary.created.length = p.summary.created.length + log.creations.length := by
  induction documents generalizing p log with
  | nil =>
    obtain ⟨rfl, hend⟩ := yields_done_iff.mp h
    cases hend
    rfl
  | cons document rest ih =>
    obtain ⟨e, before, after, result, rfl, hdocument, hafter⟩ := yields_applyDocuments_cons h
    have hlog : (Log.creations (noted e :: (before ++ after))).length =
        before.creations.length + after.creations.length := by
      rw [← List.length_append, ← Log.creations_append]
      rfl
    rw [hlog]
    rcases applying_document hdocument with
      ⟨rfl, cause, rfl⟩ | ⟨d, e', inner, applied, -, rfl, happlying, rfl⟩
    · obtain ⟨rfl, hend⟩ := hafter
      cases hend
      rfl
    · have hinner : (Log.creations (noted e' :: inner)).length = createdCount applied :=
        happlying.length_creations
      rw [hinner]
      cases applied with
      | error cause =>
        obtain ⟨rfl, hend⟩ := hafter
        cases hend
        rfl
      | ok applied =>
        have hrest := ih hafter
        rw [hrest]
        show (p.summary.record d.header.displayName applied).created.length + _ = _
        rw [Summary.length_created_record, Nat.add_assoc]

/-- **What an attempt records as created are the creations that it makes.** -/
theorem length_created_attempt {config : Config} {i : Installation} {log : Log} {report : Report}
    (hkind : i.spec.kind = .rawBundle) (h : (attempt config i).Yields log report) :
    report.summary.created.length = log.creations.length := by
  obtain ⟨p, error?, hpassage, rfl⟩ := attempt_passage hkind h
  show p.summary.created.length = _
  cases hpassage with
  | early hlog hsummary he =>
    rw [creations_of_framing hlog, hsummary]
    rfl
  | @through before pass after _ _ _ hlog hbefore hafter hpass =>
    rw [hlog, Log.creations_append, Log.creations_append, creations_of_framing hbefore,
      creations_of_framing hafter, List.nil_append, List.append_nil,
      length_created_applyDocuments hpass]
    exact Nat.zero_add _

/-! ## Attempts that are made side by side -/

/-- Attempts that are made side by side. -/
def attempts {ι : Type} (configs : ι → Config) (installations : ι → Installation) (m : Memory) :
    Ensemble ι Report :=
  ⟨fun k => attempt (configs k) (installations k), m⟩

section SideBySide

variable {ι : Type} [DecidableEq ι] {configs : ι → Config} {installations : ι → Installation}
  {m : Memory} {turns : List (Turn ι)}

def creations (configs : ι → Config) (installations : ι → Installation) (m : Memory)
    (turns : List (Turn ι)) : List (Key × Object) :=
  ((attempts configs installations m).log turns).calls.creations

/-- The objects after the attempts made their calls. -/
def objectsAfter (configs : ι → Config) (installations : ι → Installation) (m : Memory)
    (turns : List (Turn ι)) : List (Key × Object) :=
  ((attempts configs installations m).play turns).cluster.objects

theorem created_attempts :
    Memory.Created m.objects (objectsAfter configs installations m turns)
      (creations configs installations m turns) := by
  unfold objectsAfter
  rw [← Ensemble.through_play]
  exact Memory.created_through ((attempts configs installations m).answers_play turns)

/-- **Each object is created once, and none is lost**, in whatever turns attempts with bundles of
documents are made.  No two creations that go well have the same key, each of them adds its key with
its own object, put into the namespace of the key, and there is one entry in the summaries of the
attempts for each key that is added. -/
theorem attempts_create_once [Fintype ι] {reports : ι → Report}
    (hkind : ∀ k, (installations k).spec.kind = .rawBundle)
    (hdone : ∀ k, ((attempts configs installations m).play turns).result? k = some (reports k)) :
    let created := creations configs installations m turns
    let after := objectsAfter configs installations m turns
    (created.map (·.1)).Nodup ∧
      (∀ key, key ∈ Memory.addedKeys m.objects after ↔ ∃ o, (key, o) ∈ created) ∧
      (∀ key o, (key, o) ∈ created → m.objects.lookup key = none ∧
        ∃ o', after.lookup key = some o' ∧ o' = Memory.stored key o ∧
          o'.metadata.ns? = key.space) ∧
      (∀ key o, m.objects.lookup key = some o → after.lookup key = some o) ∧
      (Memory.addedKeys m.objects after).Nodup ∧
      ∑ k, (reports k).summary.created.length = (Memory.addedKeys m.objects after).length := by
  intro created after
  have hcreated : Memory.Created m.objects after created := created_attempts
  have hadded := hcreated.perm_addedKeys
  refine ⟨hcreated.nodup, fun key => ?_, fun key o ho => ?_, hcreated.kept, ?_, ?_⟩
  · rw [hadded.mem_iff, List.mem_map]
    exact ⟨fun ⟨x, hx, hkey⟩ => ⟨x.2, hkey ▸ hx⟩, fun ⟨o, ho⟩ => ⟨_, ho, rfl⟩⟩
  · exact ⟨hcreated.fresh _ ho, _, hcreated.bound _ ho, rfl, rfl⟩
  · exact hadded.nodup_iff.mpr hcreated.nodup
  · have hown : ∀ k, (reports k).summary.created.length =
        ((((attempts configs installations m).log turns).of k).filterMap creation?).length :=
      fun k => length_created_attempt (hkind k) (Ensemble.yields_of_result? (hdone k))
    rw [Finset.sum_congr rfl fun k _ => hown k, SharedLog.sum_of, hadded.length_eq,
      List.length_map]
    rfl

end SideBySide

/-- A bundle with one document, of a kind that is served from the start. -/
def servedBundle : Bytes :=
  Text.Utf8.ofString "{apiVersion: v1, kind: ConfigMap, metadata: {name: a}}"

/-- Of two attempts with one bundle, the one that is overtaken finds the object there. -/
theorem attempts_create_once_overtaken :
    let i := fun _ : Bool => Installation.new "demo" "http://[::1]/b" .rawBundle
    let turns := turnsOf false servedBundle 6 ++ turnsOf true servedBundle 10 ++
      turnsOf false servedBundle 4
    let reports : Bool → Report := fun k => ⟨some 1, .succeeded, none,
      if k then ⟨["ConfigMap/a"], []⟩ else ⟨[], [("ConfigMap/a", .alreadyThere)]⟩⟩
    (∀ k, ((attempts (fun _ => .standard) i .empty).play turns).result? k = some (reports k)) ∧
      (Memory.addedKeys [] (objectsAfter (fun _ => .standard) i .empty turns)).length = 1 := by
  intro i turns reports
  have hdone : ∀ k, ((attempts (fun _ => .standard) i .empty).play turns).result? k =
      some (reports k) := by decide +kernel
  have honce := attempts_create_once (m := .empty) (fun _ => rfl) hdone
  exact ⟨hdone, honce.2.2.2.2.2.symm.trans rfl⟩

end Install
end BundleInstaller
