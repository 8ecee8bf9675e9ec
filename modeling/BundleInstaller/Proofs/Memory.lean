import BundleInstaller.Cluster.Memory
import BundleInstaller.Proofs.Entries

/-!
# What a cluster in memory keeps

Whatever is asked of a `Memory`, it keeps its objects as they are and goes on serving what it
serves, and no failure comes up that it was not told of.  `Memory.Extends` is that relation between
two states.  Only the writing of a status touches an installation.

* `extends_answer`: answering a call leads to an extension.
* `get_ok_iff`, `create_settled_iff`: when a look and a creation go well.
* `posting`: what becomes of octets that are posted.
* `covers_catalog`: which triples are served.
* `lookup_answer`, `keyed_answer`: installations stay what they are, and where they are.
-/

namespace BundleInstaller.Cluster

namespace Memory

/-! ## Entries -/

section Entries

variable {κ α : Type} [BEq κ] [LawfulBEq κ]

theorem lookup_map_entry (key key' : κ) (value : α) (entries : List (κ × α)) :
    (entries.map fun e => if e.1 == key then (key, value) else e).lookup key' =
      (entries.lookup key').map fun old => if key' == key then value else old := by
  induction entries with
  | nil => rfl
  | cons e rest ih =>
    obtain ⟨k, old⟩ := e
    rw [List.map_cons]
    by_cases hk : key' = k
    · subst hk
      rw [List.lookup_cons_self]
      by_cases hkey : key' = key
      · simp [hkey]
      · simp [hkey]
    · rw [lookup_cons_of_ne hk, ← ih]
      by_cases hkey : k = key
      · subst hkey
        rw [if_pos (beq_self_eq_true k), lookup_cons_of_ne hk]
      · rw [if_neg (by simpa using hkey), lookup_cons_of_ne hk]

theorem lookup_setEntry (key key' : κ) (value : α) (entries : List (κ × α)) :
    (setEntry key value entries).lookup key' =
      if key' == key then some value else entries.lookup key' := by
  unfold setEntry
  have hany : entries.any (·.1 == key) = (entries.lookup key).isSome := by
    rw [Bool.eq_iff_iff, List.lookup_isSome_iff, List.any_eq_true]
    simp only [BEq.comm]
  rw [hany]
  by_cases hkey : key' = key
  · subst hkey
    cases hold : entries.lookup key' with
    | some old => simp [lookup_map_entry, hold]
    | none => simp [List.lookup_append, hold]
  · have hne : ¬(key' == key) = true := by simpa using hkey
    rw [if_neg hne]
    split
    · simp [lookup_map_entry, hkey]
    · rw [List.lookup_append, lookup_cons_of_ne hkey, List.lookup_nil, Option.or_none]

end Entries

theorem mem_insertObject {key : Key} {o : Object} {x : Key × Object} :
    ∀ {objects : List (Key × Object)},
      x ∈ insertObject key o objects ↔ x = (key, o) ∨ x ∈ objects := by
  intro objects
  induction objects with
  | nil => simp [insertObject]
  | cons e rest ih =>
    rw [insertObject]
    split
    · exact List.mem_cons
    · rw [List.mem_cons, List.mem_cons, ih]
      exact or_left_comm

theorem lookup_insertObject {key key' : Key} {o : Object} {objects : List (Key × Object)}
    (h : objects.lookup key = none) :
    (insertObject key o objects).lookup key' =
      if key' = key then some o else objects.lookup key' := by
  by_cases hkey : key' = key
  · subst hkey
    rw [if_pos rfl]
    induction objects with
    | nil => exact List.lookup_cons_self
    | cons e rest ih =>
      have hne : key' ≠ e.1 := by
        rintro rfl
        rw [List.lookup_cons_self] at h
        cases h
      rw [insertObject]
      split
      · exact List.lookup_cons_self
      · rw [lookup_cons_of_ne hne] at h ⊢
        exact ih h
  · rw [if_neg hkey]
    clear h
    induction objects with
    | nil => exact lookup_cons_of_ne hkey _ _
    | cons e rest ih =>
      rw [insertObject]
      split
      · exact lookup_cons_of_ne hkey _ _
      · rw [List.lookup_cons, List.lookup_cons, ih]

theorem takeFailure_eq_none_iff {key : Key} {failures : List ((String × String) × String)} :
    takeFailure key failures = none ↔ failures.lookup (key.kind, key.name) = none :=
  Option.map_eq_none_iff

theorem takeFailure_left {key : Key} {failures left : List ((String × String) × String)}
    {words : String} (h : takeFailure key failures = some (words, left)) (k : String × String)
    (hk : failures.lookup k = none) : left.lookup k = none := by
  obtain ⟨_, -, heq⟩ := Option.map_eq_some_iff.mp h
  cases heq
  exact List.filter_sublist.lookup_eq_none hk

end Memory

/-! ## What is served -/

namespace Catalog

/-- Whether a collection with this triple is served. -/
def Covers (catalog : Catalog) (triple : String × String × String) : Prop :=
  ∃ c ∈ catalog.collections, c.triple = triple

instance (catalog : Catalog) (triple : String × String × String) :
    Decidable (catalog.Covers triple) :=
  inferInstanceAs (Decidable (∃ c ∈ catalog.collections, c.triple = triple))

theorem find?_isSome_iff {catalog : Catalog} {group kind version : String} :
    (catalog.find? group kind version).isSome ↔ catalog.Covers (group, version, kind) := by
  simp [find?, Covers]

theorem find?_triple {catalog : Catalog} {group kind version : String} {place : Collection}
    (h : catalog.find? group kind version = some place) :
    place.triple = (group, version, kind) := by
  simpa using List.find?_some h

theorem covers_insert {catalog : Catalog} {c : Collection} {triple : String × String × String} :
    (catalog.insert c).Covers triple ↔ catalog.Covers triple ∨ c.triple = triple := by
  by_cases hc : c.triple = triple
  · exact ⟨fun _ => .inr hc, fun _ => ⟨c, List.mem_cons_self, hc⟩⟩
  · constructor
    · rintro ⟨d, hd, htriple⟩
      rcases List.mem_cons.mp hd with rfl | hd
      · exact .inr htriple
      · exact .inl ⟨d, (List.mem_filter.mp hd).1, htriple⟩
    · rintro (⟨d, hd, htriple⟩ | htriple)
      · refine ⟨d, List.mem_cons_of_mem _ (List.mem_filter.mpr ⟨hd, ?_⟩), htriple⟩
        rw [htriple, bne_iff_ne]
        exact fun heq => hc heq.symm
      · exact absurd htriple hc

theorem covers_ofList {cs : List Collection} {triple : String × String × String} :
    (ofList cs).Covers triple ↔ ∃ c ∈ cs, c.triple = triple := by
  have hfold : ∀ catalog : Catalog, (cs.foldl insert catalog).Covers triple ↔
      catalog.Covers triple ∨ ∃ c ∈ cs, c.triple = triple := by
    induction cs with
    | nil => simp
    | cons c cs ih =>
      intro catalog
      rw [List.foldl_cons, ih, covers_insert, or_assoc]
      simp only [List.mem_cons, or_and_right, exists_or, exists_eq_left]
  rw [ofList, hfold]
  simp [Covers, empty]

end Catalog

namespace Memory

theorem covers_catalog {m : Memory} {triple : String × String × String} :
    m.catalog.Covers triple ↔ (∃ c ∈ builtinCollections, c.triple = triple) ∨
      ∃ x ∈ m.objects, x.1.isDefinition ∧ ∃ c ∈ definedCollections x.2, c.triple = triple := by
  rw [catalog, Catalog.covers_ofList]
  simp only [List.mem_append, or_and_right, exists_or, learned, List.mem_flatMap, List.mem_filter]
  refine or_congr Iff.rfl ⟨?_, ?_⟩
  · rintro ⟨c, ⟨x, ⟨hx, hdefinition⟩, hc⟩, htriple⟩
    exact ⟨x, hx, hdefinition, c, hc, htriple⟩
  · rintro ⟨x, hx, hdefinition, c, hc, htriple⟩
    exact ⟨c, ⟨x, ⟨hx, hdefinition⟩, hc⟩, htriple⟩

/-! ## Looks and creations -/

theorem get_ok_iff {m : Memory} {place : Collection} {space : Option String} {name : String}
    {found : Option Object} :
    (m.get place space name).1 = .ok found ↔ m.getFailures.lookup (place.kind, name) = none ∧
      m.objects.lookup (Key.ofCollection place space name) = found := by
  unfold get
  dsimp only
  cases hfailure : takeFailure (Key.ofCollection place space name) m.getFailures with
  | none =>
    have hnone := takeFailure_eq_none_iff.mp hfailure
    exact ⟨fun h => ⟨hnone, Except.ok.inj h⟩, fun h => congrArg Except.ok h.2⟩
  | some failure =>
    refine ⟨fun h => (by cases h), fun h => ?_⟩
    rw [takeFailure_eq_none_iff.mpr h.1] at hfailure
    cases hfailure

theorem get_state (m : Memory) (place : Collection) (space : Option String) (name : String) :
    ∃ counts getFailures, (m.get place space name).2 =
      { m with counts := counts, getFailures := getFailures } := by
  unfold get
  dsimp only
  split
  · exact ⟨_, _, rfl⟩
  · exact ⟨_, _, rfl⟩

/-- Whether an answer to a creation says that the object is there. -/
def IsSettled : Except ClusterError Object → Prop
  | .ok _ => True
  | .error e => e.isAlreadyExists

theorem create_of_absent {m : Memory} {place : Collection} {space : Option String} {o : Object}
    {name : String} (hname : o.metadata.name? = some name)
    (hfailure : m.createFailures.lookup (place.kind, name) = none)
    (habsent : m.objects.lookup (Key.ofCollection place space name) = none) :
    ∃ counts, m.create place space o =
      (.ok (stored (Key.ofCollection place space name) o),
        { m with
          counts := counts
          objects := insertObject (Key.ofCollection place space name)
            (stored (Key.ofCollection place space name) o) m.objects }) := by
  have htake : takeFailure (Key.ofCollection place space name) m.createFailures = none :=
    takeFailure_eq_none_iff.mpr hfailure
  unfold create
  dsimp only
  simp only [hname, htake, habsent]
  exact ⟨_, rfl⟩

theorem create_of_present {m : Memory} {place : Collection} {space : Option String} {o : Object}
    {name : String} (hname : o.metadata.name? = some name)
    (hfailure : m.createFailures.lookup (place.kind, name) = none)
    (hpresent : (m.objects.lookup (Key.ofCollection place space name)).isSome) :
    ∃ counts, m.create place space o =
      (.error (.alreadyExists (Key.ofCollection place space name).display),
        { m with counts := counts }) := by
  have htake : takeFailure (Key.ofCollection place space name) m.createFailures = none :=
    takeFailure_eq_none_iff.mpr hfailure
  unfold create
  dsimp only
  simp only [hname, htake, hpresent]
  exact ⟨_, rfl⟩

/-- **An object is there after its creation if it has a name and nothing was told to fail.** -/
theorem create_settled_iff {m : Memory} {place : Collection} {space : Option String} {o : Object} :
    IsSettled (m.create place space o).1 ↔ ∃ name, o.metadata.name? = some name ∧
      m.createFailures.lookup (place.kind, name) = none := by
  constructor
  · intro h
    unfold create at h
    dsimp only at h
    cases hname : o.metadata.name? with
    | none =>
      simp only [hname] at h
      cases h
    | some name =>
      refine ⟨name, rfl, ?_⟩
      simp only [hname] at h
      cases hfailure : takeFailure (Key.ofCollection place space name) m.createFailures with
      | none => exact takeFailure_eq_none_iff.mp hfailure
      | some failure =>
        simp only [hfailure] at h
        cases h
  · rintro ⟨name, hname, hfailure⟩
    cases hobject : m.objects.lookup (Key.ofCollection place space name) with
    | none =>
      obtain ⟨_, heq⟩ := create_of_absent hname hfailure hobject
      rw [heq]
      trivial
    | some o =>
      obtain ⟨_, heq⟩ := create_of_present hname hfailure (Option.isSome_of_mem hobject)
      rw [heq]
      exact rfl

theorem lookup_create_of_ne {m : Memory} {place : Collection} {space : Option String} {o : Object}
    {key : Key}
    (h : ∀ name, o.metadata.name? = some name → key ≠ Key.ofCollection place space name) :
    (m.create place space o).2.objects.lookup key = m.objects.lookup key := by
  unfold create
  dsimp only
  split
  · rfl
  split
  · rfl
  split
  · rfl
  rename_i name hname _ hobject
  rw [Option.not_isSome_iff_eq_none] at hobject
  show List.lookup key (insertObject _ _ m.objects) = _
  rw [lookup_insertObject hobject, if_neg]
  apply h
  assumption

/-! ## Posts -/

/-- What a text that is posted is read as. -/
def readPosted (text : String) : Except Yaml.Fault Yaml.Value :=
  Yaml.Value.ofBytes (Text.Utf8.ofString text)

/-- What posting octets comes to. -/
inductive Posting (m : Memory) (path : String) (body : Bytes) : Prop
  | unreadable (counts : Counts) {fault : Yaml.Fault}
      (hread : readPosted (Text.Utf8.toStringLossy body) = .error fault)
      (h : m.post path body = (.error (.serialization fault.message), { m with counts := counts }))
  | present (counts : Counts) {v : Yaml.Value}
      (hread : readPosted (Text.Utf8.toStringLossy body) = .ok v) (hkey : postKey v ∈ m.postKeys)
      (h : m.post path body =
        (.error (.alreadyExists ((postKey v).1 ++ "/" ++ (postKey v).2)), { m with counts := counts }))
  | taken (counts : Counts) {v : Yaml.Value}
      (hread : readPosted (Text.Utf8.toStringLossy body) = .ok v) (hkey : postKey v ∉ m.postKeys)
      (h : m.post path body = (.ok (),
        { m with
          counts := counts
          postKeys := m.postKeys ++ [postKey v]
          posts := m.posts ++ [(path, Text.Utf8.toStringLossy body)] }))

/-- Octets that are posted are no document, or one that was there, or they are taken. -/
theorem posting (m : Memory) (path : String) (body : Bytes) : m.Posting path body := by
  let counts : Counts := { m.counts with posts := m.counts.posts + 1 }
  cases hread : readPosted (Text.Utf8.toStringLossy body) with
  | error fault =>
    refine .unreadable counts hread ?_
    unfold readPosted at hread
    unfold post
    simp only [hread]
    rfl
  | ok v =>
    by_cases hkey : postKey v ∈ m.postKeys
    · refine .present counts hread hkey ?_
      unfold readPosted at hread
      unfold post
      simp only [hread]
      rw [if_pos (List.contains_iff_mem.mpr hkey)]
    · refine .taken counts hread hkey ?_
      unfold readPosted at hread
      unfold post
      simp only [hread]
      rw [if_neg (by simpa using hkey)]

/-! ## Installations -/

/-- What every call but the writing of a status leaves as it is. -/
def KeepsInstallations (m m' : Memory) : Prop :=
  m'.installations = m.installations ∧ m'.failsNextStatus = m.failsNextStatus

theorem keepsInstallations_answer (m : Memory) {c : Call} (h : ∀ i, c ≠ .writeStatus i) :
    m.KeepsInstallations (m.answer c).2 := by
  cases c with
  | discover =>
    show m.KeepsInstallations m.discover.2
    unfold discover
    dsimp only
    split <;> exact ⟨rfl, rfl⟩
  | get place space name =>
    obtain ⟨_, _, hstate⟩ := get_state m place space name
    show m.KeepsInstallations (m.get place space name).2
    rw [hstate]
    exact ⟨rfl, rfl⟩
  | create place space o =>
    show m.KeepsInstallations (m.create place space o).2
    unfold create
    dsimp only
    split
    · exact ⟨rfl, rfl⟩
    split
    · exact ⟨rfl, rfl⟩
    split <;> exact ⟨rfl, rfl⟩
  | post path body =>
    show m.KeepsInstallations (m.post path body).2
    unfold post
    dsimp only
    split
    · exact ⟨rfl, rfl⟩
    · split <;> exact ⟨rfl, rfl⟩
  | readInstallation name => exact ⟨rfl, rfl⟩
  | writeStatus i => exact absurd rfl (h i)

/-- The writing of a status changes at most the status and the version of one installation. -/
theorem writeStatus_state (m : Memory) (i : Installation) :
    ∃ counts failsNextStatus installations, (m.writeStatus i).2 =
        { m with
          counts := counts
          failsNextStatus := failsNextStatus
          installations := installations } ∧
      (installations = m.installations ∨ ∃ old new, m.installations.lookup i.anyName = some old ∧
        new.anyName = old.anyName ∧ installations = setEntry i.anyName new m.installations) := by
  unfold writeStatus
  dsimp only
  split
  · exact ⟨_, _, _, rfl, .inl rfl⟩
  split
  · exact ⟨_, _, _, rfl, .inl rfl⟩
  rename_i old hold
  split
  · exact ⟨_, _, _, rfl, .inl rfl⟩
  · refine ⟨_, _, _, rfl, .inr ⟨old, _, hold, ?_, rfl⟩⟩
    rfl

theorem writeStatus_of_conflict {m : Memory} {i : Installation} (h : m.failsNextStatus = true) :
    ∃ counts e, m.writeStatus i =
      (.error e, { m with counts := counts, failsNextStatus := false }) := by
  unfold writeStatus
  dsimp only
  rw [if_pos h]
  exact ⟨_, _, rfl⟩

theorem writeStatus_of_current {m : Memory} {i old : Installation} (h : m.failsNextStatus = false)
    (hold : m.installations.lookup i.anyName = some old)
    (hversion : old.metadata.resourceVersion? = i.metadata.resourceVersion?) :
    ∃ counts new, m.writeStatus i = (.ok new,
        { m with
          counts := counts
          installations := setEntry i.anyName new m.installations }) ∧
      new.status? = i.status? ∧ new.spec = old.spec ∧ new.anyName = old.anyName := by
  unfold writeStatus
  dsimp only
  rw [if_neg (by rw [h]; decide), hold]
  dsimp only
  rw [if_neg (by rw [hversion]; simp)]
  exact ⟨_, _, rfl, rfl, rfl, rfl⟩

/-- Every installation is stored under its name. -/
def Keyed (m : Memory) : Prop := ∀ name i, m.installations.lookup name = some i → i.anyName = name

theorem Keyed.setEntry {m : Memory} {i : Installation} (h : m.Keyed) :
    Keyed { m with installations := setEntry i.anyName i m.installations } := by
  intro name j hj
  rw [lookup_setEntry] at hj
  split at hj
  · rename_i hname
    cases hj
    exact (eq_of_beq hname).symm
  · exact h name j hj

theorem keyed_answer {m : Memory} {c : Call} (h : m.Keyed) : (m.answer c).2.Keyed := by
  by_cases hc : ∃ i, c = .writeStatus i
  · obtain ⟨i, rfl⟩ := hc
    obtain ⟨_, _, _, hstate, hinstallations⟩ := writeStatus_state m i
    show (m.writeStatus i).2.Keyed
    rw [hstate]
    rcases hinstallations with rfl | ⟨old, new, hold, hnew, rfl⟩
    · exact h
    · have hname : new.anyName = i.anyName := hnew.trans (h _ _ hold)
      rw [← hname]
      exact h.setEntry
  · have hkeeps := (m.keepsInstallations_answer fun i hi => hc ⟨i, hi⟩).1
    intro name j hj
    rw [hkeeps] at hj
    exact h name j hj

/-- A call touches no installation but the one that it writes the status of. -/
theorem lookup_answer {m : Memory} {c : Call} {name : String}
    (h : ∀ i, c = .writeStatus i → i.anyName ≠ name) :
    (m.answer c).2.installations.lookup name = m.installations.lookup name := by
  by_cases hc : ∃ i, c = .writeStatus i
  · obtain ⟨i, rfl⟩ := hc
    obtain ⟨_, _, _, hstate, hinstallations⟩ := writeStatus_state m i
    show (m.writeStatus i).2.installations.lookup name = _
    rw [hstate]
    rcases hinstallations with rfl | ⟨old, new, -, -, rfl⟩
    · rfl
    · show (Memory.setEntry i.anyName new m.installations).lookup name = _
      rw [lookup_setEntry, if_neg]
      intro hname
      exact h i rfl (eq_of_beq hname).symm
  · rw [(m.keepsInstallations_answer fun i hi => hc ⟨i, hi⟩).1]

/-! ## Extensions -/

/-- The second state has the objects of the first one and no failures that it has not. -/
structure Extends (m m' : Memory) : Prop where
  entries : ∀ x ∈ m.objects, x ∈ m'.objects
  objects : ∀ key o, m.objects.lookup key = some o → m'.objects.lookup key = some o
  createFailures : ∀ k, m.createFailures.lookup k = none → m'.createFailures.lookup k = none
  getFailures : ∀ k, m.getFailures.lookup k = none → m'.getFailures.lookup k = none
  failsDiscovery : m'.failsDiscovery = m.failsDiscovery

namespace Extends

theorem refl (m : Memory) : m.Extends m :=
  ⟨fun _ h => h, fun _ _ h => h, fun _ h => h, fun _ h => h, rfl⟩

theorem trans {m₁ m₂ m₃ : Memory} (h₁ : m₁.Extends m₂) (h₂ : m₂.Extends m₃) : m₁.Extends m₃ where
  entries x hx := h₂.entries x (h₁.entries x hx)
  objects key o ho := h₂.objects key o (h₁.objects key o ho)
  createFailures k hk := h₂.createFailures k (h₁.createFailures k hk)
  getFailures k hk := h₂.getFailures k (h₁.getFailures k hk)
  failsDiscovery := h₂.failsDiscovery.trans h₁.failsDiscovery

theorem covers {m m' : Memory} (h : m.Extends m') {triple : String × String × String}
    (ht : m.catalog.Covers triple) : m'.catalog.Covers triple := by
  rw [covers_catalog] at ht ⊢
  refine ht.imp id ?_
  rintro ⟨x, hx, hdefinition⟩
  exact ⟨x, h.entries x hx, hdefinition⟩

end Extends

theorem extends_of_eq {m m' : Memory} (hobjects : m'.objects = m.objects)
    (hcreate : m'.createFailures = m.createFailures) (hget : m'.getFailures = m.getFailures)
    (hdiscovery : m'.failsDiscovery = m.failsDiscovery) : m.Extends m' where
  entries := by rw [hobjects]; exact fun _ h => h
  objects := by rw [hobjects]; exact fun _ _ h => h
  createFailures := by rw [hcreate]; exact fun _ h => h
  getFailures := by rw [hget]; exact fun _ h => h
  failsDiscovery := hdiscovery

theorem extends_get (m : Memory) (place : Collection) (space : Option String) (name : String) :
    m.Extends (m.get place space name).2 := by
  unfold get
  dsimp only
  split
  · rename_i words left hfailure
    exact { Extends.refl m with getFailures := takeFailure_left hfailure }
  · exact extends_of_eq rfl rfl rfl rfl

theorem extends_create (m : Memory) (place : Collection) (space : Option String) (o : Object) :
    m.Extends (m.create place space o).2 := by
  unfold create
  dsimp only
  split
  · exact extends_of_eq rfl rfl rfl rfl
  split
  · rename_i words left hfailure
    exact { Extends.refl m with createFailures := takeFailure_left hfailure }
  split
  · exact extends_of_eq rfl rfl rfl rfl
  rename_i hobject
  rw [Option.not_isSome_iff_eq_none] at hobject
  exact
    { Extends.refl m with
      entries := fun x hx => mem_insertObject.mpr (.inr hx)
      objects := fun key' o' ho' => by
        show List.lookup key' (insertObject _ _ m.objects) = some o'
        rw [lookup_insertObject hobject, if_neg, ho']
        rintro rfl
        rw [hobject] at ho'
        cases ho' }

/-- **Answering a call leads to an extension.** -/
theorem extends_answer (m : Memory) (c : Call) : m.Extends (m.answer c).2 := by
  cases c with
  | discover =>
    show m.Extends m.discover.2
    unfold discover
    dsimp only
    split <;> exact extends_of_eq rfl rfl rfl rfl
  | get place space name => exact extends_get m place space name
  | create place space o => exact extends_create m place space o
  | post path body =>
    show m.Extends (m.post path body).2
    unfold post
    dsimp only
    split
    · exact extends_of_eq rfl rfl rfl rfl
    · split <;> exact extends_of_eq rfl rfl rfl rfl
  | readInstallation name => exact extends_of_eq rfl rfl rfl rfl
  | writeStatus i =>
    obtain ⟨_, _, _, hstate, -⟩ := writeStatus_state m i
    show m.Extends (m.writeStatus i).2
    rw [hstate]
    exact extends_of_eq rfl rfl rfl rfl

end Memory
end BundleInstaller.Cluster
