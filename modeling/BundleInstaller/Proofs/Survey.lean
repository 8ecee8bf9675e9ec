import Mathlib.Data.List.Pairwise
import BundleInstaller.Cluster.Client
import BundleInstaller.Proofs.Transcript

/-!
# What a run of discovery finds

A run of discovery reads the list of the groups, the resources of every version of each of them, and
then the same of the core group.  What it has read of a group is a `Survey`.  Of two surveys of one
group only the last one counts, and the core group comes after all others.

* `Discovers`: the surveys of a run, told by its log.
* `found`: the collections that surveys come to, in the order in which they are added.
* `discover_yields_iff`: a run that goes well comes to the catalog of what its surveys found.
-/

namespace BundleInstaller.Cluster.Client

open Http Program

/-- Requests, each with its answer. -/
abbrev Log := List (Answered Request Http.Answer)

/-- What was read of a group: the resources of each of its versions. -/
structure Survey where
  name : String
  lists : List (String × ResourceList)

/-- The collections of a group. -/
def Survey.collections (s : Survey) : List Collection := groupCollections s.lists

/-- Of all surveys of one group the last one. -/
def latest (surveys : List Survey) : List Survey := surveys.pwFilter fun s t => s.name ≠ t.name

/-- The collections that are found, group by group. -/
def found (surveys : List Survey) : List Collection := (latest surveys).flatMap (·.collections)

/-! ## Runs -/

/-- A log of reading the resources of groups, one after another. -/
inductive Surveys : List Group → Log → List Survey → Prop
  | nil : Surveys [] [] []
  | cons {g : Group} {rest : List Group} {here after : Log} {lists : List (String × ResourceList)}
      {surveys : List Survey} (hversions : g.versions ≠ [])
      (hlists : (lookVersions (g.versions.map fun v =>
        ("/apis/" ++ v.groupVersion, v.version))).Yields here (.ok lists))
      (hrest : Surveys rest after surveys) :
      Surveys (g :: rest) (here ++ after) (⟨g.name, lists⟩ :: surveys)

/-- A log of a run of discovery in which everything could be read. -/
inductive Discovers : Log → List Survey → Prop
  | intro {apis named api core : Log} {groups : List Group} {surveys : List Survey}
      {versions : List String} {lists : List (String × ResourceList)}
      (hgroups : (look "/apis" readGroups).Yields apis (.ok groups))
      (hnamed : Surveys groups named surveys)
      (hapi : (look "/api" readVersions).Yields api (.ok versions))
      (hversions : versions ≠ [])
      (hcore : (lookVersions (versions.map fun v => ("/api/" ++ v, v))).Yields core (.ok lists)) :
      Discovers (apis ++ (named ++ (api ++ core))) (surveys ++ [⟨coreGroup, lists⟩])

section

variable {α β : Type} {log : Log}

/-- An exchange that gives up at the first fault goes well just if all of its parts do. -/
theorem yields_bind_ok_iff {p : Exchange (Outcome α)} {f : Outcome α → Exchange (Outcome β)} {b : β}
    (hf : ∀ fault, f (.error fault) = done (.error fault)) :
    (p >>= f).Yields log (.ok b) ↔ ∃ before a after, log = before ++ after ∧
      p.Yields before (.ok a) ∧ (f (.ok a)).Yields after (.ok b) := by
  rw [yields_bind_iff]
  constructor
  · rintro ⟨before, x, after, hlog, hp, hrest⟩
    cases x with
    | error fault =>
      rw [hf] at hrest
      cases (yields_done_iff.mp hrest).2
    | ok a => exact ⟨before, a, after, hlog, hp, hrest⟩
  · rintro ⟨before, a, after, hlog, hp, hrest⟩
    exact ⟨before, .ok a, after, hlog, hp, hrest⟩

theorem look_yields {read : Json.Cursor → Json.Read α} {path : String} {target : Target}
    {response : Response} {a : α} (htarget : Target.read path = .ok target)
    (hread : receive read (textOf response) = .ok a) :
    (look path read).Yields [⟨getRequest target, .ok response⟩] (.ok a) := by
  unfold look
  rw [htarget, ← hread]
  exact .ask (.done _)

theorem lookVersions_yields_cons {path version : String} {rest : List (String × String)}
    {here after : Log} {list : ResourceList} {lists : List (String × ResourceList)}
    (hlist : (look path ResourceList.read).Yields here (.ok list))
    (hrest : (lookVersions rest).Yields after (.ok lists)) :
    (lookVersions ((path, version) :: rest)).Yields (here ++ after)
      (.ok ((version, list) :: lists)) := by
  unfold lookVersions
  refine (yields_bind_ok_iff (by exact fun _ => rfl)).mpr ⟨here, list, after, rfl, hlist, ?_⟩
  refine (yields_bind_ok_iff (by exact fun _ => rfl)).mpr
    ⟨after, lists, [], (List.append_nil _).symm, hrest, ?_⟩
  exact .done _

theorem lookGroup_yields_iff {name : String} {versions : List (String × String)}
    {cs : List Collection} :
    (lookGroup name versions).Yields log (.ok cs) ↔ versions ≠ [] ∧
      ∃ lists, (lookVersions versions).Yields log (.ok lists) ∧ cs = groupCollections lists := by
  unfold lookGroup
  cases versions with
  | nil =>
    constructor
    · intro h
      cases (yields_done_iff.mp h).2
    · exact fun h => absurd rfl h.1
  | cons v rest =>
    rw [if_neg (by simp)]
    refine (yields_bind_ok_iff (by exact fun _ => rfl)).trans ⟨?_, ?_⟩
    · rintro ⟨before, lists, after, rfl, hlists, hdone⟩
      obtain ⟨rfl, hcs⟩ := yields_done_iff.mp hdone
      rw [List.append_nil]
      exact ⟨List.cons_ne_nil _ _, lists, hlists, Except.ok.inj hcs⟩
    · rintro ⟨-, lists, hlists, rfl⟩
      exact ⟨log, lists, [], (List.append_nil _).symm, hlists, .done _⟩

theorem latest_cons (s : Survey) (rest : List Survey) :
    latest (s :: rest) = if (latest rest).any (·.name == s.name) then latest rest
      else s :: latest rest := by
  unfold latest
  split
  · rename_i hany
    obtain ⟨t, ht, hname⟩ := List.any_eq_true.mp hany
    exact List.pwFilter_cons_of_neg fun h => h t ht (beq_iff_eq.mp hname).symm
  · rename_i hany
    refine List.pwFilter_cons_of_pos fun t ht hname => hany (List.any_eq_true.mpr ⟨t, ht, ?_⟩)
    exact beq_iff_eq.mpr hname.symm

/-- What is read of named groups is what the latest surveys of them tell. -/
theorem lookGroups_yields_iff {groups : List Group} {named : List (String × List Collection)} :
    (lookGroups groups).Yields log (.ok named) ↔ ∃ surveys, Surveys groups log surveys ∧
      named = (latest surveys).map fun s => (s.name, s.collections) := by
  induction groups generalizing log named with
  | nil =>
    refine yields_done_iff.trans ⟨?_, ?_⟩
    · rintro ⟨rfl, h⟩
      exact ⟨[], .nil, Except.ok.inj h⟩
    · rintro ⟨surveys, h, rfl⟩
      cases h
      exact ⟨rfl, rfl⟩
  | cons g rest ih =>
    have hstep : ∀ s surveys, (if ((latest surveys).map fun s => (s.name, s.collections)).any
        (·.1 == s.name) then (latest surveys).map fun s => (s.name, s.collections)
        else (s.name, s.collections) :: (latest surveys).map fun s => (s.name, s.collections)) =
        (latest (s :: surveys)).map fun s => (s.name, s.collections) := by
      intro s surveys
      rw [latest_cons, List.any_map, apply_ite (List.map _)]
      rfl
    unfold lookGroups
    refine (yields_bind_ok_iff (by exact fun _ => rfl)).trans ⟨?_, ?_⟩
    · rintro ⟨here, cs, after, rfl, hgroup, hrest⟩
      obtain ⟨hversions, lists, hlists, rfl⟩ := lookGroup_yields_iff.mp hgroup
      obtain ⟨before, others, last, rfl, hothers, hdone⟩ :=
        (yields_bind_ok_iff (by exact fun _ => rfl)).mp hrest
      obtain ⟨surveys, hsurveys, rfl⟩ := ih.mp hothers
      obtain ⟨rfl, hnamed⟩ := yields_done_iff.mp hdone
      rw [List.append_nil]
      exact ⟨_, .cons (mt (congrArg (List.map _)) hversions) hlists hsurveys,
        (Except.ok.inj hnamed).trans (hstep ⟨g.name, lists⟩ surveys)⟩
    · rintro ⟨_, h, rfl⟩
      cases h with
      | @cons _ _ here after lists surveys hversions hlists hrest =>
        refine ⟨here, _, after, rfl, lookGroup_yields_iff.mpr ⟨mt List.map_eq_nil_iff.mp hversions,
          lists, hlists, rfl⟩, ?_⟩
        refine (yields_bind_ok_iff (by exact fun _ => rfl)).mpr ⟨after, _, [],
          (List.append_nil _).symm, ih.mpr ⟨surveys, hrest, rfl⟩, ?_⟩
        rw [← hstep]
        exact .done _

/-- The core group takes the place of every group that has its name. -/
theorem latest_concat (surveys : List Survey) (core : Survey) :
    latest (surveys ++ [core]) = (latest surveys).filter (·.name != core.name) ++ [core] := by
  induction surveys with
  | nil => rfl
  | cons s rest ih =>
    rw [List.cons_append, latest_cons, latest_cons, ih]
    by_cases hcore : s.name = core.name
    · have hany : ((latest rest).filter (·.name != core.name) ++ [core]).any
          (·.name == s.name) = true :=
        List.any_eq_true.mpr ⟨core, by simp, by simp [hcore]⟩
      rw [if_pos hany]
      split
      · rfl
      · rw [List.filter_cons_of_neg (by simpa using hcore)]
    · have hany : ((latest rest).filter (·.name != core.name) ++ [core]).any (·.name == s.name) =
          (latest rest).any (·.name == s.name) := by
        rw [Bool.eq_iff_iff, List.any_eq_true, List.any_eq_true]
        simp only [beq_iff_eq]
        constructor
        · rintro ⟨t, ht, hname⟩
          rcases List.mem_append.mp ht with ht | ht
          · exact ⟨t, (List.mem_filter.mp ht).1, hname⟩
          · rw [List.mem_singleton.mp ht] at hname
            exact absurd hname.symm hcore
        · rintro ⟨t, ht, hname⟩
          refine ⟨t, List.mem_append_left _ (List.mem_filter.mpr ⟨ht, ?_⟩), hname⟩
          rw [hname, bne_iff_ne]
          exact hcore
      rw [hany]
      split
      · rfl
      · rw [List.filter_cons_of_pos (by simpa using hcore), List.cons_append]

/-- **A run of discovery that goes well comes to what its surveys found.** -/
theorem discover_yields_iff {catalog : Catalog} :
    discover.Yields log (.ok catalog) ↔
      ∃ surveys, Discovers log surveys ∧ catalog = .ofList (found surveys) := by
  have hfound : ∀ surveys lists, (((latest surveys).map fun s => (s.name, s.collections)).filter
      (·.1 != coreGroup)).flatMap (·.2) ++ groupCollections lists =
        found (surveys ++ [⟨coreGroup, lists⟩]) := by
    intro surveys lists
    rw [found, latest_concat, List.flatMap_append, List.flatMap_singleton, List.filter_map,
      List.flatMap_map]
    rfl
  unfold discover
  refine (yields_bind_ok_iff (by exact fun _ => rfl)).trans ⟨?_, ?_⟩
  · rintro ⟨apis, groups, _, rfl, hgroups, h⟩
    obtain ⟨named, lists, _, rfl, hnamed, h⟩ := (yields_bind_ok_iff (by exact fun _ => rfl)).mp h
    obtain ⟨api, versions, _, rfl, hapi, h⟩ := (yields_bind_ok_iff (by exact fun _ => rfl)).mp h
    obtain ⟨core, cs, _, rfl, hcore, h⟩ := (yields_bind_ok_iff (by exact fun _ => rfl)).mp h
    obtain ⟨surveys, hsurveys, rfl⟩ := lookGroups_yields_iff.mp hnamed
    obtain ⟨hversions, coreLists, hlists, rfl⟩ := lookGroup_yields_iff.mp hcore
    obtain ⟨rfl, hcatalog⟩ := yields_done_iff.mp h
    rw [List.append_nil]
    refine ⟨_, .intro hgroups hsurveys hapi (mt (congrArg (List.map _)) hversions) hlists, ?_⟩
    rw [← hfound]
    exact Except.ok.inj hcatalog
  · rintro ⟨_, ⟨hgroups, hsurveys, hapi, hversions, hlists⟩, rfl⟩
    rw [← hfound]
    refine ⟨_, _, _, rfl, hgroups, ?_⟩
    refine (yields_bind_ok_iff (by exact fun _ => rfl)).mpr
      ⟨_, _, _, rfl, lookGroups_yields_iff.mpr ⟨_, hsurveys, rfl⟩, ?_⟩
    refine (yields_bind_ok_iff (by exact fun _ => rfl)).mpr ⟨_, _, _, rfl, hapi, ?_⟩
    refine (yields_bind_ok_iff (by exact fun _ => rfl)).mpr ⟨_, _, [], (List.append_nil _).symm,
      lookGroup_yields_iff.mpr ⟨mt List.map_eq_nil_iff.mp hversions, _, hlists, rfl⟩, ?_⟩
    exact .done _

end
end BundleInstaller.Cluster.Client
