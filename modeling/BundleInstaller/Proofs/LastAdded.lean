import Mathlib.Data.List.Dedup
import Mathlib.Data.List.Induction
import BundleInstaller.Proofs.Memory
import BundleInstaller.Proofs.Survey

/-!
# The collection that was added last

A catalog comes about by adding collections, one after another: those of a list, those that a run of
discovery finds, and single ones.  Of the collections with one triple it keeps the last one, and
finds it by exactly this triple; of the order of collections with different triples nothing is seen.

* `find?_insert`: what one more collection changes.
* `find?_ofList`, `size_ofList`: which of the collections that were added are kept, and how many.
* `sameAnswers_of_perm`: collections with different triples may be added in any order.
* `Filled`: how a catalog comes about.
* `last_added_counts`: all that a catalog answers, told by what was added to it.
-/

namespace BundleInstaller.Cluster

/-- The collection is the place for objects of this kind in this version of the group. -/
structure Collection.IsFor (c : Collection) (group kind version : String) : Prop where
  group : c.group = group
  kind : c.kind = kind
  version : c.version = version

theorem Collection.triple_eq_iff {c : Collection} {group kind version : String} :
    c.triple = (group, version, kind) ↔ c.IsFor group kind version := by
  rw [triple, Prod.mk.injEq, Prod.mk.injEq]
  exact ⟨fun h => ⟨h.1, h.2.2, h.2.1⟩, fun h => ⟨h.group, h.version, h.kind⟩⟩

namespace Catalog

variable {catalog : Catalog} {cs : List Collection} {group kind version : String}

/-! ## One more collection -/

theorem find?_insert (c : Collection) :
    (catalog.insert c).find? group kind version =
      if c.triple = (group, version, kind) then some c else catalog.find? group kind version := by
  unfold find? insert
  by_cases hc : c.triple = (group, version, kind)
  · rw [if_pos hc, List.find?_cons_of_pos (by simpa using hc)]
  · rw [if_neg hc, List.find?_cons_of_neg (by simpa using hc), List.find?_filter]
    congr 1
    funext d
    rw [Bool.eq_iff_iff, decide_eq_true_iff, and_iff_right_iff_imp]
    intro hd
    rw [beq_iff_eq.mp hd, bne_iff_ne]
    exact Ne.symm hc

/-- No two collections have the same triple. -/
def Distinct (catalog : Catalog) : Prop := (catalog.collections.map Collection.triple).Nodup

theorem Distinct.insert (h : catalog.Distinct) (c : Collection) : (catalog.insert c).Distinct := by
  refine List.nodup_cons.mpr ⟨fun hc => ?_, (List.filter_sublist.map _).nodup h⟩
  obtain ⟨d, hd, htriple⟩ := List.mem_map.mp hc
  exact bne_iff_ne.mp (List.mem_filter.mp hd).2 htriple

/-! ## One collection after another -/

theorem ofList_concat (cs : List Collection) (c : Collection) :
    ofList (cs ++ [c]) = (ofList cs).insert c := List.foldl_concat _ _ _ _

/-- **The search goes from what was added last to what was added first.** -/
theorem find?_ofList : (ofList cs).find? group kind version =
    cs.reverse.find? (·.triple == (group, version, kind)) := by
  induction cs using List.reverseRecOn with
  | nil => rfl
  | append_singleton cs c ih =>
    rw [ofList_concat, find?_insert, List.reverse_concat, ih]
    by_cases hc : c.triple = (group, version, kind)
    · rw [if_pos hc, List.find?_cons_of_pos (by simpa using hc)]
    · rw [if_neg hc, List.find?_cons_of_neg (by simpa using hc)]

theorem distinct_ofList (cs : List Collection) : (ofList cs).Distinct := by
  induction cs using List.reverseRecOn with
  | nil => exact List.nodup_nil
  | append_singleton cs c ih =>
    rw [ofList_concat]
    exact ih.insert c

/-- **A catalog has as many collections as there are triples among those that were added.** -/
theorem size_ofList : (ofList cs).size = (cs.map Collection.triple).dedup.length := by
  have hmem : ∀ triple, triple ∈ (ofList cs).collections.map Collection.triple ↔
      triple ∈ (cs.map Collection.triple).dedup := by
    intro triple
    rw [List.mem_dedup, List.mem_map, List.mem_map]
    exact covers_ofList
  have hperm := (List.perm_ext_iff_of_nodup (distinct_ofList cs) (List.nodup_dedup _)).mpr hmem
  rw [size, ← List.length_map Collection.triple]
  exact hperm.length_eq

/-- What is found was added last of all that have its group, kind and version. -/
theorem find?_ofList_eq_some_iff {c : Collection} :
    (ofList cs).find? group kind version = some c ↔ c.IsFor group kind version ∧
      ∃ before after, cs = before ++ c :: after ∧ ∀ d ∈ after, ¬d.IsFor group kind version := by
  rw [find?_ofList, List.find?_eq_some_iff_append, beq_iff_eq, Collection.triple_eq_iff]
  simp only [Bool.not_eq_true', beq_eq_false_iff_ne, ne_eq, Collection.triple_eq_iff]
  refine and_congr Iff.rfl ⟨?_, ?_⟩
  · rintro ⟨after, before, hcs, hafter⟩
    refine ⟨before.reverse, after.reverse, ?_, fun d hd => hafter d (List.mem_reverse.mp hd)⟩
    rw [← List.reverse_reverse cs, hcs]
    simp
  · rintro ⟨before, after, rfl, hafter⟩
    exact ⟨after.reverse, before.reverse, by simp, fun d hd => hafter d (List.mem_reverse.mp hd)⟩

theorem find?_ofList_eq_none_iff :
    (ofList cs).find? group kind version = none ↔ ∀ c ∈ cs, ¬c.IsFor group kind version := by
  rw [find?_ofList, List.find?_eq_none]
  simp only [List.mem_reverse, beq_iff_eq, Collection.triple_eq_iff]

/-! ## Order -/

/-- Whatever is asked of them, the catalogs answer the same. -/
structure SameAnswers (a b : Catalog) : Prop where
  find? : ∀ group kind version, a.find? group kind version = b.find? group kind version
  size : a.size = b.size
  isEmpty : a.isEmpty = b.isEmpty

theorem isEmpty_eq (catalog : Catalog) : catalog.isEmpty = (catalog.size == 0) := by
  unfold isEmpty size
  cases catalog.collections <;> rfl

/-- If all triples are different, everything that was added is found. -/
theorem find?_ofList_eq_some_iff_mem (h : (cs.map Collection.triple).Nodup) {c : Collection} :
    (ofList cs).find? group kind version = some c ↔ c ∈ cs ∧ c.IsFor group kind version := by
  constructor
  · intro hfound
    obtain ⟨hc, before, after, rfl, -⟩ := find?_ofList_eq_some_iff.mp hfound
    exact ⟨List.mem_append_right _ List.mem_cons_self, hc⟩
  · rintro ⟨hmem, hc⟩
    cases hfound : (ofList cs).find? group kind version with
    | none => exact absurd hc (find?_ofList_eq_none_iff.mp hfound c hmem)
    | some d =>
      obtain ⟨hd, before, after, hcs, -⟩ := find?_ofList_eq_some_iff.mp hfound
      have hdmem : d ∈ cs := hcs ▸ List.mem_append_right _ List.mem_cons_self
      have htriple : d.triple = c.triple :=
        (Collection.triple_eq_iff.mpr hd).trans (Collection.triple_eq_iff.mpr hc).symm
      rw [List.inj_on_of_nodup_map h hdmem hmem htriple]

/-- **The order of collections with different triples is never seen.** -/
theorem sameAnswers_of_perm {cs' : List Collection} (hperm : cs.Perm cs')
    (h : (cs.map Collection.triple).Nodup) : SameAnswers (ofList cs) (ofList cs') := by
  have hsize : (ofList cs).size = (ofList cs').size := by
    rw [size_ofList, size_ofList]
    exact ((hperm.map _).dedup).length_eq
  refine ⟨fun group kind version => Option.ext fun c => ?_, hsize, ?_⟩
  · rw [find?_ofList_eq_some_iff_mem h,
      find?_ofList_eq_some_iff_mem (((hperm.map _).nodup_iff).mp h), hperm.mem_iff]
  · rw [isEmpty_eq, isEmpty_eq, hsize]

/-! ## Histories -/

/-- The catalog comes about by adding these collections, in this order.  A run of discovery that
goes well always has surveys, and comes to what they found (`Client.discover_yields_iff`). -/
inductive Filled : Catalog → List Collection → Prop
  | ofList (cs : List Collection) : Filled (.ofList cs) cs
  | discovered {log : Client.Log} {catalog : Catalog} {surveys : List Client.Survey}
      (hrun : Client.discover.Yields log (.ok catalog)) (hsurveys : Client.Discovers log surveys) :
      Filled catalog (Client.found surveys)
  | insert {catalog : Catalog} {cs : List Collection} (h : Filled catalog cs) (c : Collection) :
      Filled (catalog.insert c) (cs ++ [c])

theorem Filled.eq_ofList (h : Filled catalog cs) : catalog = .ofList cs := by
  induction h with
  | ofList cs => rfl
  | discovered hrun hsurveys =>
    have hfound := Client.discover_yields_iff.mpr ⟨_, hsurveys, rfl⟩
    exact Except.ok.inj (hrun.unique hfound)
  | insert h c ih => rw [ih, ofList_concat]

/-- **The order in which discovery goes through the groups is never seen**, provided that no two of
them tell of the same kind in the same version. -/
theorem sameAnswers_of_order {log : Client.Log} {surveys order : List Client.Survey}
    (hrun : Client.discover.Yields log (.ok catalog)) (hsurveys : Client.Discovers log surveys)
    (horder : (Client.latest surveys).Perm order)
    (hdistinct : ((Client.found surveys).map Collection.triple).Nodup) :
    SameAnswers catalog (.ofList (order.flatMap (·.collections))) := by
  rw [(Filled.discovered hrun hsurveys).eq_ofList]
  exact sameAnswers_of_perm (horder.flatMap_right _) hdistinct

/-- **What was added last counts.**  Asked for a group, a kind and a version, a catalog gives the
last collection that was added to it with just these, and nothing if there is none.  It has as many
collections as different triples were added, and if all of them are different, the order in which
they were added makes no difference. -/
theorem last_added_counts (h : Filled catalog cs) :
    (∀ group kind version,
      (∀ c, catalog.find? group kind version = some c ↔ c.IsFor group kind version ∧
        ∃ before after, cs = before ++ c :: after ∧ ∀ d ∈ after, ¬d.IsFor group kind version) ∧
      (catalog.find? group kind version = none ↔ ∀ c ∈ cs, ¬c.IsFor group kind version)) ∧
    catalog.size = (cs.map Collection.triple).dedup.length ∧
    ∀ {other : Catalog} {cs' : List Collection}, Filled other cs' → cs.Perm cs' →
      (cs.map Collection.triple).Nodup → SameAnswers catalog other := by
  rw [h.eq_ofList]
  refine ⟨fun group kind version => ⟨fun c => find?_ofList_eq_some_iff, find?_ofList_eq_none_iff⟩,
    size_ofList, fun h' hperm hdistinct => ?_⟩
  rw [h'.eq_ofList]
  exact sameAnswers_of_perm hperm hdistinct

section

open Client

/-- A version in which there is one kind. -/
def single (groupVersion name kind : String) : ResourceList :=
  ⟨groupVersion, [⟨name, kind, true, none, none⟩]⟩

theorem groupCollections_single (version groupVersion kind : String) {name : String}
    (hname : '/' ∉ name.toList) :
    groupCollections [(version, single groupVersion name kind)] =
      [⟨(splitGroupVersion groupVersion).1, (splitGroupVersion groupVersion).2, kind, name,
        .namespaced⟩] := by
  have hcollections : groupCollections [(version, single groupVersion name kind)] =
      (single groupVersion name kind).collections := by
    simp [groupCollections, insertVersion]
  rw [hcollections]
  simp [ResourceList.collections, single, String.contains_char_eq, hname]

def deployments : Collection := ⟨"apps", "v1", "Deployment", "deployments", .namespaced⟩

def configMaps : Collection := ⟨"", "v1", "ConfigMap", "configmaps", .namespaced⟩

/-- What a run of discovery that finds both reads. -/
def bothSurveys : List Survey :=
  [⟨"apps", [("v1", single "apps/v1" "deployments" "Deployment")]⟩,
    ⟨coreGroup, [("v1", single "v1" "configmaps" "ConfigMap")]⟩]

theorem found_bothSurveys : found bothSurveys = [deployments, configMaps] := by
  have hlatest : latest bothSurveys = bothSurveys := List.pwFilter_eq_self.mpr (by decide)
  rw [found, hlatest, bothSurveys, List.flatMap_cons, List.flatMap_cons, List.flatMap_nil,
    Survey.collections, Survey.collections, groupCollections_single _ _ _ (by decide),
    groupCollections_single _ _ _ (by decide)]
  decide

/-- A request for a path, answered with a value. -/
def answered (path : String) (j : Json) : Answered Http.Request Http.Answer :=
  ⟨getRequest ⟨path, none⟩, .ok ⟨200, j.bytes⟩⟩

def singleJson (groupVersion name kind : String) : Json :=
  .ofEntries [("groupVersion", .str groupVersion), ("resources", .arr
    [.ofEntries [("name", .str name), ("kind", .str kind), ("namespaced", .bool true)]])]

def bothLog : Log :=
  [answered "/apis" (.ofEntries [("groups", .arr [.ofEntries [("name", .str "apps"),
      ("versions", .arr [.ofEntries
        [("groupVersion", .str "apps/v1"), ("version", .str "v1")]])]])]),
    answered "/apis/apps/v1" (singleJson "apps/v1" "deployments" "Deployment"),
    answered "/api" (.ofEntries [("versions", .arr [.str "v1"])]),
    answered "/api/v1" (singleJson "v1" "configmaps" "ConfigMap")]

theorem discovers_bothLog : Discovers bothLog bothSurveys := by
  have hnone : (lookVersions []).Yields [] (.ok []) := .done _
  have hgroups : (look "/apis" readGroups).Yields (bothLog.take 1)
      (.ok [⟨"apps", [⟨"apps/v1", "v1"⟩]⟩]) :=
    look_yields (by decide +kernel) (by decide +kernel)
  have happs : (look "/apis/apps/v1" ResourceList.read).Yields ((bothLog.drop 1).take 1)
      (.ok (single "apps/v1" "deployments" "Deployment")) :=
    look_yields (by decide +kernel) (by decide +kernel)
  have hapi : (look "/api" readVersions).Yields ((bothLog.drop 2).take 1) (.ok ["v1"]) :=
    look_yields (by decide +kernel) (by decide +kernel)
  have hcore : (look "/api/v1" ResourceList.read).Yields (bothLog.drop 3)
      (.ok (single "v1" "configmaps" "ConfigMap")) :=
    look_yields (by decide +kernel) (by decide +kernel)
  exact .intro hgroups
    (.cons (List.cons_ne_nil _ _) (lookVersions_yields_cons happs hnone) .nil) hapi
    (List.cons_ne_nil _ _) (lookVersions_yields_cons hcore hnone)

/-- One of two collections that were found is replaced.  Nothing is found where kind and version are
exchanged, and adding both by hand, the other way round, comes to the same as finding them. -/
theorem last_added_counts_renamed :
    let renamed : Collection := { configMaps with plural := "maps" }
    ∃ catalog, discover.Yields bothLog (.ok catalog) ∧
      (catalog.insert renamed).find? "" "ConfigMap" "v1" = some renamed ∧
      (catalog.insert renamed).find? "" "v1" "ConfigMap" = none ∧
      (catalog.insert renamed).size = 2 ∧
      SameAnswers catalog ((ofList [configMaps]).insert deployments) := by
  intro renamed
  have hrun := discover_yields_iff.mpr ⟨_, discovers_bothLog, rfl⟩
  have hfilled : Filled (.ofList (found bothSurveys)) [deployments, configMaps] :=
    found_bothSurveys ▸ .discovered hrun discovers_bothLog
  obtain ⟨hfind, hsize, -⟩ := last_added_counts (hfilled.insert renamed)
  obtain ⟨-, -, hsame⟩ := last_added_counts hfilled
  refine ⟨_, hrun, ((hfind _ _ _).1 _).mpr ⟨⟨rfl, rfl, rfl⟩, _, [], rfl, nofun⟩,
    (hfind _ _ _).2.mpr fun c hc h => ?_, hsize.trans (by decide),
    hsame (.insert (.ofList [configMaps]) deployments) (.swap _ _ _) (by decide)⟩
  have hkind : ∀ c ∈ [deployments, configMaps] ++ [renamed], c.kind ≠ "v1" := by decide
  exact hkind c hc h.kind

end

end Catalog
end BundleInstaller.Cluster
