import BundleInstaller.Proofs.History

/-!
# Kinds that are registered

A stored definition registers a kind: every entry in its list of versions that has a name is a
version of that kind.  Discovery finds what is served from the start and what is registered, and it
asks no entry whether its version is served.  Objects are never removed, so what was found once is
found ever after.

* `Registers`, `mem_definedCollections`: which collections a definition gives rise to.
* `discover_ok_iff`: when discovery goes well, and what it finds then.
* `registered_found`: what discovery finds, and what it goes on finding.
-/

namespace BundleInstaller

theorem Json.str?_eq_some {j : Json} {s : String} : j.str? = some s ↔ j = .str s := by
  cases j <;> simp [Json.str?]

namespace Cluster

/-! ## Definitions -/

/-- The value at the end of a path below the specification of an object. -/
def Object.specAt (o : Object) (path : List String) : Option Json :=
  path.foldl (fun j key => j.bind (·.get? key)) (o.get? "spec")

/-- An entry in the list of versions of a definition registers a collection. -/
structure Object.Registers (o : Object) (entry : Json) (c : Collection) : Prop where
  group : o.specAt ["group"] = some (.str c.group)
  kind : o.specAt ["names", "kind"] = some (.str c.kind)
  plural : o.specAt ["names", "plural"] = some (.str c.plural)
  scope : c.scope = .cluster ↔ o.specAt ["scope"] = some (.str "Cluster")
  listed : ∃ entries, o.specAt ["versions"] = some (.arr entries) ∧ entry ∈ entries
  version : entry.get? "name" = some (.str c.version)

/-- Whether a version is served, which it is unless its entry says otherwise. -/
def IsServed (entry : Json) : Prop := entry.get? "served" ≠ some (.bool false)

theorem textAt_eq_some {j : Option Json} {key s : String} :
    textAt j key = some s ↔ j.bind (·.get? key) = some (.str s) := by
  rw [textAt, Option.bind_eq_some_iff]
  simp [Json.str?_eq_some]

theorem mem_arr?_getD {j : Option Json} {entry : Json} :
    entry ∈ (j.bind Json.arr?).getD [] ↔ ∃ entries, j = some (.arr entries) ∧ entry ∈ entries := by
  cases j with
  | none => simp
  | some j => cases j <;> simp [Json.arr?]

theorem Scope.eq_of_cluster_iff {a b : Scope} (h : a = .cluster ↔ b = .cluster) : a = b := by
  cases a <;> cases b <;> simp_all

/-- **A definition gives rise to the collections that its entries register.** -/
theorem mem_definedCollections {o : Object} {c : Collection} :
    c ∈ definedCollections o ↔ ∃ entry, o.Registers entry c := by
  have hscope : (if textAt (o.get? "spec") "scope" = some "Cluster" then Scope.cluster
      else .namespaced) = .cluster ↔ o.specAt ["scope"] = some (.str "Cluster") := by
    simp only [textAt_eq_some, ite_eq_left_iff, reduceCtorEq, imp_false,
      Classical.not_not]
    rfl
  constructor
  · intro hc
    unfold definedCollections at hc
    dsimp only at hc
    split at hc
    · rename_i group kind plural hgroup hkind hplural
      obtain ⟨entry, hentry, hnamed⟩ := List.mem_filterMap.mp hc
      obtain ⟨version, hversion, rfl⟩ := Option.map_eq_some_iff.mp hnamed
      exact ⟨entry, textAt_eq_some.mp hgroup, textAt_eq_some.mp hkind, textAt_eq_some.mp hplural,
        hscope, mem_arr?_getD.mp hentry, textAt_eq_some.mp hversion⟩
    · cases hc
  · rintro ⟨entry, h⟩
    have hversion : textAt (some entry) "name" = some c.version := textAt_eq_some.mpr h.version
    unfold definedCollections
    dsimp only
    rw [textAt_eq_some.mpr h.group, textAt_eq_some.mpr h.kind, textAt_eq_some.mpr h.plural,
      Scope.eq_of_cluster_iff (hscope.trans h.scope.symm)]
    refine List.mem_filterMap.mpr ⟨entry, mem_arr?_getD.mpr h.listed, ?_⟩
    rw [hversion]
    rfl

namespace Memory

/-! ## Discovery -/

/-- Some stored definition registers a collection with this triple, by an entry with `P`. -/
def HasEntry (m : Memory) (P : Json → Prop) (triple : String × String × String) : Prop :=
  ∃ x ∈ m.objects, x.1.isDefinition ∧ ∃ entry c, x.2.Registers entry c ∧ P entry ∧
    c.triple = triple

theorem covers_catalog_iff {m : Memory} (P : Json → Prop) {triple : String × String × String} :
    m.catalog.Covers triple ↔ (∃ c ∈ builtinCollections, c.triple = triple) ∨
      m.HasEntry P triple ∨ m.HasEntry (fun entry => ¬P entry) triple := by
  rw [covers_catalog]
  simp only [mem_definedCollections]
  refine or_congr Iff.rfl ⟨?_, ?_⟩
  · rintro ⟨x, hx, hdefinition, c, ⟨entry, hregisters⟩, htriple⟩
    by_cases hentry : P entry
    · exact .inl ⟨x, hx, hdefinition, entry, c, hregisters, hentry, htriple⟩
    · exact .inr ⟨x, hx, hdefinition, entry, c, hregisters, hentry, htriple⟩
  · rintro (⟨x, hx, hdefinition, entry, c, hregisters, -, htriple⟩ |
      ⟨x, hx, hdefinition, entry, c, hregisters, -, htriple⟩) <;>
    exact ⟨x, hx, hdefinition, c, ⟨entry, hregisters⟩, htriple⟩

theorem discover_ok_iff {m : Memory} {catalog : Catalog} :
    m.discover.1 = .ok catalog ↔ m.failsDiscovery = false ∧ catalog = m.catalog := by
  unfold discover
  dsimp only
  cases hfails : m.failsDiscovery with
  | true => simp
  | false => exact ⟨fun h => ⟨rfl, (Except.ok.inj h).symm⟩, fun h => by rw [h.2]; rfl⟩

end Memory
end Cluster

namespace Install.Rehearsal

open Cluster

theorem kept_covers (triple : String × String × String) :
    Kept fun m => m.catalog.Covers triple where
  answer m c h := (m.extends_answer c).covers h
  register _ _ h := h
  rejectCreate _ _ _ _ h := h
  rejectGet _ _ _ _ h := h
  failDiscovery _ _ h := h
  conflictStatus _ h := h

/-- **Discovery finds exactly what is registered**, and finds it ever after.  A triple is found just
if it is served from the start, or an entry of a stored definition registers it that is served, or
one that is not.  Whatever happens from then on, no discovery that goes well misses it. -/
theorem registered_found {r : Rehearsal} (h : r.cluster.failsDiscovery = false) :
    ∃ catalog, r.cluster.discover.1 = .ok catalog ∧ ∀ group kind version,
      ((catalog.find? group kind version).isSome ↔
        (∃ c ∈ builtinCollections, c.triple = (group, version, kind)) ∨
          r.cluster.HasEntry IsServed (group, version, kind) ∨
            r.cluster.HasEntry (fun entry => ¬IsServed entry) (group, version, kind)) ∧
      ((catalog.find? group kind version).isSome → ∀ history later,
        (r.after history).cluster.discover.1 = .ok later →
          (later.find? group kind version).isSome) := by
  refine ⟨_, Memory.discover_ok_iff.mpr ⟨h, rfl⟩, fun group kind version => ⟨?_, ?_⟩⟩
  · rw [Catalog.find?_isSome_iff, Memory.covers_catalog_iff IsServed]
  · intro hfound history later hlater
    obtain ⟨-, rfl⟩ := Memory.discover_ok_iff.mp hlater
    rw [Catalog.find?_isSome_iff] at hfound ⊢
    exact (kept_covers _).after hfound history

/-- A version that is not served any more. -/
def goneVersion : Json := .obj [("name", .str "v1"), ("served", .bool false)]

def liveVersion : Json := .obj [("name", .str "v2"), ("served", .bool true)]

/-- A definition with both versions. -/
def withdrawn : Object :=
  ⟨none, { Metadata.empty with name? := some "d" }, [("spec", .obj
    [("group", .str "g"), ("names", .obj [("kind", .str "K"), ("plural", .str "k")]),
      ("versions", .arr [goneVersion, liveVersion])])]⟩

/-- A rehearsal in which it is stored. -/
def withdrawing : Rehearsal :=
  (start .empty .ok).after
    [.call (.cluster (.create (schemaCollection Bundle.schemaResource) none withdrawn))]

theorem objects_withdrawing : withdrawing.cluster.objects =
    [(⟨Bundle.schemaGroup, "CustomResourceDefinition", none, "d"⟩,
      { withdrawn with metadata := { withdrawn.metadata with resourceVersion? := some "1" } })] :=
  rfl

/-- It has the entries for the two versions and no other. -/
theorem hasEntry_withdrawing {P : Json → Prop} {triple : String × String × String} :
    withdrawing.cluster.HasEntry P triple ↔
      P goneVersion ∧ ("g", "v1", "K") = triple ∨ P liveVersion ∧ ("g", "v2", "K") = triple := by
  unfold Memory.HasEntry
  rw [objects_withdrawing]
  simp only [List.mem_singleton, exists_eq_left]
  constructor
  · rintro ⟨-, entry, ⟨group, version, kind, plural, scope⟩, h, hentry, rfl⟩
    obtain ⟨entries, hentries, hmem⟩ := h.listed
    have hgroup : "g" = group := Json.str.inj (Option.some.inj h.group)
    have hkind : "K" = kind := Json.str.inj (Option.some.inj h.kind)
    have hlist : [goneVersion, liveVersion] = entries := Json.arr.inj (Option.some.inj hentries)
    rw [← hlist, List.mem_cons, List.mem_singleton] at hmem
    subst hgroup hkind
    rcases hmem with rfl | rfl
    · have hversion : "v1" = version := Json.str.inj (Option.some.inj h.version)
      exact .inl ⟨hentry, by rw [hversion]; rfl⟩
    · have hversion : "v2" = version := Json.str.inj (Option.some.inj h.version)
      exact .inr ⟨hentry, by rw [hversion]; rfl⟩
  · have hregisters : ∀ entry version, entry ∈ [goneVersion, liveVersion] →
        entry.get? "name" = some (.str version) → Object.Registers
          { withdrawn with metadata := { withdrawn.metadata with resourceVersion? := some "1" } }
          entry ⟨"g", version, "K", "k", .namespaced⟩ := fun entry version hentry hversion =>
      ⟨rfl, rfl, rfl, ⟨nofun, nofun⟩, ⟨_, rfl, hentry⟩, hversion⟩
    rintro (⟨hentry, rfl⟩ | ⟨hentry, rfl⟩)
    · exact ⟨rfl, _, _, hregisters goneVersion "v1" (by simp) rfl, hentry, rfl⟩
    · exact ⟨rfl, _, _, hregisters liveVersion "v2" (by simp) rfl, hentry, rfl⟩

theorem isServed_liveVersion : IsServed liveVersion := by
  intro h
  cases Json.bool.inj (Option.some.inj h)

theorem not_isServed_goneVersion : ¬IsServed goneVersion := fun h => h rfl

/-- The version that is served is found, also after discovery was down for a while, and a version
without an entry is not found. -/
theorem registered_found_withdrawing :
    withdrawing.cluster.failsDiscovery = false ∧
      ∃ catalog, withdrawing.cluster.discover.1 = .ok catalog ∧
        (catalog.find? "g" "K" "v2").isSome ∧ ¬(catalog.find? "g" "K" "v3").isSome ∧
        ∀ later, (withdrawing.after [.failDiscovery true, .rejectGet "K" "d" "gone",
          .failDiscovery false]).cluster.discover.1 = .ok later →
            (later.find? "g" "K" "v2").isSome := by
  obtain ⟨catalog, hcatalog, hfound⟩ := registered_found (r := withdrawing) rfl
  have hserved : (catalog.find? "g" "K" "v2").isSome :=
    (hfound _ _ _).1.mpr (.inr (.inl (hasEntry_withdrawing.mpr (.inr ⟨isServed_liveVersion, rfl⟩))))
  refine ⟨rfl, catalog, hcatalog, hserved, fun hother => ?_, fun later hlater =>
    (hfound _ _ _).2 hserved _ _ hlater⟩
  have hnot : ∀ P, ¬withdrawing.cluster.HasEntry P ("g", "v3", "K") := fun P hentry => by
    rcases hasEntry_withdrawing.mp hentry with ⟨-, heq⟩ | ⟨-, heq⟩ <;> exact absurd heq (by decide)
  rcases (hfound _ _ _).1.mp hother with hbuiltin | hentry | hentry
  · exact absurd hbuiltin (by decide)
  · exact hnot _ hentry
  · exact hnot _ hentry

/-- **A version that is not served is found all the same**, although it is not there from the start
and no other entry registers it. -/
theorem unserved_version_found :
    withdrawing.Reachable ∧ withdrawing.cluster.failsDiscovery = false ∧
      ∃ catalog, withdrawing.cluster.discover.1 = .ok catalog ∧
        (catalog.find? "g" "K" "v1").isSome ∧
        ¬((∃ c ∈ builtinCollections, c.triple = ("g", "v1", "K")) ∨
          withdrawing.cluster.HasEntry IsServed ("g", "v1", "K")) := by
  refine ⟨⟨_, _, _, rfl⟩, rfl, _, Memory.discover_ok_iff.mpr ⟨rfl, rfl⟩, ?_, ?_⟩
  · rw [Catalog.find?_isSome_iff, Memory.covers_catalog_iff IsServed]
    exact .inr (.inr (hasEntry_withdrawing.mpr (.inl ⟨not_isServed_goneVersion, rfl⟩)))
  · rintro (hbuiltin | hentry)
    · exact absurd hbuiltin (by decide)
    · rcases hasEntry_withdrawing.mp hentry with ⟨hserved, -⟩ | ⟨-, heq⟩
      · exact not_isServed_goneVersion hserved
      · exact absurd heq (by decide)

end Install.Rehearsal
end BundleInstaller
