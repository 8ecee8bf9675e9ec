import BundleInstaller.Proofs.Admission
import BundleInstaller.Proofs.Atomicity
import BundleInstaller.Proofs.Creations
import BundleInstaller.Proofs.Endpoints
import BundleInstaller.Proofs.Payload

/-!
# Where an object is put

A declaration that is no definition is created in the collection that the catalog has for the group,
the version and the kind of its header.  What the header says of the API version comes back from the
collection, unless the API version begins with its only slash: the group in front of that slash is
empty, and such a declaration goes to the core group.

* `Splits.unique`, `splitApiVersion_apiVersion`: splitting undoes what joins a group and a version.
* `Placed`, `asks_applyGeneric_placed`: what is created for a declaration, whatever it is told.
* `created_as_declared`: under which API version an object is created.
* `namespaced_object_placed`: in which namespace, and where its path has an empty segment then.
-/

namespace BundleInstaller

open Text Cluster

namespace Bundle

/-! ## API versions -/

theorem Splits.unique {apiVersion group group' version version' : String}
    (h : Splits apiVersion group version) (h' : Splits apiVersion group' version') :
    group = group' ∧ version = version' := by
  have hmem : ∀ a b : String, '/' ∈ (a ++ "/" ++ b).toList := fun a b => by simp
  rcases h with ⟨rfl, hversion⟩ | ⟨hslash, rfl, rfl⟩
  · rcases h' with ⟨heq, hversion'⟩ | ⟨hslash, -, -⟩
    · have hsegments := congrArg segments heq
      rw [segments_slash, segments_slash, segments_of_not_mem hversion,
        segments_of_not_mem hversion', List.append_singleton_inj, segments_inj] at hsegments
      exact hsegments
    · exact absurd (hmem _ _) hslash
  · rcases h' with ⟨rfl, -⟩ | ⟨-, rfl, rfl⟩
    · exact absurd (hmem _ _) hslash
    · exact ⟨rfl, rfl⟩

theorem splits_apiVersion {c : Collection} (h : '/' ∉ c.version.toList) :
    Splits c.apiVersion c.group c.version := by
  unfold Collection.apiVersion
  by_cases hgroup : c.group = ""
  · rw [if_pos (by simpa using hgroup)]
    exact .inr ⟨h, hgroup, rfl⟩
  · rw [if_neg (by simpa using hgroup)]
    exact .inl ⟨rfl, h⟩

/-- **Splitting undoes joining.** -/
theorem splitApiVersion_apiVersion {c : Collection} (h : '/' ∉ c.version.toList) :
    splitApiVersion c.apiVersion = (c.group, c.version) := by
  obtain ⟨hgroup, hversion⟩ := (splitApiVersion_splits c.apiVersion).unique (splits_apiVersion h)
  exact Prod.ext hgroup hversion

/-- The first character of an API version is a slash, and it has no other. -/
def IsRooted (apiVersion : String) : Prop :=
  ∃ version, apiVersion = "/" ++ version ∧ '/' ∉ version.toList

theorem splits_of_isRooted {version : String} (h : '/' ∉ version.toList) :
    Splits ("/" ++ version) "" version := .inl ⟨rfl, h⟩

theorem apiVersion_of_splits {c : Collection} {apiVersion : String}
    (h : Splits apiVersion c.group c.version) :
    c.apiVersion = apiVersion ∨ IsRooted apiVersion ∧ apiVersion = "/" ++ c.apiVersion := by
  unfold Collection.apiVersion
  rcases h with ⟨rfl, hversion⟩ | ⟨-, hgroup, hversion⟩
  · by_cases hgroup : c.group = ""
    · rw [if_pos (by simpa using hgroup), hgroup]
      exact .inr ⟨⟨c.version, rfl, hversion⟩, rfl⟩
    · rw [if_neg (by simpa using hgroup)]
      exact .inl rfl
  · rw [if_pos (by simpa using hgroup)]
    exact .inl hversion

/-- **A collection has the API version that its group and version were split from just if that does
not begin with its only slash.** -/
theorem apiVersion_eq_iff {c : Collection} {apiVersion : String}
    (h : Splits apiVersion c.group c.version) :
    c.apiVersion = apiVersion ↔ ¬IsRooted apiVersion := by
  constructor
  · rintro heq ⟨version, rfl, hversion⟩
    obtain ⟨hgroup, rfl⟩ := h.unique (splits_of_isRooted hversion)
    have hcore : c.apiVersion = c.version := by
      unfold Collection.apiVersion
      rw [if_pos (by simpa using hgroup)]
    rw [hcore] at heq
    exact hversion (by rw [heq]; simp)
  · intro hrooted
    exact (apiVersion_of_splits h).resolve_right fun hslash => hrooted hslash.1

theorem splits_of_parse {document : Document} {d : Declaration}
    (h : Declaration.parse document = .ok d) :
    Splits d.header.apiVersion d.header.group d.header.version := by
  obtain ⟨-, fields, -, hheader⟩ := parse_ok h
  obtain ⟨-, -, hsplit, -⟩ := HeaderFields.header_ok hheader
  have hsplits := splitApiVersion_splits d.header.apiVersion
  rw [← hsplit] at hsplits
  exact hsplits

end Bundle

namespace Install

open BundleInstaller.Bundle Program
open Rehearsal (configMaps)

/-! ## Creations -/

/-- What is created for a declaration: its object, in the collection that the catalog has for its
header, and in the namespace that the object names. -/
structure Placed (catalog : Catalog) (d : Declaration) (place : Collection)
    (space : Option String) (o : Object) : Prop where
  object : d.object = .ok o
  found : catalog.find? d.header.group d.header.kind d.header.version = some place
  space_eq : space = place.targetNamespace o.metadata.ns?

/-- **Whatever it is told, a declaration that is no definition is created where its header and its
object say, or nowhere.** -/
theorem asks_applyGeneric_placed (catalog : Catalog) (d : Declaration) :
    (applyGeneric catalog d).Asks fun c => ∀ place space o,
      c = .cluster (.create place space o) → Placed catalog d place space o := by
  refine asks_applyGeneric ?_ catalog d fun place o hobject hfind place' space' o' h => ?_
  · intro e _ place space o h
    cases h
  · cases h
    exact ⟨hobject, hfind, rfl⟩

theorem creation_of_asks {P : Call → Prop} {catalog : Catalog} {d : Declaration} {o : Object}
    {place : Collection} (hobject : d.object = .ok o)
    (hfind : catalog.find? d.header.group d.header.kind d.header.version = some place)
    (h : (applyGeneric catalog d).Asks P) :
    P (.cluster (.create place (place.targetNamespace o.metadata.ns?) o)) := by
  unfold applyGeneric at h
  dsimp only at h
  rw [hobject] at h
  dsimp only at h
  rw [hfind] at h
  exact (h.2 ()).1

section Types

variable {document : Document} {d : Declaration} {catalog : Catalog} {place : Collection}
  {space : Option String} {o : Object}

theorem Placed.kind (h : Placed catalog d place space o) : place.kind = d.header.kind :=
  (Prod.mk.inj (Prod.mk.inj (Catalog.find?_triple h.found)).2).2

theorem Placed.splits (hparse : Declaration.parse document = .ok d)
    (h : Placed catalog d place space o) :
    Splits d.header.apiVersion place.group place.version := by
  obtain ⟨hgroup, hrest⟩ := Prod.mk.inj (Catalog.find?_triple h.found)
  rw [hgroup, (Prod.mk.inj hrest).1]
  exact splits_of_parse hparse

theorem applyGeneric_of_unknown (hparse : Declaration.parse document = .ok d)
    (hunknown : ∀ c ∈ catalog.collections, c.kind = d.header.kind →
      c.apiVersion ≠ d.header.apiVersion ∧
        ¬(IsRooted d.header.apiVersion ∧ d.header.apiVersion = "/" ++ c.apiVersion)) :
    applyGeneric catalog d = done (match d.object with
      | .error e => .error (.parse e)
      | .ok _ => .error (.mapping d.header.group d.header.version d.header.kind)) := by
  cases hobject : d.object with
  | error e =>
    unfold applyGeneric
    dsimp only
    rw [hobject]
    rfl
  | ok o =>
    refine applyGeneric_of_not_covers hobject ?_
    rintro ⟨c, hc, htriple⟩
    obtain ⟨hgroup, hrest⟩ := Prod.mk.inj htriple
    obtain ⟨hversion, hkind⟩ := Prod.mk.inj hrest
    have hsplits : Splits d.header.apiVersion c.group c.version := by
      rw [hgroup, hversion]
      exact splits_of_parse hparse
    obtain ⟨hne, hrooted⟩ := hunknown c hc hkind
    rcases apiVersion_of_splits hsplits with heq | hslash
    · exact hne heq
    · exact hrooted hslash

/-- **An object is created under the API version and the kind that it declares**, unless the API
version begins with its only slash.  Then the object goes to the core group, under the version
behind the slash.  A declaration whose API version names no collection either way is not created. -/
theorem created_as_declared (hparse : Declaration.parse document = .ok d) (catalog : Catalog) :
    (∀ c : Collection, '/' ∉ c.version.toList →
      splitApiVersion c.apiVersion = (c.group, c.version)) ∧
    ((applyGeneric catalog d).Asks fun c => ∀ place space o,
      c = .cluster (.create place space o) →
        place.kind = d.header.kind ∧
        (place.apiVersion = d.header.apiVersion ↔ ¬IsRooted d.header.apiVersion) ∧
        (IsRooted d.header.apiVersion → d.header.apiVersion = "/" ++ place.apiVersion)) ∧
    ((∀ c ∈ catalog.collections, c.kind = d.header.kind →
        c.apiVersion ≠ d.header.apiVersion ∧
          ¬(IsRooted d.header.apiVersion ∧ d.header.apiVersion = "/" ++ c.apiVersion)) →
      applyGeneric catalog d = done (match d.object with
        | .error e => .error (.parse e)
        | .ok _ => .error (.mapping d.header.group d.header.version d.header.kind))) := by
  refine ⟨fun c hc => splitApiVersion_apiVersion hc,
    (asks_applyGeneric_placed catalog d).mono fun c hplaced place space o hc => ?_,
    applyGeneric_of_unknown hparse⟩
  have hsplits := (hplaced place space o hc).splits hparse
  refine ⟨(hplaced place space o hc).kind, apiVersion_eq_iff hsplits, fun hrooted => ?_⟩
  rcases apiVersion_of_splits hsplits with heq | ⟨-, hslash⟩
  · exact absurd hrooted ((apiVersion_eq_iff hsplits).mp heq)
  · exact hslash

end Types

/-- What two readers see of a document. -/
def glance (document : Document) : Option (Header × Option String) :=
  (Declaration.parse document).toOption.bind fun d =>
    d.object.toOption.map fun o => (d.header, o.metadata.ns?)

theorem read_of_glance {document : Document} {header : Header} {space : Option String}
    (h : glance document = some (header, space)) :
    ∃ d o, Declaration.parse document = .ok d ∧ d.object = .ok o ∧ d.header = header ∧
      o.metadata.ns? = space := by
  unfold glance at h
  cases hparse : Declaration.parse document with
  | error e =>
    rw [hparse] at h
    cases h
  | ok d =>
    cases hobject : d.object with
    | error e =>
      simp only [hparse, Except.toOption, Option.bind_some, hobject] at h
      cases h
    | ok o =>
      simp only [hparse, Except.toOption, Option.bind_some, hobject, Option.map_some,
        Option.some.injEq, Prod.mk.injEq] at h
      exact ⟨d, o, rfl, hobject, h.1, h.2⟩

/-- A declaration of a group that ends with a slash. -/
def slashed : Document :=
  ⟨1, Utf8.ofString "apiVersion: a//v1\nkind: Widget\nmetadata: {name: w}\n"⟩

theorem glance_slashed : glance slashed =
    some (⟨"a//v1", "a/", "v1", "Widget", some "w", none⟩, none) := by
  decide +kernel

def widgetsOf (group : String) : Collection := ⟨group, "v1", "Widget", "widgets", .namespaced⟩

theorem not_isRooted_slashed : ¬IsRooted "a//v1" := by
  rintro ⟨version, heq, -⟩
  have hhead := congrArg (fun s : String => s.toList.head?) heq
  simp at hhead

/-- The declaration is created in its own group, and not in one that only looks like it. -/
theorem created_as_declared_slashed :
    splitApiVersion (widgetsOf "a/").apiVersion = ("a/", "v1") ∧
      ∃ d o, Declaration.parse slashed = .ok d ∧ d.object = .ok o ∧
        d.header.apiVersion = "a//v1" ∧ ¬IsRooted d.header.apiVersion ∧
        ((applyGeneric (.ofList [widgetsOf "a/"]) d).Asks fun c => ∀ place space o,
          c = .cluster (.create place space o) → place.apiVersion = d.header.apiVersion) ∧
        applyGeneric (.ofList [widgetsOf "a"]) d = done (.error (.mapping "a/" "v1" "Widget")) := by
  obtain ⟨d, o, hparse, hobject, hheader, -⟩ := read_of_glance glance_slashed
  have hrooted : ¬IsRooted d.header.apiVersion := by
    rw [hheader]
    exact not_isRooted_slashed
  have hother : ∀ c ∈ (Catalog.ofList [widgetsOf "a"]).collections, c.apiVersion ≠ "a//v1" := by
    decide
  obtain ⟨hsplit, hcreated, -⟩ := created_as_declared hparse (.ofList [widgetsOf "a/"])
  obtain ⟨-, -, hunknown⟩ := created_as_declared hparse (.ofList [widgetsOf "a"])
  refine ⟨hsplit (widgetsOf "a/") (by decide), d, o, hparse, hobject, by rw [hheader], hrooted,
    hcreated.mono fun c hc place space o heq => (hc place space o heq).2.1.mpr hrooted, ?_⟩
  rw [hunknown fun c hc _ => ⟨?_, fun h => hrooted h.1⟩, hobject, hheader]
  rw [hheader]
  exact hother c hc

/-- A declaration of the core group with a slash in front of its version. -/
def rooted : Document :=
  ⟨1, Utf8.ofString "apiVersion: /v1\nkind: ConfigMap\nmetadata: {name: a}\n"⟩

theorem glance_rooted : glance rooted =
    some (⟨"/v1", "", "v1", "ConfigMap", some "a", none⟩, none) := by
  decide +kernel

/-- A config map of the core group is known from the start. -/
theorem read_of_glance_configMap {document : Document} {apiVersion : String}
    {space : Option String}
    (h : glance document =
      some (⟨apiVersion, "", "v1", "ConfigMap", some "a", space⟩, space)) :
    ∃ d o, Declaration.parse document = .ok d ∧ d.object = .ok o ∧
      d.header = ⟨apiVersion, "", "v1", "ConfigMap", some "a", space⟩ ∧ o.metadata.ns? = space ∧
      Memory.empty.catalog.find? d.header.group d.header.kind d.header.version =
        some configMaps := by
  obtain ⟨d, o, hparse, hobject, hheader, hns⟩ := read_of_glance h
  have hfind : Memory.empty.catalog.find? "" "ConfigMap" "v1" = some configMaps := by
    decide +kernel
  exact ⟨d, o, hparse, hobject, hheader, hns, by rw [hheader]; exact hfind⟩

/-- **An API version that no collection has is created all the same** if it is one of the core group
with a slash in front. -/
theorem created_elsewhere :
    ∃ d, Declaration.parse rooted = .ok d ∧
      (∀ c ∈ Memory.empty.catalog.collections, c.apiVersion ≠ d.header.apiVersion) ∧
      ¬(applyGeneric Memory.empty.catalog d).Asks fun c => ∀ place space o,
        c = .cluster (.create place space o) → place.apiVersion = d.header.apiVersion := by
  obtain ⟨d, o, hparse, hobject, hheader, -, hfind⟩ := read_of_glance_configMap glance_rooted
  refine ⟨d, hparse, ?_, fun h => ?_⟩
  · rw [hheader]
    decide +kernel
  · have hsame := creation_of_asks hobject hfind h _ _ _ rfl
    rw [hheader] at hsame
    exact absurd hsame (by decide)

/-! ## Namespaces -/

/-- A creation stores at most its own object, under the namespace that it is created in. -/
theorem space_of_mem_create {m : Memory} {place : Collection} {space : Option String} {o : Object}
    {x : Key × Object} (h : x ∈ (m.create place space o).2.objects) :
    x ∈ m.objects ∨ x.1.space = place.targetNamespace space ∧
      x.2.metadata.ns? = place.targetNamespace space := by
  rcases Memory.create_cases m place space o with
    ⟨-, -, hobjects, -⟩ | ⟨name, -, -, -, hobjects⟩
  · rw [hobjects] at h
    exact .inl h
  · rw [hobjects, Memory.mem_insertObject] at h
    rcases h with rfl | h
    · exact .inr ⟨rfl, rfl⟩
    · exact .inl h

/-- **An object of a kind with namespaces is created in the namespace that it declares, as it stands
there, and in the default one if it declares none.**  So the namespace is empty just if an empty one
is declared.  Behind the root, the path of the collection has an empty segment just where the
namespace or another part of it has one, and what is stored is stored under that namespace. -/
theorem namespaced_object_placed {document : Document} {d : Declaration}
    (hparse : Declaration.parse document = .ok d) (catalog : Catalog) :
    (applyGeneric catalog d).Asks fun c => ∀ place space o,
      c = .cluster (.create place space o) → place.scope = .namespaced →
        ∃ ns, space = some ns ∧ ns = d.header.ns?.getD defaultNamespace ∧
          o.metadata.ns? = d.header.ns? ∧ (ns = "" ↔ d.header.ns? = some "") ∧
          ("" ∈ (segments (place.path space)).tail ↔
            "" ∈ segments ns ∨ (place.group ≠ "" ∧ "" ∈ segments place.group) ∨
              "" ∈ segments place.version ∨ "" ∈ segments place.plural) ∧
          ∀ m : Memory, ∀ x ∈ (m.create place space o).2.objects,
            x ∈ m.objects ∨ x.1.space = some ns ∧ x.2.metadata.ns? = some ns := by
  refine (asks_applyGeneric_placed catalog d).mono fun c hplaced place space o hc hscope => ?_
  have hplace := hplaced place space o hc
  have hns := (identity_of_object hparse hplace.object).2
  have hspace : space = some (d.header.ns?.getD defaultNamespace) := by
    rw [hplace.space_eq, hns, Collection.targetNamespace, hscope]
  have htarget : place.targetNamespace space = space := by
    rw [hplace.space_eq, Collection.targetNamespace_targetNamespace]
  refine ⟨_, hspace, rfl, hns, ?_, ?_, fun m x hx => ?_⟩
  · cases d.header.ns? <;> simp [defaultNamespace]
  · rw [Collection.empty_mem_segments_path, Collection.empty_mem_segments_apiVersion, htarget,
      hspace]
    simp only [Option.some.injEq, exists_eq_left']
    tauto
  · rw [← hspace]
    have hstored := space_of_mem_create hx
    rwa [htarget] at hstored

/-- A config map whose namespace has an empty segment in it. -/
def crooked : Document :=
  ⟨1, Utf8.ofString "apiVersion: v1\nkind: ConfigMap\nmetadata: {name: a, namespace: x//y}\n"⟩

theorem glance_crooked : glance crooked =
    some (⟨"v1", "", "v1", "ConfigMap", some "a", some "x//y"⟩, some "x//y") := by
  decide +kernel

/-- The config map is created in the namespace that it declares, slashes and all. -/
theorem namespaced_object_placed_crooked :
    ∃ d o, Declaration.parse crooked = .ok d ∧ d.object = .ok o ∧
      Memory.empty.catalog.find? d.header.group d.header.kind d.header.version = some configMaps ∧
      configMaps.scope = .namespaced ∧
      configMaps.targetNamespace o.metadata.ns? = some "x//y" ∧
      "" ∈ (segments (configMaps.path (some "x//y"))).tail ∧
      ∀ x ∈ (Memory.empty.create configMaps (some "x//y") o).2.objects,
        x.1.space = some "x//y" := by
  obtain ⟨d, o, hparse, hobject, hheader, -, hfind⟩ := read_of_glance_configMap glance_crooked
  obtain ⟨ns, hspace, hns, -, -, hempty, hstored⟩ := creation_of_asks hobject hfind
    (namespaced_object_placed hparse Memory.empty.catalog) _ _ _ rfl rfl
  rw [hheader] at hns
  cases hns
  rw [hspace] at hempty hstored
  refine ⟨d, o, hparse, hobject, hfind, rfl, hspace, hempty.mpr (.inl (by decide)), fun x hx => ?_⟩
  rcases hstored Memory.empty x hx with h | h
  · exact absurd h List.not_mem_nil
  · exact h.1

/-- A config map with an empty namespace. -/
def unspaced : Document :=
  ⟨1, Utf8.ofString "apiVersion: v1\nkind: ConfigMap\nmetadata:\n  name: a\n  namespace: \"\"\n"⟩

theorem glance_unspaced : glance unspaced =
    some (⟨"v1", "", "v1", "ConfigMap", some "a", some ""⟩, some "") := by
  decide +kernel

/-- **An object with an empty namespace is created in an empty namespace**: the path has an empty
segment, and the object is stored under that namespace. -/
theorem empty_namespace_kept :
    ∃ d o, Declaration.parse unspaced = .ok d ∧ d.object = .ok o ∧
      ¬((applyGeneric Memory.empty.catalog d).Asks fun c => ∀ place space o,
        c = .cluster (.create place space o) → place.scope = .namespaced → space ≠ some "") ∧
      configMaps.path (some "") = "/api/v1/namespaces//configmaps" ∧
      (Memory.empty.create configMaps (some "") o).2.objects.map (·.1) =
        [⟨"", "ConfigMap", some "", "a"⟩] := by
  obtain ⟨d, o, hparse, hobject, hheader, hns, hfind⟩ :=
    read_of_glance_configMap glance_unspaced
  have hname : o.metadata.name? = some "a" := by
    rw [(identity_of_object hparse hobject).1, hheader]
  refine ⟨d, o, hparse, hobject, fun h => ?_, by decide, ?_⟩
  · refine creation_of_asks hobject hfind h _ _ _ rfl rfl ?_
    rw [hns]
    rfl
  · have hfree : Memory.empty.createFailures.lookup (configMaps.kind, "a") = none := rfl
    have habsent : Memory.empty.objects.lookup (Key.ofCollection configMaps (some "") "a") = none :=
      rfl
    obtain ⟨_, hcreate⟩ := Memory.create_of_absent hname hfree habsent
    rw [hcreate]
    rfl

end Install
end BundleInstaller
