import BundleInstaller.Cluster.Collection
import BundleInstaller.Text.Words

/-!
# Endpoints that do not collide

The path of a collection is read from both ends.  Its segments, the texts between its slashes, begin
with the root, the group and the version, and they end with the plural; what is left between them
tells the namespace, which may have slashes of its own.  Collections whose group, version and plural
have no slash therefore never share a path unless they share all of these and the namespace too.

* `segments_slash`, `segments_inj`: segments of joined texts; a text is told by its segments.
* `segments_path`: the segments of the path of a collection.
* `path_eq_path_iff`: when two collections have the same path.
* `empty_mem_segments_path`: where a path has an empty segment.
-/

namespace BundleInstaller

/-! ## Segments -/

namespace Text

/-- The texts between the slashes of a path. -/
def segments (s : String) : List String := (splitOn '/' s.toList).map String.ofList

theorem segments_slash (a b : String) : segments (a ++ "/" ++ b) = segments a ++ segments b := by
  have hchars : (a ++ "/" ++ b).toList = a.toList ++ '/' :: b.toList := by simp
  rw [segments, hchars, splitOn_append, List.map_append]
  rfl

theorem segments_of_not_mem {s : String} (h : '/' ∉ s.toList) : segments s = [s] := by
  rw [segments, splitOn_of_not_mem h, List.map_singleton, String.ofList_toList]

theorem segments_inj {a b : String} : segments a = segments b ↔ a = b := by
  refine ⟨fun h => ?_, congrArg _⟩
  have hwords : splitOn '/' a.toList = splitOn '/' b.toList :=
    (List.map_inj_right fun _ _ => String.ofList_inj.mp).mp h
  exact String.toList_inj.mp (splitOn_inj.mp hwords)

end Text

namespace Cluster.Collection

open Text

variable {c c' : Collection} {declared declared' : Option String}

/-! ## Namespaces -/

theorem scope_eq_of_targetNamespace
    (h : c.targetNamespace declared = c'.targetNamespace declared') : c.scope = c'.scope := by
  unfold targetNamespace at h
  cases hscope : c.scope <;> cases hscope' : c'.scope <;> simp_all

@[simp] theorem targetNamespace_targetNamespace :
    c.targetNamespace (c.targetNamespace declared) = c.targetNamespace declared := by
  unfold targetNamespace
  cases c.scope <;> rfl

/-! ## Paths -/

theorem segments_apiVersion : segments c.apiVersion =
    (if c.group = "" then [] else segments c.group) ++ segments c.version := by
  unfold apiVersion
  by_cases hgroup : c.group = ""
  · simp [hgroup]
  · rw [if_neg (by simpa using hgroup), if_neg hgroup, segments_slash]

/-- The segment that the path of a collection of the core group begins with, or of another group. -/
def rootName (c : Collection) : String := if c.group = "" then "api" else "apis"

theorem rootName_eq_iff : c.rootName = c'.rootName ↔ (c.group = "" ↔ c'.group = "") := by
  unfold rootName
  by_cases hgroup : c.group = "" <;> by_cases hgroup' : c'.group = "" <;> simp [hgroup, hgroup']

theorem segments_apiRoot : segments c.apiRoot = ["", c.rootName] := by
  unfold apiRoot rootName
  by_cases hgroup : c.group = ""
  · simp only [hgroup]
    decide
  · rw [if_neg (by simpa using hgroup), if_neg hgroup]
    decide

/-- The segments that stand for a namespace. -/
def spaceSegments : Option String → List String
  | some space => "namespaces" :: segments space
  | none => []

theorem spaceSegments_inj {space space' : Option String} :
    spaceSegments space = spaceSegments space' ↔ space = space' := by
  cases space <;> cases space' <;> simp [spaceSegments, segments_inj]

/-- **The segments of a path are those of its parts.** -/
theorem segments_path : segments (c.path declared) =
    "" :: c.rootName :: (segments c.apiVersion ++
      (spaceSegments (c.targetNamespace declared) ++ segments c.plural)) := by
  have hbase : ∀ s, segments (c.apiRoot ++ "/" ++ c.apiVersion ++ "/" ++ s) =
      "" :: c.rootName :: (segments c.apiVersion ++ segments s) := by
    intro s
    rw [segments_slash, segments_slash, segments_apiRoot]
    rfl
  have hnamespaces : segments "namespaces" = ["namespaces"] := segments_of_not_mem (by decide)
  unfold path
  cases c.targetNamespace declared with
  | none => exact hbase c.plural
  | some space =>
    calc segments (c.apiRoot ++ "/" ++ c.apiVersion ++ "/" ++ "namespaces/" ++ space ++ "/" ++
          c.plural)
        = segments (c.apiRoot ++ "/" ++ c.apiVersion ++ "/" ++
            ("namespaces" ++ "/" ++ space ++ "/" ++ c.plural)) := by
          simp only [String.append_assoc]
          rfl
      _ = _ := by
          rw [hbase, segments_slash, segments_slash, hnamespaces]
          rfl

theorem empty_mem_segments_apiVersion : "" ∈ segments c.apiVersion ↔
    (c.group ≠ "" ∧ "" ∈ segments c.group) ∨ "" ∈ segments c.version := by
  rw [segments_apiVersion, List.mem_append]
  by_cases hgroup : c.group = "" <;> simp [hgroup]

/-- **Behind its root, a path has an empty segment just where one of its parts has one.** -/
theorem empty_mem_segments_path : "" ∈ (segments (c.path declared)).tail ↔
    "" ∈ segments c.apiVersion ∨
      (∃ space, c.targetNamespace declared = some space ∧ "" ∈ segments space) ∨
        "" ∈ segments c.plural := by
  have hroot : "" ≠ c.rootName := by
    unfold rootName
    split <;> decide
  have hspace : "" ∈ spaceSegments (c.targetNamespace declared) ↔
      ∃ space, c.targetNamespace declared = some space ∧ "" ∈ segments space := by
    cases c.targetNamespace declared <;> simp [spaceSegments]
  rw [segments_path, List.tail_cons, List.mem_cons, or_iff_right hroot, List.mem_append,
    List.mem_append, hspace]

theorem path_congr (hgroup : c.group = c'.group) (hversion : c.version = c'.version)
    (hplural : c.plural = c'.plural)
    (hspace : c.targetNamespace declared = c'.targetNamespace declared') :
    c.path declared = c'.path declared' := by
  unfold path apiRoot apiVersion
  rw [hgroup, hversion, hplural, hspace]

/-! ## Collisions -/

/-- No part of a path but the namespace has a slash. -/
structure Slashless (c : Collection) : Prop where
  group : '/' ∉ c.group.toList
  version : '/' ∉ c.version.toList
  plural : '/' ∉ c.plural.toList

theorem Slashless.segments_apiVersion (h : c.Slashless) :
    segments c.apiVersion = if c.group = "" then [c.version] else [c.group, c.version] := by
  rw [Collection.segments_apiVersion, segments_of_not_mem h.group, segments_of_not_mem h.version]
  split <;> rfl

/-- **Endpoints never collide.**  Two collections whose group, version and plural have no slash have
the same path just if these are the same, and the namespace of the object is the same, whatever was
declared for it.  So no path of a kind without namespaces is one of a kind with namespaces. -/
theorem path_eq_path_iff (h : c.Slashless) (h' : c'.Slashless) :
    c.path declared = c'.path declared' ↔
      c.group = c'.group ∧ c.version = c'.version ∧ c.plural = c'.plural ∧ c.scope = c'.scope ∧
        c.targetNamespace declared = c'.targetNamespace declared' := by
  constructor
  · intro hpath
    have hsegments := congrArg segments hpath
    rw [segments_path, segments_path, h.segments_apiVersion, h'.segments_apiVersion,
      segments_of_not_mem h.plural, segments_of_not_mem h'.plural, List.cons.injEq,
      List.cons.injEq] at hsegments
    obtain ⟨-, hroot, hrest⟩ := hsegments
    have hempty : c.group = "" ↔ c'.group = "" := rootName_eq_iff.mp hroot
    -- the group and the version are the first segments behind the root, the plural is the last one
    obtain ⟨⟨hgroup, hversion⟩, hspace, hplural⟩ :
        (c.group = c'.group ∧ c.version = c'.version) ∧
          spaceSegments (c.targetNamespace declared) =
            spaceSegments (c'.targetNamespace declared') ∧ c.plural = c'.plural := by
      by_cases hgroup : c.group = ""
      · have hgroup' := hempty.mp hgroup
        rw [if_pos hgroup, if_pos hgroup', List.singleton_append, List.singleton_append,
          List.cons.injEq] at hrest
        exact ⟨⟨hgroup.trans hgroup'.symm, hrest.1⟩, List.append_singleton_inj.mp hrest.2⟩
      · rw [if_neg hgroup, if_neg (mt hempty.mpr hgroup)] at hrest
        simp only [List.cons_append, List.nil_append, List.cons.injEq] at hrest
        exact ⟨⟨hrest.1, hrest.2.1⟩, List.append_singleton_inj.mp hrest.2.2⟩
    have htarget := spaceSegments_inj.mp hspace
    exact ⟨hgroup, hversion, hplural, scope_eq_of_targetNamespace htarget, htarget⟩
  · rintro ⟨hgroup, hversion, hplural, -, hspace⟩
    exact path_congr hgroup hversion hplural hspace

/-- A collection without any name, whose paths have as many empty segments as paths can have. -/
def blank (scope : Scope) : Collection := ⟨"", "", "Blank", "", scope⟩

theorem slashless_blank (scope : Scope) : (blank scope).Slashless :=
  ⟨List.not_mem_nil, List.not_mem_nil, List.not_mem_nil⟩

/-- A namespace with slashes leads nowhere else, an empty one is told from none, and no namespace is
the default one. -/
theorem path_eq_path_iff_blank :
    (∀ scope, (blank scope).Slashless) ∧
      (blank .namespaced).path (some "namespaces/default") ≠ (blank .namespaced).path none ∧
      (blank .namespaced).path (some "") ≠ (blank .cluster).path (some "") ∧
      (blank .namespaced).path none = (blank .namespaced).path (some "default") := by
  refine ⟨slashless_blank, fun h => ?_, fun h => ?_, ?_⟩
  · obtain ⟨-, -, -, -, hspace⟩ := (path_eq_path_iff (slashless_blank _) (slashless_blank _)).mp h
    exact absurd hspace (by decide)
  · obtain ⟨-, -, -, hscope, -⟩ := (path_eq_path_iff (slashless_blank _) (slashless_blank _)).mp h
    cases hscope
  · exact (path_eq_path_iff (slashless_blank _) (slashless_blank _)).mpr ⟨rfl, rfl, rfl, rfl, rfl⟩

end Cluster.Collection
end BundleInstaller
