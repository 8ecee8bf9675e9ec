import BundleInstaller.Proofs.Denotation
import BundleInstaller.Proofs.Identity

/-!
# A header and its object

A declaration is routed by its header and applied by its object.  Where both can be read they say
the same: they have the same type and the same name, and the object holds every other field of the
document, with the value that the field has.

* `splitApiVersion_splits`: an API version is split at its last slash.
* `takeType_some`: where a type is taken from entries, each of its parts stands there once.
* `madeFrom_of_ofDraft`: what an object has of the entries that it is made from.
* `object_describes_header`: the object of a declaration and its header.
-/

namespace BundleInstaller.Bundle

open Decode Yaml Yaml.Cursor Cluster

/-! ## API versions -/

/-- A group and a version are an API version with a slash between them, or the group is empty and the
API version has no slash. -/
def Splits (apiVersion group version : String) : Prop :=
  (apiVersion = group ++ "/" ++ version ∧ '/' ∉ version.toList) ∨
    ('/' ∉ apiVersion.toList ∧ group = "" ∧ version = apiVersion)

/-- **An API version is split at its last slash.** -/
theorem splitApiVersion_splits (apiVersion : String) :
    Splits apiVersion (splitApiVersion apiVersion).1 (splitApiVersion apiVersion).2 := by
  unfold splitApiVersion
  dsimp only
  have hversion : '/' ∉ (apiVersion.toList.reverse.takeWhile (· != '/')).reverse := by
    intro hmem
    have hne := List.all_eq_true.mp List.all_takeWhile '/' (List.mem_reverse.mp hmem)
    simp at hne
  have hsplit : (apiVersion.toList.reverse.dropWhile (· != '/')).reverse ++
      (apiVersion.toList.reverse.takeWhile (· != '/')).reverse = apiVersion.toList := by
    rw [← List.reverse_append, List.takeWhile_append_dropWhile, List.reverse_reverse]
  have hslash := List.head?_dropWhile_not (· != '/') apiVersion.toList.reverse
  rw [← String.length_toList]
  -- only the two parts matter from here, not how they were found
  generalize (apiVersion.toList.reverse.takeWhile (· != '/')).reverse = version at *
  generalize apiVersion.toList.reverse.dropWhile (· != '/') = before at *
  rw [← hsplit, List.length_append, Nat.add_sub_cancel, List.take_left]
  cases before with
  | nil =>
    have hwhole : version = apiVersion.toList := hsplit
    refine .inr ⟨hwhole ▸ hversion, rfl, ?_⟩
    rw [hwhole, String.ofList_toList]
  | cons c before =>
    have hc : c = '/' := by simpa using hslash
    refine .inl ⟨?_, ?_⟩
    · rw [← String.toList_inj, ← hsplit, hc, List.reverse_cons, List.dropLast_concat]
      simp
    · rw [String.toList_ofList]
      exact hversion

/-! ## Types -/

theorem text_of_text? {content : Content} {s : String} (h : content.text? = some s) :
    content = .text s := by
  unfold Content.text? at h
  split at h
  · cases h
    rfl
  · cases h

/-- **Where a type is found, each of its parts is the only entry of its name, and a text.** -/
theorem takeType_some {apiVersion? kind? : Option String} {entries left : List (String × Content)}
    {apiVersion kind : String}
    (h : Object.takeType apiVersion? kind? entries = (some (apiVersion, kind), left)) :
    (apiVersion?.map Content.text).toList ++ valuesOf "apiVersion" entries = [.text apiVersion] ∧
      (kind?.map Content.text).toList ++ valuesOf "kind" entries = [.text kind] ∧
        left = entries.filter fun e => e.1 != "apiVersion" && e.1 != "kind" := by
  fun_induction Object.takeType apiVersion? kind? entries generalizing left with
  | case1 a k =>
    cases h
    exact ⟨rfl, rfl, rfl⟩
  -- no type is found if a part is missing, is no text or stands twice
  | case2 => cases h
  | case3 kind? value rest a hvalue ih =>
    obtain ⟨hapiVersion, hkind, hleft⟩ := ih h
    rw [text_of_text? hvalue, valuesOf_cons_self, valuesOf_cons_of_ne (by decide),
      List.filter_cons_of_neg (by simp)]
    exact ⟨hapiVersion, hkind, hleft⟩
  | case4 => cases h
  | case5 apiVersion? value rest k hvalue hne ih =>
    obtain ⟨hapiVersion, hkind, hleft⟩ := ih h
    rw [text_of_text? hvalue, valuesOf_cons_self, valuesOf_cons_of_ne (by decide),
      List.filter_cons_of_neg (by simp)]
    exact ⟨hapiVersion, hkind, hleft⟩
  | case6 => cases h
  | case7 apiVersion? kind? key value rest hapi hkey type left' heq ih =>
    cases h
    obtain ⟨hapiVersion, hkind, hleft⟩ := ih heq
    rw [valuesOf_cons_of_ne hapi, valuesOf_cons_of_ne hkey,
      List.filter_cons_of_pos (by simp [hapi, hkey])]
    exact ⟨hapiVersion, hkind, congrArg (_ :: ·) hleft⟩

/-! ## Objects -/

theorem entriesToJson_ok {entries : List (String × Content)} {data : List (String × Json)}
    (h : Content.entriesToJson (entries.map fun (k, v) => (.text k, v)) = .ok data) :
    (data.map fun e => (e.1, Except.ok e.2)) = entries.map fun e => (e.1, e.2.toJson) := by
  induction entries generalizing data with
  | nil =>
    cases h
    rfl
  | cons e rest ih =>
    obtain ⟨name, content⟩ := e
    rw [List.map_cons, Content.entriesToJson] at h
    cases hj : content.toJson with
    | error m =>
      simp only [Content.key, hj] at h
      cases h
    | ok j =>
      simp only [Content.key, hj] at h
      obtain ⟨later, hlater, rfl⟩ := map_ok_iff.mp h
      rw [List.map_cons, List.map_cons, ih hlater, hj]

/-- What an object with this type has of the entries that it is made from: its type, and of each
other name the last entry. -/
structure MadeFrom (d : Object.Draft) (o : Object) (apiVersion kind : String) : Prop where
  apiVersion : d.entries.lookup "apiVersion" = some (.text apiVersion)
  kind : d.entries.lookup "kind" = some (.text kind)
  ascending : Json.Ascending o.data
  typed : ∀ key, key = "apiVersion" ∨ key = "kind" → o.data.lookup key = none
  absent : ∀ key, d.entries.lookup key = none → o.data.lookup key = none
  present : ∀ key content, ¬(key = "apiVersion" ∨ key = "kind") →
    d.entries.lookup key = some content → ∃ j, content.toJson = .ok j ∧ o.data.lookup key = some j

/-- The data are the entries that are no part of the type, of each name the last one. -/
theorem lookup_data {entries left : List (String × Content)} {data : List (String × Json)}
    (hleft : left = entries.reverse.filter fun e => e.1 != "apiVersion" && e.1 != "kind")
    (hdata : Content.entriesToJson (left.map fun (k, v) => (.text k, v)) = .ok data)
    (key : String) :
    ((data.foldl (fun acc e => Json.setEntry e.1 e.2 acc) []).lookup key).map Except.ok =
      if key = "apiVersion" ∨ key = "kind" then none
      else (entries.lookup key).map Content.toJson := by
  calc ((data.foldl (fun acc e => Json.setEntry e.1 e.2 acc) []).lookup key).map Except.ok
      = (data.reverse.lookup key).map Except.ok := by
        rw [Json.lookup_foldl_setEntry, List.lookup_nil, Option.or_none]
    _ = (data.map fun e => (e.1, Except.ok e.2)).reverse.lookup key := by
        rw [← List.map_reverse, lookup_map_snd]
    _ = ((entries.filter fun e => e.1 != "apiVersion" && e.1 != "kind").lookup key).map
          Content.toJson := by
        rw [entriesToJson_ok hdata, hleft, ← List.map_reverse, lookup_map_snd,
          ← List.filter_reverse, List.reverse_reverse]
    _ = _ := by
        split
        · rename_i hkey
          rw [lookup_filter_of_forall_not, Option.map_none]
          intro value
          rcases hkey with rfl | rfl <;> rfl
        · rename_i hkey
          rw [lookup_filter_of_forall]
          intro value
          simpa using hkey

/-- **An object that has a type is made from its entries, and from all of them.** -/
theorem madeFrom_of_ofDraft {d : Object.Draft} {o : Object} {apiVersion kind : String}
    (h : Object.ofDraft d = .ok o) (htype : o.type? = some (apiVersion, kind)) :
    MadeFrom d o apiVersion kind := by
  unfold Object.ofDraft at h
  cases htake : Object.takeType none none d.entries.reverse with
  | mk type left =>
    rw [htake] at h
    dsimp only at h
    split at h
    · cases h
    · rename_i data hdata
      cases h
      cases htype
      obtain ⟨hapiVersion, hkind, hleft⟩ := takeType_some htake
      have hlast : ∀ {name s}, valuesOf name d.entries.reverse = [Content.text s] →
          d.entries.lookup name = some (.text s) := by
        intro name s hvalues
        rw [valuesOf_reverse, List.reverse_eq_iff] at hvalues
        rw [lookup_eq_head?, hvalues]
        rfl
      have hlookup := lookup_data hleft hdata
      refine ⟨hlast hapiVersion, hlast hkind, Json.Ascending.foldl_setEntry .nil data, ?_, ?_, ?_⟩
      · intro key hkey
        exact Option.map_eq_none_iff.mp ((hlookup key).trans (if_pos hkey))
      · intro key hnone
        refine Option.map_eq_none_iff.mp ((hlookup key).trans ?_)
        rw [hnone, Option.map_none, ite_self]
      · intro key content hkey hsome
        have hmap := hlookup key
        rw [if_neg hkey, hsome, Option.map_some, Option.map_eq_some_iff] at hmap
        obtain ⟨j, hj, htoJson⟩ := hmap
        exact ⟨j, htoJson.symm, hj⟩

section

variable {c : Cursor} {o : Object} {key : String} {n n' : Nat}

theorem object_entry (h : Object.read c n = .ok (o, n')) (hkey : key ≠ "metadata") :
    ∃ t, Object.ofDraft t = .ok o ∧
      ((field? id key c = none ∧ t.entries.lookup key = none) ∨
        ∃ c' content, field? id key c = some c' ∧ t.entries.lookup key = some content ∧
          ∃ n₁ n₂, c'.assemble contentAssembly n₁ = .ok (content, n₂)) := by
  refine readRecord_made key (fun t : Object.Draft => t.entries.lookup key) ?_ ?_ ?_ h
  · intro read hread t c n t' n' h
    rcases object_step_ok hread h with ⟨hfield, -⟩ | ⟨-, content, n₁, n₂, rfl, hcontent⟩
    · exact absurd hfield hkey
    · exact ⟨content, List.lookup_cons_self, n₁, n₂, hcontent⟩
  · unfold Object.step
    rw [if_neg hkey]
    rfl
  · intro name hne read hread t c n t' n' h
    rcases object_step_ok hread h with ⟨-, _, _, _, rfl, -⟩ | ⟨-, content, _, _, rfl, -⟩
    · rfl
    · exact lookup_cons_of_ne hne.symm content t.entries

theorem object_entry_metadata (h : Object.read c n = .ok (o, n')) :
    ∃ t, Object.ofDraft t = .ok o ∧ t.entries.lookup "metadata" = none := by
  refine readRecord_keeps (P := fun t : Object.Draft => t.entries.lookup "metadata" = none) rfl ?_ h
  intro name read hread t c n t' n' ht h
  rcases object_step_ok hread h with ⟨-, _, _, _, rfl, -⟩ | ⟨hne, content, _, _, rfl, -⟩
  · exact ht
  · exact (lookup_cons_of_ne hne.symm content t.entries).trans ht

end

/-! ## Declarations -/

theorem nullable?_of_text? {c : Cursor} {s s' : String} (htext : c.target.text? = some s)
    (hnullable : c.nullable? = some s') : s' = s := by
  have hscalar : c.target.target = c.target := by
    unfold text? at htext
    split at htext
    · rename_i hnode
      rw [target.eq_def c.target, hnode]
    · cases htext
  unfold nullable? at hnullable
  rw [hscalar, htext] at hnullable
  split at hnullable
  · cases hnullable
  · exact (Option.some.inj hnullable).symm

/-- A field that is a text among the entries is the same text to a reader of headers. -/
theorem object_text {c : Cursor} {o : Object} {key s s' : String} {n n' : Nat}
    (h : Object.read c n = .ok (o, n')) (hkey : key ≠ "metadata")
    (htext : ∀ t, Object.ofDraft t = .ok o → t.entries.lookup key = some (.text s))
    (hheader : (c.field? nullable? key).join = some s') : s' = s := by
  rw [field?_eq_map] at hheader
  obtain ⟨t, ht, ⟨hnone, -⟩ | ⟨c', content, hsome, hcontent, n₁, n₂, hread⟩⟩ := object_entry h hkey
  · rw [hnone] at hheader
    cases hheader
  · rw [hsome] at hheader
    cases (htext t ht).symm.trans hcontent
    exact nullable?_of_text? (text_of_assembleAt (field?_some hsome).2 hread) hheader

/-- The names of the fields that an object keeps apart from the others. -/
def reserved : List String := ["apiVersion", "kind", "metadata"]

/-- The data of an object are the fields of a document that are not kept apart, with the values that
they have as JSON, and nothing else. -/
structure Carries (tree : Yaml.Document) (data : List (String × Json)) : Prop where
  ascending : Json.Ascending data
  apart : ∀ key ∈ reserved, data.lookup key = none
  absent : ∀ key ∉ reserved, tree.field? key = none → data.lookup key = none
  present : ∀ key ∉ reserved, ∀ node, tree.field? key = some node →
    ∃ j, Denotes tree node j ∧ data.lookup key = some j

/-- **An object with a type carries the fields of its document.** -/
theorem object_carries {tree : Yaml.Document} {o : Object} {apiVersion kind : String} {n n' : Nat}
    (htree : tree.Direct) (h : Object.read tree.cursor n = .ok (o, n'))
    (htype : o.type? = some (apiVersion, kind)) : Carries tree o.data := by
  obtain ⟨t, ht, hmetadata⟩ := object_entry_metadata h
  have hmade := madeFrom_of_ofDraft ht htype
  have hother : ∀ key ∉ reserved, key ≠ "metadata" ∧ ¬(key = "apiVersion" ∨ key = "kind") := by
    intro key hkey
    constructor
    · rintro rfl
      exact hkey (by decide)
    · rintro (rfl | rfl) <;> exact hkey (by decide)
  refine ⟨hmade.ascending, ?_, ?_, ?_⟩
  · intro key hkey
    by_cases htyped : key = "apiVersion" ∨ key = "kind"
    · exact hmade.typed key htyped
    · have hkey' : key = "metadata" := by simpa [reserved, not_or.mp htyped] using hkey
      rw [hkey']
      exact hmade.absent _ hmetadata
  · intro key hkey hfield
    rw [Document.field?, field?_eq_map, Option.map_eq_none_iff] at hfield
    obtain ⟨t, ht, ⟨-, hnone⟩ | ⟨c, content, hsome, -⟩⟩ := object_entry h (hother key hkey).1
    · exact (madeFrom_of_ofDraft ht htype).absent key hnone
    · rw [hfield] at hsome
      cases hsome
  · intro key hkey node hfield
    obtain ⟨hkey', htyped⟩ := hother key hkey
    rw [Document.field?, field?_eq_map, Option.map_eq_some_iff] at hfield
    obtain ⟨c, hc, rfl⟩ := hfield
    obtain ⟨t, ht, ⟨hnone, -⟩ | ⟨c', content, hsome, hcontent, n₁, n₂, hread⟩⟩ :=
      object_entry h hkey'
    · rw [hc] at hnone
      cases hnone
    · cases hc.symm.trans hsome
      obtain ⟨hdocument, htagged⟩ := field?_some hc
      obtain ⟨j, hj, hlookup⟩ := (madeFrom_of_ofDraft ht htype).present key content htyped hcontent
      exact ⟨j, denotes_of_assembleAt htree c.depth c content n₁ n₂ j hread hj hdocument htagged,
        hlookup⟩

/-- **The header and the object of a declaration describe the same thing.**  They have the same type
and the same name, the group and the version are those of the type, and the object carries every
other field of the document. -/
theorem object_describes_header {document : Document} {d : Declaration} {o : Object}
    (hparse : Declaration.parse document = .ok d) (hobject : d.object = .ok o) :
    o.type? = some (d.header.apiVersion, d.header.kind) ∧
      o.metadata.name? = d.header.name? ∧ o.metadata.ns? = d.header.ns? ∧
        Splits d.header.apiVersion d.header.group d.header.version ∧
          ∃ tree, Document.ofBytes document.bytes = [tree] ∧ Carries tree o.data := by
  obtain ⟨hname, hns⟩ := identity_of_object hparse hobject
  obtain ⟨tree, fields, n, n', htree, hfields, hheader, hread⟩ := read_ok_of_object hparse hobject
  obtain ⟨⟨apiVersion, kind⟩, htype⟩ := Option.isSome_iff_exists.mp (object_ok hobject).2
  obtain ⟨hapiVersion, hkind, hsplit, -⟩ := HeaderFields.header_ok hheader
  obtain ⟨hapiVersion', hkind'⟩ := HeaderFields.read_type hfields
  rw [hapiVersion'] at hapiVersion
  rw [hkind'] at hkind
  have hapi : d.header.apiVersion = apiVersion :=
    object_text hread (by decide) (fun t ht => (madeFrom_of_ofDraft ht htype).apiVersion) hapiVersion
  have hkinds : d.header.kind = kind :=
    object_text hread (by decide) (fun t ht => (madeFrom_of_ofDraft ht htype).kind) hkind
  have hdirect : tree.Direct := direct_of_mem_ofBytes (by rw [htree]; exact List.mem_singleton_self _)
  refine ⟨?_, hname, hns, ?_, tree, htree, object_carries hdirect hread htype⟩
  · rw [htype, hapi, hkinds]
  · have hsplits := splitApiVersion_splits d.header.apiVersion
    rw [← hsplit] at hsplits
    exact hsplits

/-- A document with an alias, and with a field that stands twice. -/
def aliased : Document :=
  ⟨1, Text.Utf8.ofString ("apiVersion: apps/v1\nkind: Deployment\nmetadata: {name: web}\n" ++
    "spec: 1\ncopy: &a {replicas: 3}\nspec: *a\n")⟩

/-- The document is routed as a deployment, and its object has the two other fields. -/
theorem object_describes_header_aliased :
    ∃ d o, Declaration.parse aliased = .ok d ∧ d.object = .ok o ∧
      d.header = ⟨"apps/v1", "apps", "v1", "Deployment", some "web", none⟩ ∧
      o.data.map Prod.fst = ["copy", "spec"] ∧ o.type? = some ("apps/v1", "Deployment") ∧
      o.metadata.name? = some "web" ∧ o.metadata.ns? = none ∧
      ∃ tree, Document.ofBytes aliased.bytes = [tree] ∧ Carries tree o.data := by
  have hread : ((Declaration.parse aliased).toOption.bind fun d =>
      d.object.toOption.map fun o => (d.header, o.data.map Prod.fst)) =
        some (⟨"apps/v1", "apps", "v1", "Deployment", some "web", none⟩, ["copy", "spec"]) := by
    decide +kernel
  cases hparse : Declaration.parse aliased with
  | error e =>
    rw [hparse] at hread
    cases hread
  | ok d =>
    cases hobject : d.object with
    | error e =>
      simp only [hparse, Except.toOption, Option.bind_some, hobject] at hread
      cases hread
    | ok o =>
      simp only [hparse, Except.toOption, Option.bind_some, hobject, Option.map_some,
        Option.some.injEq, Prod.mk.injEq] at hread
      obtain ⟨hheader, hkeys⟩ := hread
      obtain ⟨htype, hname, hns, -, hcarries⟩ := object_describes_header hparse hobject
      rw [hheader] at htype hname hns
      exact ⟨d, o, rfl, hobject, hheader, hkeys, htype, hname, hns, hcarries⟩

end BundleInstaller.Bundle
