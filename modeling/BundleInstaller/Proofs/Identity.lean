import BundleInstaller.Bundle.Declaration
import BundleInstaller.Proofs.Reading

/-!
# One name for a declaration

A declaration is read twice: its header when it is routed, its object when it is installed.  The two
readers are different, and only one of them refuses a field that stands twice; where both succeed
they agree on the name and the namespace (`identity_of_object`).

* `HeaderFields.step_ok`, `object_step_ok`: what one field changes for each of the readers.
* `HeaderFields.read_ok`, `HeaderFields.read_type`: what a header has of the last entries.
* `read_ok_of_object`: both readers go through one document.
-/

namespace BundleInstaller.Bundle

open Decode Yaml Yaml.Cursor Cluster

/-- The name and the namespace that a value under `metadata` gives. -/
def identity (c : Cursor) : Option String × Option String :=
  ((c.field? nullable? "name").join, (c.field? nullable? "namespace").join)

theorem readOnce_ok {α : Type} {name : String} {current : Option α} {read : Cursor → Read α}
    {c : Cursor} {n : Nat} {r : α × Nat} (h : readOnce name current read c n = .ok r) :
    read c n = .ok r := by
  unfold readOnce at h
  cases hcurrent : current.isSome
  all_goals rw [hcurrent] at h
  · exact h
  · cases h

/-! ## Headers -/

theorem HeaderNames.step_ok {name : String} {read : HeaderNames → Cursor → Read HeaderNames}
    (hread : HeaderNames.step name = some read) {t t' : HeaderNames} {c : Cursor} {n n' : Nat}
    (h : read t c n = .ok (t', n')) :
    (name = "name" ∧ t'.name? = some c.nullable? ∧ t'.ns? = t.ns?) ∨
      (name = "namespace" ∧ t'.ns? = some c.nullable? ∧ t'.name? = t.name?) := by
  unfold HeaderNames.step at hread
  split at hread
  · cases hread
    obtain ⟨s?, _, hs, h⟩ := read_bind_ok.mp h
    obtain ⟨rfl, -⟩ := read_pure_ok.mp h
    exact .inl ⟨rfl, congrArg some (readText?_ok (readOnce_ok hs)), rfl⟩
  · cases hread
    obtain ⟨s?, _, hs, h⟩ := read_bind_ok.mp h
    obtain ⟨rfl, -⟩ := read_pure_ok.mp h
    exact .inr ⟨rfl, congrArg some (readText?_ok (readOnce_ok hs)), rfl⟩
  · cases hread

theorem HeaderNames.read_ok {c : Cursor} {names : HeaderNames} {n n' : Nat}
    (h : HeaderNames.read c n = .ok (names, n')) :
    (names.name?.join, names.ns?.join) = identity c := by
  obtain ⟨t, ht, hname⟩ := readRecord_last "name" nullable? HeaderNames.name?
    (fun _ hread t c n t' n' h => by
      rcases step_ok hread h with ⟨-, hname, -⟩ | ⟨hfield, -, -⟩
      · exact hname
      · exact absurd hfield (by decide)) rfl
    (fun _ hne _ hread t c n t' n' h => by
      rcases step_ok hread h with ⟨hfield, -, -⟩ | ⟨-, -, hname⟩
      · exact absurd hfield hne
      · exact hname) h
  cases ht
  obtain ⟨t, ht, hns⟩ := readRecord_last "namespace" nullable? HeaderNames.ns?
    (fun _ hread t c n t' n' h => by
      rcases step_ok hread h with ⟨hfield, -, -⟩ | ⟨-, hns, -⟩
      · exact absurd hfield (by decide)
      · exact hns) rfl
    (fun _ hne _ hread t c n t' n' h => by
      rcases step_ok hread h with ⟨-, -, hns⟩ | ⟨hfield, -, -⟩
      · exact hns
      · exact absurd hfield hne) h
  cases ht
  rw [hname, hns, Option.or_none, Option.or_none]
  rfl

theorem HeaderFields.step_ok {name : String} {read : HeaderFields → Cursor → Read HeaderFields}
    (hread : HeaderFields.step name = some read) {t t' : HeaderFields} {c : Cursor} {n n' : Nat}
    (h : read t c n = .ok (t', n')) :
    (name = "apiVersion" ∧ t' = { t with apiVersion? := some c.nullable? }) ∨
      (name = "kind" ∧ t' = { t with kind? := some c.nullable? }) ∨
        (name = "metadata" ∧ ∃ names? n₁ n₂, t' = { t with metadata? := some names? } ∧
          readOption HeaderNames.read c n₁ = .ok (names?, n₂)) := by
  unfold HeaderFields.step at hread
  split at hread
  · cases hread
    obtain ⟨s?, _, hs, h⟩ := read_bind_ok.mp h
    obtain ⟨rfl, -⟩ := read_pure_ok.mp h
    rw [readText?_ok (readOnce_ok hs)]
    exact .inl ⟨rfl, rfl⟩
  · cases hread
    obtain ⟨s?, _, hs, h⟩ := read_bind_ok.mp h
    obtain ⟨rfl, -⟩ := read_pure_ok.mp h
    rw [readText?_ok (readOnce_ok hs)]
    exact .inr (.inl ⟨rfl, rfl⟩)
  · cases hread
    obtain ⟨names?, _, hnames, h⟩ := read_bind_ok.mp h
    obtain ⟨rfl, -⟩ := read_pure_ok.mp h
    exact .inr (.inr ⟨rfl, names?, _, _, rfl, readOnce_ok hnames⟩)
  · cases hread

/-- The name and the namespace that were found. -/
def HeaderFields.identity? (f : HeaderFields) : Option (Option String × Option String) :=
  f.metadata?.map fun names? => (names?.bind (·.name?.join), names?.bind (·.ns?.join))

theorem field?_of_isNull {β : Type} {denote : Cursor → β} {field : String} {c : Cursor}
    (h : c.isNull = .ok true) : field? denote field c = none := by
  unfold Cursor.isNull at h
  have htarget : c.target = c := by
    unfold target
    cases hnode : c.node with
    | «alias» mark number =>
      rw [hnode] at h
      cases h
    | _ => rfl
  rw [field?, htarget]
  cases hnode : c.node with
  | mapping mark tag entries =>
    rw [hnode] at h
    cases h
  | _ => rfl

theorem HeaderFields.read_ok {c : Cursor} {f : HeaderFields} {n n' : Nat}
    (h : HeaderFields.read c n = .ok (f, n')) :
    f.identity? = c.field? (fun c => identity c.target) "metadata" := by
  obtain ⟨t, ht, hidentity⟩ := readRecord_last "metadata" (fun c => identity c.target)
    HeaderFields.identity?
    (fun _ hread t c n t' n' h => by
      rcases step_ok hread h with ⟨hfield, -⟩ | ⟨hfield, -⟩ | ⟨-, names?, n₁, n₂, rfl, hnames⟩
      · exact absurd hfield (by decide)
      · exact absurd hfield (by decide)
      · rcases readOption_ok hnames with ⟨hnull, rfl⟩ | ⟨-, names, _, _, rfl, hread⟩
        · rw [identity, field?_of_isNull hnull, field?_of_isNull hnull]
          rfl
        · rw [← HeaderNames.read_ok hread]
          rfl) rfl
    (fun _ hne _ hread t c n t' n' h => by
      rcases step_ok hread h with ⟨-, rfl⟩ | ⟨-, rfl⟩ | ⟨hfield, -⟩
      · rfl
      · rfl
      · exact absurd hfield hne) h
  cases ht
  rw [hidentity]
  exact Option.or_none

/-- The type of a header is what the last entries for it say. -/
theorem HeaderFields.read_type {c : Cursor} {f : HeaderFields} {n n' : Nat}
    (h : HeaderFields.read c n = .ok (f, n')) :
    f.apiVersion? = c.field? nullable? "apiVersion" ∧ f.kind? = c.field? nullable? "kind" := by
  obtain ⟨t, ht, hapiVersion⟩ := readRecord_last "apiVersion" nullable? HeaderFields.apiVersion?
    (fun _ hread t c n t' n' h => by
      rcases step_ok hread h with ⟨-, rfl⟩ | ⟨hfield, -⟩ | ⟨hfield, -⟩
      · rfl
      · exact absurd hfield (by decide)
      · exact absurd hfield (by decide)) rfl
    (fun _ hne _ hread t c n t' n' h => by
      rcases step_ok hread h with ⟨hfield, -⟩ | ⟨-, rfl⟩ | ⟨-, _, _, _, rfl, -⟩
      · exact absurd hfield hne
      · rfl
      · rfl) h
  cases ht
  obtain ⟨t, ht, hkind⟩ := readRecord_last "kind" nullable? HeaderFields.kind?
    (fun _ hread t c n t' n' h => by
      rcases step_ok hread h with ⟨hfield, -⟩ | ⟨-, rfl⟩ | ⟨hfield, -⟩
      · exact absurd hfield (by decide)
      · rfl
      · exact absurd hfield (by decide)) rfl
    (fun _ hne _ hread t c n t' n' h => by
      rcases step_ok hread h with ⟨-, rfl⟩ | ⟨hfield, -⟩ | ⟨-, _, _, _, rfl, -⟩
      · rfl
      · exact absurd hfield hne
      · rfl) h
  cases ht
  exact ⟨hapiVersion.trans Option.or_none, hkind.trans Option.or_none⟩

/-- A header has the fields that it was made from, its API version split in two. -/
theorem HeaderFields.header_ok {f : HeaderFields} {header : Header} (h : f.header = .ok header) :
    f.apiVersion?.join = some header.apiVersion ∧ f.kind?.join = some header.kind ∧
      (header.group, header.version) = splitApiVersion header.apiVersion ∧
        (header.name?, header.ns?) = f.identity?.getD (none, none) := by
  unfold HeaderFields.header at h
  split at h
  · rename_i apiVersion hapiVersion
    split at h
    · rename_i kind hkind
      cases h
      refine ⟨(Option.filter_eq_some_iff.mp hapiVersion).1, (Option.filter_eq_some_iff.mp hkind).1,
        rfl, ?_⟩
      unfold identity?
      cases f.metadata? <;> rfl
    · cases h
  · cases h

/-! ## Objects -/

theorem metadata_step_ok {name : String} {read : Metadata → Cursor → Read Metadata}
    (hread : Metadata.step name = some read) {t t' : Metadata} {c : Cursor} {n n' : Nat}
    (h : read t c n = .ok (t', n')) :
    (name = "name" ∧ t'.name? = c.nullable? ∧ t'.ns? = t.ns?) ∨
      (name = "namespace" ∧ t'.ns? = c.nullable? ∧ t'.name? = t.name?) ∨
        (name ≠ "name" ∧ name ≠ "namespace" ∧ t'.name? = t.name? ∧ t'.ns? = t.ns?) := by
  unfold Metadata.step at hread
  split at hread
  · cases hread
    obtain ⟨s?, _, hs, h⟩ := read_bind_ok.mp h
    obtain ⟨rfl, -⟩ := read_pure_ok.mp h
    exact .inl ⟨rfl, readText?_ok hs, rfl⟩
  · cases hread
    obtain ⟨s?, _, hs, h⟩ := read_bind_ok.mp h
    obtain ⟨rfl, -⟩ := read_pure_ok.mp h
    exact .inr (.inl ⟨rfl, readText?_ok hs, rfl⟩)
  · cases hread
    obtain ⟨s?, _, -, h⟩ := read_bind_ok.mp h
    obtain ⟨rfl, -⟩ := read_pure_ok.mp h
    exact .inr (.inr ⟨by decide, by decide, rfl, rfl⟩)
  · rename_i hname hns _
    obtain ⟨_, -, heq⟩ := Option.map_eq_some_iff.mp hread
    subst heq
    obtain ⟨_, _, -, h⟩ := read_bind_ok.mp h
    obtain ⟨rfl, -⟩ := read_pure_ok.mp h
    exact .inr (.inr ⟨hname, hns, rfl, rfl⟩)

theorem metadata_read_ok {c : Cursor} {md : Metadata} {n n' : Nat}
    (h : Metadata.read c n = .ok (md, n')) : (md.name?, md.ns?) = identity c := by
  obtain ⟨t, ht, hname⟩ := readRecord_last "name" nullable? (fun md : Metadata => some md.name?)
    (fun _ hread t c n t' n' h => by
      rcases metadata_step_ok hread h with ⟨-, hname, -⟩ | ⟨hfield, -, -⟩ | ⟨hne, -, -, -⟩
      · exact congrArg some hname
      · exact absurd hfield (by decide)
      · exact absurd rfl hne) rfl
    (fun _ hne _ hread t c n t' n' h => by
      rcases metadata_step_ok hread h with ⟨hfield, -, -⟩ | ⟨-, -, hname⟩ | ⟨-, -, hname, -⟩
      · exact absurd hfield hne
      · exact congrArg some hname
      · exact congrArg some hname) h
  cases ht
  obtain ⟨t, ht, hns⟩ := readRecord_last "namespace" nullable? (fun md : Metadata => some md.ns?)
    (fun _ hread t c n t' n' h => by
      rcases metadata_step_ok hread h with ⟨hfield, -, -⟩ | ⟨-, hns, -⟩ | ⟨-, hne, -, -⟩
      · exact absurd hfield (by decide)
      · exact congrArg some hns
      · exact absurd rfl hne) rfl
    (fun _ hne _ hread t c n t' n' h => by
      rcases metadata_step_ok hread h with ⟨-, -, hns⟩ | ⟨hfield, -, -⟩ | ⟨-, -, -, hns⟩
      · exact congrArg some hns
      · exact absurd hfield hne
      · exact congrArg some hns) h
  cases ht
  have hjoin : ∀ (x : Option (Option String)) {s? : Option String},
      some s? = x.or (some none) → s? = x.join := by
    rintro (_ | x) s? h <;> exact Option.some.inj h
  rw [hjoin _ hname, hjoin _ hns]
  rfl

theorem metadata_identity {c : Cursor} {md : Metadata} {n n' : Nat}
    (h : Metadata.read c n = .ok (md, n')) : (md.name?, md.ns?) = identity c.target := by
  rw [metadata_read_ok h]
  have htarget : c.target.target = c.target := by
    rcases readRecord_ok h with ⟨_, _, _, _, _, _, hnode, -, -⟩ | ⟨hblank, -⟩
    · rw [target, hnode]
    · unfold isBlank at hblank
      split at hblank
      · rename_i hnode
        rw [target, hnode]
      · rename_i hnode
        rw [target, hnode]
      · cases hblank
  rw [identity, identity, field?, field?, field?, field?, htarget]

theorem object_step_ok {name : String} {read : Object.Draft → Cursor → Read Object.Draft}
    (hread : Object.step name = some read) {t t' : Object.Draft} {c : Cursor} {n n' : Nat}
    (h : read t c n = .ok (t', n')) :
    (name = "metadata" ∧ ∃ md n₁ n₂, t' = { t with metadata := some md } ∧
        Metadata.read c n₁ = .ok (md, n₂)) ∨
      (name ≠ "metadata" ∧ ∃ content n₁ n₂,
        t' = { t with entries := (name, content) :: t.entries } ∧
          c.assemble contentAssembly n₁ = .ok (content, n₂)) := by
  unfold Object.step at hread
  split at hread
  · cases hread
    obtain ⟨md, _, hmd, h⟩ := read_bind_ok.mp h
    obtain ⟨rfl, -⟩ := read_pure_ok.mp h
    exact .inl ⟨‹_›, md, _, _, rfl, readOnce_ok hmd⟩
  · cases hread
    obtain ⟨content, _, hcontent, h⟩ := read_bind_ok.mp h
    obtain ⟨rfl, -⟩ := read_pure_ok.mp h
    exact .inr ⟨‹_›, content, _, _, rfl, hcontent⟩

theorem ofDraft_metadata {d : Object.Draft} {o : Object} (h : Object.ofDraft d = .ok o) :
    o.metadata = d.metadata.getD .empty := by
  unfold Object.ofDraft at h
  dsimp only at h
  split at h
  · cases h
  · cases h
    rfl

theorem object_read_ok {c : Cursor} {o : Object} {n n' : Nat}
    (h : Object.read c n = .ok (o, n')) :
    (o.metadata.name?, o.metadata.ns?) =
      (c.field? (fun c => identity c.target) "metadata").getD (none, none) := by
  obtain ⟨t, ht, hidentity⟩ := readRecord_last "metadata" (fun c => identity c.target)
    (fun d : Object.Draft => d.metadata.map fun md => (md.name?, md.ns?))
    (fun _ hread t c n t' n' h => by
      rcases object_step_ok hread h with ⟨-, md, _, _, rfl, hread⟩ | ⟨hne, -⟩
      · rw [Option.map_some, metadata_identity hread]
      · exact absurd rfl hne) rfl
    (fun _ hne _ hread t c n t' n' h => by
      rcases object_step_ok hread h with ⟨hfield, -⟩ | ⟨-, _, _, _, rfl, -⟩
      · exact absurd hfield hne
      · rfl) h
  rw [Option.map_none, Option.or_none] at hidentity
  rw [ofDraft_metadata ht, ← hidentity]
  cases t.metadata <;> rfl

/-! ## Declarations -/

theorem readDocument_ok {α : Type} {read : Cursor → Read α} {bytes : Bytes} {a : α}
    (h : readDocument read bytes = .ok a) :
    ∃ document n, Document.ofBytes bytes = [document] ∧ read document.cursor 0 = .ok (a, n) := by
  unfold readDocument at h
  cases hdocuments : Document.ofBytes bytes with
  | nil =>
    rw [hdocuments] at h
    cases h
  | cons document others =>
    rw [hdocuments] at h
    cases hread : read document.cursor 0 with
    | error e =>
      have hrun : (read document.cursor).run 0 = .error e := hread
      simp only [hrun, bind, Except.bind] at h
      cases h
    | ok result =>
      have hrun : (read document.cursor).run 0 = .ok result := hread
      simp only [hrun, bind, Except.bind] at h
      split at h
      · cases h
      · split at h
        · rename_i hothers
          cases h
          rw [List.isEmpty_iff.mp hothers]
          exact ⟨document, result.2, rfl, hread⟩
        · cases h

theorem parse_ok {document : Document} {d : Declaration} (h : Declaration.parse document = .ok d) :
    d.document = document ∧ ∃ fields, readDocument HeaderFields.read document.bytes = .ok fields ∧
      fields.header = .ok d.header := by
  unfold Declaration.parse at h
  split at h
  · cases h
  · rename_i fields hfields
    split at h
    · cases h
    · rename_i header hheader
      cases h
      exact ⟨rfl, fields, hfields, hheader⟩

theorem object_ok {d : Declaration} {o : Object} (h : d.object = .ok o) :
    readDocument Object.read d.document.bytes = .ok o ∧ o.type?.isSome := by
  unfold Declaration.object at h
  split at h
  · cases h
  · rename_i hread
    split at h
    · cases h
      exact ⟨hread, ‹_›⟩
    · cases h

theorem read_ok_of_object {document : Document} {d : Declaration} {o : Object}
    (hparse : Declaration.parse document = .ok d) (hobject : d.object = .ok o) :
    ∃ tree fields n n', Document.ofBytes document.bytes = [tree] ∧
      HeaderFields.read tree.cursor 0 = .ok (fields, n) ∧ fields.header = .ok d.header ∧
        Object.read tree.cursor 0 = .ok (o, n') := by
  obtain ⟨rfl, fields, hfields, hheader⟩ := parse_ok hparse
  obtain ⟨tree, n, htree, hfields⟩ := readDocument_ok hfields
  obtain ⟨tree', n', htree', hobject⟩ := readDocument_ok (object_ok hobject).1
  cases htree.symm.trans htree'
  exact ⟨tree, fields, n, n', htree, hfields, hheader, hobject⟩

/-- **Where a header and an object can be read, they have the same name and namespace.** -/
theorem identity_of_object {document : Document} {d : Declaration} {o : Object}
    (hparse : Declaration.parse document = .ok d) (hobject : d.object = .ok o) :
    o.metadata.name? = d.header.name? ∧ o.metadata.ns? = d.header.ns? := by
  obtain ⟨tree, fields, n, n', -, hfields, hheader, hobject⟩ := read_ok_of_object hparse hobject
  obtain ⟨-, -, -, hidentity⟩ := HeaderFields.header_ok hheader
  rw [HeaderFields.read_ok hfields] at hidentity
  exact Prod.mk.inj ((object_read_ok hobject).trans hidentity.symm)

end BundleInstaller.Bundle
