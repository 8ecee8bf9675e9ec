import BundleInstaller.Bundle.Header
import BundleInstaller.Proofs.Posts

/-!
# Documents that are posted twice

The cluster in memory refuses a document that it was posted before.  It knows documents by their
kind and name alone, while it knows objects by their group, kind, namespace and name: a document is
refused for every namesake of its kind, and such a refusal is a skip for a tolerant attempt.

* `Yaml.Value.denotes`: what a document would be stored under.
* `Memory.Recorded`: what was posted is known, and nothing else is.
* `Recorded.goesByName`: a post is refused for its namesakes.
* `Posts.goesByName`: the same in a pass over chunks.
* `refused_for_namesakes`: in every reachable state, and in every tolerant attempt.
-/

namespace BundleInstaller

open Text.Utf8 (toStringLossy)

/-! ## Documents and keys -/

namespace Yaml.Value

/-- A text that stands below an entry of a document, if there is one. -/
def textAt? (v : Option Value) (key : String) : Option String :=
  (v.bind (·.get? key)).bind text?

/-- The key of the object that a document denotes; where no namespace is named it is the standard
one. -/
def denotes (v : Value) : Cluster.Key where
  group := (Bundle.splitApiVersion ((textAt? (some v) "apiVersion").getD "")).1
  kind := (textAt? (some v) "kind").getD ""
  space := some ((textAt? (v.get? "metadata") "namespace").getD "default")
  name := (textAt? (v.get? "metadata") "name").getD ""

/-- Two documents of one kind with one name. -/
def Namesakes (v v' : Value) : Prop :=
  v.denotes.kind = v'.denotes.kind ∧ v.denotes.name = v'.denotes.name

/-- Namesakes denote the same object just if group and namespace are the same too. -/
theorem denotes_eq_iff {v v' : Value} : v.denotes = v'.denotes ↔
    Namesakes v v' ∧ v.denotes.group = v'.denotes.group ∧ v.denotes.space = v'.denotes.space := by
  rw [Cluster.Key.mk.injEq]
  constructor
  · rintro ⟨hgroup, hkind, hspace, hname⟩
    exact ⟨⟨hkind, hname⟩, hgroup, hspace⟩
  · rintro ⟨⟨hkind, hname⟩, hgroup, hspace⟩
    exact ⟨hgroup, hkind, hspace, hname⟩

end Yaml.Value

namespace Cluster.Memory

open Yaml (Value)

theorem postKey_eq_iff {v v' : Value} : postKey v = postKey v' ↔ v.Namesakes v' := by
  show (v.denotes.kind, v.denotes.name) = (v'.denotes.kind, v'.denotes.name) ↔ _
  rw [Prod.mk.injEq]
  rfl

/-! ## What is known of documents -/

/-- One of the posts is a namesake of a document. -/
def HasNamesake (posts : List (String × String)) (v : Value) : Prop :=
  ∃ x ∈ posts, ∃ v', readPosted x.2 = .ok v' ∧ v'.Namesakes v

/-- One of the posts denotes the same object as a document. -/
def HasSame (posts : List (String × String)) (v : Value) : Prop :=
  ∃ x ∈ posts, ∃ v', readPosted x.2 = .ok v' ∧ v'.denotes = v.denotes

theorem HasSame.hasNamesake {posts : List (String × String)} {v : Value} (h : HasSame posts v) :
    HasNamesake posts v := by
  obtain ⟨x, hx, v', hv', hsame⟩ := h
  exact ⟨x, hx, v', hv', (Value.denotes_eq_iff.mp hsame).1⟩

/-- Kind and name of what was posted are known, and of nothing else. -/
def Recorded (m : Memory) : Prop :=
  ∀ key, key ∈ m.postKeys ↔ ∃ x ∈ m.posts, ∃ v, readPosted x.2 = .ok v ∧ postKey v = key

theorem Recorded.mem_postKeys_iff {m : Memory} (hm : m.Recorded) {v : Value} :
    postKey v ∈ m.postKeys ↔ HasNamesake m.posts v := by
  rw [hm]
  constructor
  · rintro ⟨x, hx, v', hv', hkey⟩
    exact ⟨x, hx, v', hv', postKey_eq_iff.mp hkey⟩
  · rintro ⟨x, hx, v', hv', hnames⟩
    exact ⟨x, hx, v', hv', postKey_eq_iff.mpr hnames⟩

theorem recorded_empty : Recorded .empty := by
  intro key
  constructor
  · exact fun h => absurd h List.not_mem_nil
  · rintro ⟨x, hx, -⟩
    exact absurd hx List.not_mem_nil

theorem Recorded.of_eq {m m' : Memory} (hm : m.Recorded) (hposts : m'.posts = m.posts)
    (hkeys : m'.postKeys = m.postKeys) : m'.Recorded := by
  unfold Recorded
  rw [hposts, hkeys]
  exact hm

theorem Recorded.post {m : Memory} (hm : m.Recorded) (path : String) (body : Bytes) :
    (m.post path body).2.Recorded := by
  cases m.posting path body with
  | unreadable counts hread h | present counts hread hkey h =>
    rw [h]
    exact hm.of_eq rfl rfl
  | @taken counts v hread hkey h =>
    rw [h]
    intro key
    show key ∈ m.postKeys ++ [postKey v] ↔ ∃ x ∈ m.posts ++ [(path, toStringLossy body)], _
    rw [List.mem_append, List.mem_singleton, hm key]
    constructor
    · rintro (⟨x, hx, v', hv', hkey'⟩ | rfl)
      · exact ⟨x, List.mem_append_left _ hx, v', hv', hkey'⟩
      · exact ⟨_, List.mem_append_right _ (List.mem_singleton_self _), v, hread, rfl⟩
    · rintro ⟨x, hx, v', hv', hkey'⟩
      rcases List.mem_append.mp hx with hx | hx
      · exact .inl ⟨x, hx, v', hv', hkey'⟩
      · rw [List.mem_singleton] at hx
        subst hx
        cases hread.symm.trans hv'
        exact .inr hkey'.symm

theorem Recorded.answer {m : Memory} (hm : m.Recorded) (c : Call) : (m.answer c).2.Recorded := by
  by_cases hc : ∃ path body, c = .post path body
  · obtain ⟨path, body, rfl⟩ := hc
    exact hm.post path body
  · obtain ⟨hposts, hkeys⟩ := posts_answer (m := m) fun path body heq => hc ⟨path, body, heq⟩
    exact hm.of_eq hposts hkeys

/-! ## What a post is refused for -/

/-- The answer says that the document exists already. -/
def SaysExists (answer : Except ClusterError Unit) : Prop :=
  ∃ e, answer = .error e ∧ e.isAlreadyExists = true

/-- The answer to a post goes by kind and name: it says that the document exists already just if
there is a namesake among the earlier posts. -/
structure GoesByName (posts : List (String × String)) (body : Bytes)
    (answer : Except ClusterError Unit) : Prop where
  exists_iff : SaysExists answer ↔
    ∃ v, readPosted (toStringLossy body) = .ok v ∧ HasNamesake posts v
  /-- What denotes the same object as an earlier post is refused. -/
  same : ∀ v, readPosted (toStringLossy body) = .ok v → HasSame posts v → SaysExists answer
  /-- A document is refused for the same object alone if all its namesakes denote that object. -/
  same_iff : ∀ v, readPosted (toStringLossy body) = .ok v →
    (∀ x ∈ posts, ∀ v', readPosted x.2 = .ok v' → v'.Namesakes v →
      v'.denotes.group = v.denotes.group ∧ v'.denotes.space = v.denotes.space) →
    (SaysExists answer ↔ HasSame posts v)

theorem GoesByName.of_iff {posts : List (String × String)} {body : Bytes}
    {answer : Except ClusterError Unit}
    (h : SaysExists answer ↔ ∃ v, readPosted (toStringLossy body) = .ok v ∧ HasNamesake posts v) :
    GoesByName posts body answer := by
  have hsame : ∀ v, readPosted (toStringLossy body) = .ok v → HasSame posts v →
      SaysExists answer := fun v hv hposts => h.mpr ⟨v, hv, hposts.hasNamesake⟩
  refine ⟨h, hsame, fun v hv halike => ⟨fun hexists => ?_, hsame v hv⟩⟩
  obtain ⟨v', hv', x, hx, earlier, hearlier, hnames⟩ := h.mp hexists
  cases hv.symm.trans hv'
  exact ⟨x, hx, earlier, hearlier,
    Value.denotes_eq_iff.mpr ⟨hnames, halike x hx earlier hearlier hnames⟩⟩

/-- **A post is refused for its namesakes.** -/
theorem Recorded.goesByName {m : Memory} (hm : m.Recorded) (path : String) (body : Bytes) :
    GoesByName m.posts body (m.post path body).1 := by
  refine .of_iff ?_
  cases m.posting path body with
  | unreadable counts hread h =>
    rw [h]
    constructor
    · rintro ⟨e, he, hexists⟩
      cases he
      cases hexists
    · rintro ⟨v, hv, -⟩
      cases hread.symm.trans hv
  | @present counts v hread hkey h =>
    rw [h]
    constructor
    · exact fun _ => ⟨v, hread, hm.mem_postKeys_iff.mp hkey⟩
    · exact fun _ => ⟨_, rfl, rfl⟩
  | @taken counts v hread hkey h =>
    rw [h]
    constructor
    · rintro ⟨e, he, -⟩
      cases he
    · rintro ⟨v', hv', hnames⟩
      cases hread.symm.trans hv'
      exact absurd (hm.mem_postKeys_iff.mpr hnames) hkey

/-- What was accepted in a pass, as posts. -/
def acceptedPosts (path : String) (posted : List (Bytes × Except ClusterError Unit)) :
    List (String × String) :=
  (posted.filter (·.2.isOk)).map fun x => (path, toStringLossy x.1)

theorem acceptedPosts_cons (path : String) (chunk : Bytes) (answer : Except ClusterError Unit)
    (posted : List (Bytes × Except ClusterError Unit)) :
    acceptedPosts path ((chunk, answer) :: posted) =
      (if answer.isOk then [(path, toStringLossy chunk)] else []) ++ acceptedPosts path posted := by
  unfold acceptedPosts
  rw [List.filter_cons]
  cases answer <;> rfl

/-- **In a pass, a chunk is refused for the namesakes that were posted before it**, be it before the
pass or in it. -/
theorem Posts.goesByName {path : String} {m m' : Memory} {chunks : List Bytes}
    {posted : List (Bytes × Except ClusterError Unit)} {cause? : Option ClusterError}
    (h : Posts path m chunks posted cause? m') (hm : m.Recorded) :
    ∀ passed chunk answer later, posted = passed ++ (chunk, answer) :: later →
      GoesByName (m.posts ++ acceptedPosts path passed) chunk answer := by
  induction h with
  | nil m =>
    intro passed chunk answer later heq
    simp at heq
  | @stop m chunk rest cause hanswer hcause =>
    intro passed chunk' answer later heq
    cases passed with
    | nil =>
      cases heq
      show GoesByName (m.posts ++ []) _ _
      rw [List.append_nil, ← hanswer]
      exact hm.goesByName path chunk
    | cons x passed =>
      simp at heq
  | @step m m' chunk rest posted cause? hposted h ih =>
    intro passed chunk' answer later heq
    cases passed with
    | nil =>
      cases heq
      show GoesByName (m.posts ++ []) _ _
      rw [List.append_nil]
      exact hm.goesByName path chunk
    | cons x passed =>
      obtain ⟨rfl, hrest⟩ := List.cons.inj heq
      -- behind the first chunk, it is among the posts just if it was accepted
      have hlater := ih (hm.post path chunk) passed chunk' answer later hrest
      rw [posts_post, List.append_assoc, ← acceptedPosts_cons] at hlater
      exact hlater

end Cluster.Memory

namespace Install.Rehearsal

open Cluster

theorem kept_recorded : Kept Memory.Recorded where
  answer _ c h := h.answer c
  register _ _ h := h
  rejectCreate _ _ _ _ h := h
  rejectGet _ _ _ _ h := h
  failDiscovery _ _ h := h
  conflictStatus _ h := h

/-- **Documents are refused for their namesakes.**  In every state that a history leads to, a post
is refused as existing just if an accepted one had the same kind and the same name; it denotes the
object of that one just if group and namespace are the same too.  A tolerant attempt skips the
chunks of its overlay for the same reason. -/
theorem refused_for_namesakes {r : Rehearsal} (hr : r.Reachable) :
    (∀ path body, Memory.GoesByName r.cluster.posts body (r.cluster.post path body).1) ∧
    ∀ (config : Config) (i : Installation) (descriptor rendered : Bytes),
      config.overlay.tolerateExisting = true → i.spec.kind = .overlay →
      (r.shelf.fetch i.spec.url).1 = .ok descriptor → r.build descriptor = .ok rendered →
      let first := r.run (attempt config i)
      let path := config.overlay.postPath
      ∃ posted, PostsInOrder path (Overlay.chunks rendered) r.cluster first.2.cluster
          (r.calls (attempt config i)) first.1 posted ∧
        ∀ passed chunk answer later, posted = passed ++ (chunk, answer) :: later →
          Memory.GoesByName (r.cluster.posts ++ Memory.acceptedPosts path passed) chunk answer := by
  have hrecorded : r.cluster.Recorded := hr.invariant Memory.recorded_empty kept_recorded
  refine ⟨hrecorded.goesByName, ?_⟩
  intro config i descriptor rendered htolerant hkind hfetch hbuild first path
  obtain ⟨posted, cause?, h⟩ := overlaid htolerant hkind hfetch hbuild
  exact ⟨posted, h.postsInOrder, h.posts.goesByName hrecorded⟩

/-- A map with a name in a namespace. -/
def mapIn (space : String) : Bytes :=
  Text.Utf8.ofString
    ("apiVersion: v1\nkind: ConfigMap\nmetadata: \x7bname: a, namespace: " ++ space ++ "\x7d\n")

/-- The state after a map was posted to an empty cluster. -/
def mapped : Rehearsal := (start .empty .ok).after [.call (.cluster (.post "/api/v1" (mapIn "x")))]

theorem exists_readPosted (text : String) (key : Key)
    (h : (Memory.readPosted text).toOption.map (·.denotes) = some key) :
    ∃ v, Memory.readPosted text = .ok v ∧ v.denotes = key := by
  cases hread : Memory.readPosted text with
  | error fault =>
    rw [hread] at h
    cases h
  | ok v =>
    rw [hread] at h
    exact ⟨v, rfl, Option.some.inj h⟩

theorem posts_mapped :
    mapped.cluster.posts = [("/api/v1", toStringLossy (mapIn "x"))] := by
  decide +kernel

theorem exists_readPosted_mapIn :
    (∃ v, Memory.readPosted (toStringLossy (mapIn "x")) = .ok v ∧
        v.denotes = ⟨"", "ConfigMap", some "x", "a"⟩) ∧
      ∃ v, Memory.readPosted (toStringLossy (mapIn "y")) = .ok v ∧
        v.denotes = ⟨"", "ConfigMap", some "y", "a"⟩ :=
  ⟨exists_readPosted _ _ (by decide +kernel), exists_readPosted _ _ (by decide +kernel)⟩

/-- A map that is posted again is refused. -/
theorem refused_for_namesakes_again :
    mapped.Reachable ∧ Memory.SaysExists (mapped.cluster.post "/api/v1" (mapIn "x")).1 := by
  have hreachable : mapped.Reachable := ⟨.empty, .ok, _, rfl⟩
  obtain ⟨⟨v, hv, -⟩, -⟩ := exists_readPosted_mapIn
  refine ⟨hreachable, ((refused_for_namesakes hreachable).1 "/api/v1" (mapIn "x")).same v hv ?_⟩
  rw [posts_mapped]
  exact ⟨_, List.mem_singleton_self _, v, hv, rfl⟩

/-- A map in one namespace is refused for its namesake in another one. -/
theorem namesake_refused :
    Memory.SaysExists (mapped.cluster.post "/api/v1" (mapIn "y")).1 ∧
      ∃ v, Memory.readPosted (toStringLossy (mapIn "y")) = .ok v ∧
        ¬Memory.HasSame mapped.cluster.posts v := by
  have hrecorded : mapped.cluster.Recorded :=
    Reachable.invariant ⟨.empty, .ok, _, rfl⟩ Memory.recorded_empty kept_recorded
  obtain ⟨⟨v, hv, hkey⟩, w, hw, hkey'⟩ := exists_readPosted_mapIn
  have hnames : v.Namesakes w := by
    unfold Yaml.Value.Namesakes
    rw [hkey, hkey']
    exact ⟨rfl, rfl⟩
  have hgoes := hrecorded.goesByName "/api/v1" (mapIn "y")
  rw [posts_mapped] at hgoes ⊢
  refine ⟨hgoes.exists_iff.mpr ⟨w, hw, _, List.mem_singleton_self _, v, hv, hnames⟩, w, hw, ?_⟩
  rintro ⟨x, hx, earlier, hearlier, hsame⟩
  rw [List.mem_singleton] at hx
  subst hx
  have hv' : v = earlier := by
    rw [hv] at hearlier
    exact Except.ok.inj hearlier
  rw [← hv', hkey, hkey'] at hsame
  exact absurd hsame (by decide)

end Install.Rehearsal
end BundleInstaller
