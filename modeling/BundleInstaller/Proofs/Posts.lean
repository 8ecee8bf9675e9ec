import BundleInstaller.Proofs.Admission
import BundleInstaller.Proofs.History

/-!
# Attempts to install an overlay

An attempt posts the chunks of an overlay in order and stops at the first one that fails, where a
chunk that is there already does not count as a failure.  Whether a chunk fails can then be read off
the chunk alone, and what was posted once is never posted again: so a second attempt gets just as
far as the first one and posts nothing.

* `Memory.Posts`: a pass over chunks.
* `Posts.alike`: every pass over the same chunks ends at the same one, in whatever state it begins.
* `Posts.accepted_eq_nil`: a pass over what was posted before posts nothing.
* `run_postChunks`: an attempt is such a pass.
* `overlay_attempts_restart`: what an attempt posts, and that a second one posts nothing.
-/

namespace BundleInstaller
namespace Cluster.Memory

open Text.Utf8 (toStringLossy)

/-! ## Single posts -/

/-- Whether an answer to a post says that the document is there. -/
def IsPosted : Except ClusterError Unit → Prop
  | .ok _ => True
  | .error e => e.isAlreadyExists

/-- **Whether a post goes well depends on the octets alone**, and so does the error if it does not. -/
theorem post_cases (m : Memory) (path : String) (body : Bytes) :
    (∃ v, readPosted (toStringLossy body) = .ok v ∧ IsPosted (m.post path body).1 ∧
        postKey v ∈ (m.post path body).2.postKeys) ∨
      ∃ fault, readPosted (toStringLossy body) = .error fault ∧
        (m.post path body).1 = .error (.serialization fault.message) := by
  cases m.posting path body with
  | unreadable counts hread h => exact .inr ⟨_, hread, congrArg Prod.fst h⟩
  | present counts hread hkey h =>
    rw [h]
    exact .inl ⟨_, hread, rfl, hkey⟩
  | taken counts hread hkey h =>
    rw [h]
    exact .inl ⟨_, hread, trivial, List.mem_append_right _ (List.mem_singleton_self _)⟩

/-- Octets that are no document fail everywhere, with the same error. -/
theorem post_error_alike {m : Memory} {path : String} {body : Bytes} {cause : ClusterError}
    (hanswer : (m.post path body).1 = .error cause) (hcause : ¬cause.isAlreadyExists) {n : Memory}
    {path' : String} : (n.post path' body).1 = .error cause := by
  rcases post_cases m path body with ⟨v, -, hposted, -⟩ | ⟨fault, hread, herror⟩
  · rw [hanswer] at hposted
    exact absurd hposted hcause
  · rcases post_cases n path' body with ⟨v, hv, -, -⟩ | ⟨fault', hread', herror'⟩
    · cases hread.symm.trans hv
    · cases hread.symm.trans hread'
      rw [herror', ← herror, hanswer]

theorem posts_post (m : Memory) (path : String) (body : Bytes) :
    (m.post path body).2.posts =
      m.posts ++ if (m.post path body).1.isOk then [(path, toStringLossy body)] else [] := by
  cases m.posting path body with
  | unreadable counts hread h | present counts hread hkey h =>
    rw [h]
    exact (List.append_nil _).symm
  | taken counts hread hkey h =>
    rw [h]
    rfl

theorem posts_answer {m : Memory} {c : Call} (h : ∀ path body, c ≠ .post path body) :
    (m.answer c).2.posts = m.posts ∧ (m.answer c).2.postKeys = m.postKeys := by
  cases c with
  | discover =>
    show m.discover.2.posts = _ ∧ m.discover.2.postKeys = _
    unfold discover
    dsimp only
    split <;> exact ⟨rfl, rfl⟩
  | get place space name =>
    obtain ⟨_, _, hstate⟩ := get_state m place space name
    show (m.get place space name).2.posts = _ ∧ (m.get place space name).2.postKeys = _
    rw [hstate]
    exact ⟨rfl, rfl⟩
  | create place space o =>
    show (m.create place space o).2.posts = _ ∧ (m.create place space o).2.postKeys = _
    unfold create
    dsimp only
    split
    · exact ⟨rfl, rfl⟩
    split
    · exact ⟨rfl, rfl⟩
    split <;> exact ⟨rfl, rfl⟩
  | post path body => exact absurd rfl (h path body)
  | readInstallation name => exact ⟨rfl, rfl⟩
  | writeStatus i =>
    obtain ⟨_, _, _, hstate, -⟩ := writeStatus_state m i
    show (m.writeStatus i).2.posts = _ ∧ (m.writeStatus i).2.postKeys = _
    rw [hstate]
    exact ⟨rfl, rfl⟩

theorem postKeys_answer (m : Memory) (c : Call) : m.postKeys ⊆ (m.answer c).2.postKeys := by
  by_cases hc : ∃ path body, c = .post path body
  · obtain ⟨path, body, rfl⟩ := hc
    show m.postKeys ⊆ (m.post path body).2.postKeys
    cases m.posting path body with
    | unreadable counts hread h | present counts hread hkey h =>
      rw [h]
      exact List.Subset.refl _
    | taken counts hread hkey h =>
      rw [h]
      exact List.subset_append_left _ _
  · rw [(posts_answer fun path body heq => hc ⟨path, body, heq⟩).2]
    exact List.Subset.refl _

/-! ## Passes over chunks -/

/-- Posting chunks in order, up to the first one that fails otherwise than by being there: the
chunks that are posted, each with the answer, and the error at the end. -/
inductive Posts (path : String) : Memory → List Bytes → List (Bytes × Except ClusterError Unit) →
    Option ClusterError → Memory → Prop
  | nil (m : Memory) : Posts path m [] [] none m
  | stop {m : Memory} {chunk : Bytes} (rest : List Bytes) {cause : ClusterError}
      (hanswer : (m.post path chunk).1 = .error cause) (hcause : ¬cause.isAlreadyExists) :
      Posts path m (chunk :: rest) [(chunk, .error cause)] (some cause) (m.post path chunk).2
  | step {m m' : Memory} {chunk : Bytes} {rest : List Bytes}
      {posted : List (Bytes × Except ClusterError Unit)} {cause? : Option ClusterError}
      (hposted : IsPosted (m.post path chunk).1)
      (h : Posts path (m.post path chunk).2 rest posted cause? m') :
      Posts path m (chunk :: rest) ((chunk, (m.post path chunk).1) :: posted) cause? m'

/-- The chunks that were accepted, each with its number; the first one has the number `index`. -/
def accepted (index : Nat) (posted : List (Bytes × Except ClusterError Unit)) :
    List (Nat × Bytes) :=
  ((posted.zipIdx index).filter (·.1.2.isOk)).map fun x => (x.2, x.1.1)

theorem accepted_cons (index : Nat) (chunk : Bytes) (answer : Except ClusterError Unit)
    (posted : List (Bytes × Except ClusterError Unit)) :
    accepted index ((chunk, answer) :: posted) =
      (if answer.isOk then [(index, chunk)] else []) ++ accepted (index + 1) posted := by
  unfold accepted
  rw [List.zipIdx_cons, List.filter_cons]
  cases answer <;> rfl

namespace Posts

variable {path path' : String} {m m' n n' : Memory} {chunks : List Bytes}
  {posted posted' : List (Bytes × Except ClusterError Unit)} {cause? cause?' : Option ClusterError}

theorem isPrefix (h : Posts path m chunks posted cause? m') : posted.map (·.1) <+: chunks := by
  induction h with
  | nil m => exact List.nil_prefix
  | stop rest hanswer hcause => exact (List.cons_prefix_cons).mpr ⟨rfl, List.nil_prefix⟩
  | step hposted h ih => exact (List.cons_prefix_cons).mpr ⟨rfl, ih⟩

/-- A pass goes through all chunks, or it stops right after the one that fails. -/
theorem ending (h : Posts path m chunks posted cause? m') :
    match cause? with
    | none => posted.map (·.1) = chunks ∧ ∀ x ∈ posted, IsPosted x.2
    | some cause => ¬cause.isAlreadyExists ∧ ∃ passed chunk,
        posted = passed ++ [(chunk, .error cause)] ∧ ∀ x ∈ passed, IsPosted x.2 := by
  induction h with
  | nil m => exact ⟨rfl, by simp⟩
  | stop rest hanswer hcause => exact ⟨hcause, [], _, rfl, by simp⟩
  | @step m m' chunk rest posted cause? hposted h ih =>
    cases cause? with
    | none =>
      obtain ⟨hchunks, hall⟩ := ih
      refine ⟨by rw [List.map_cons, hchunks], ?_⟩
      intro x hx
      rcases List.mem_cons.mp hx with rfl | hx
      · exact hposted
      · exact hall x hx
    | some cause =>
      obtain ⟨hcause, passed, last, rfl, hall⟩ := ih
      refine ⟨hcause, (chunk, (m.post path chunk).1) :: passed, last, rfl, ?_⟩
      intro x hx
      rcases List.mem_cons.mp hx with rfl | hx
      · exact hposted
      · exact hall x hx

theorem posts_eq (h : Posts path m chunks posted cause? m') (index : Nat) :
    m'.posts = m.posts ++ (accepted index posted).map fun x => (path, toStringLossy x.2) := by
  induction h generalizing index with
  | nil m => exact (List.append_nil _).symm
  | @stop m chunk rest cause hanswer hcause =>
    rw [posts_post, hanswer]
    rfl
  | @step m m' chunk rest posted cause? hposted h ih =>
    rw [ih (index + 1), posts_post, accepted_cons, List.map_append, List.append_assoc]
    congr 2
    split <;> rfl

theorem postKeys_subset (h : Posts path m chunks posted cause? m') :
    m.postKeys ⊆ m'.postKeys := by
  induction h with
  | nil m => exact List.Subset.refl _
  | stop rest hanswer hcause => exact postKeys_answer _ (.post _ _)
  | step hposted h ih => exact List.Subset.trans (postKeys_answer _ (.post _ _)) ih

theorem mem_postKeys (h : Posts path m chunks posted cause? m') :
    ∀ x ∈ posted, ∀ v, readPosted (toStringLossy x.1) = .ok v → postKey v ∈ m'.postKeys := by
  induction h with
  | nil m => simp
  | @stop m chunk rest cause hanswer hcause =>
    intro x hx v hv
    rw [List.mem_singleton] at hx
    subst hx
    rcases post_cases m path chunk with ⟨v', hv', -, hkey⟩ | ⟨fault, hfault, -⟩
    · cases hv'.symm.trans hv
      exact hkey
    · cases hfault.symm.trans hv
  | @step m m' chunk rest posted cause? hposted h ih =>
    intro x hx v hv
    rcases List.mem_cons.mp hx with rfl | hx
    · rcases post_cases m path chunk with ⟨v', hv', -, hkey⟩ | ⟨fault, hfault, -⟩
      · cases hv'.symm.trans hv
        exact h.postKeys_subset hkey
      · cases hfault.symm.trans hv
    · exact ih x hx v hv

/-- **Every pass over the same chunks ends at the same one, with the same error.** -/
theorem alike (h : Posts path m chunks posted cause? m')
    (h' : Posts path' n chunks posted' cause?' n') :
    posted'.map (·.1) = posted.map (·.1) ∧ cause?' = cause? := by
  -- Only a chunk that is no document stops a pass, and that does not depend on the state.
  induction h generalizing n posted' cause?' n' with
  | nil m =>
    cases h'
    exact ⟨rfl, rfl⟩
  | stop rest hanswer hcause =>
    cases h' with
    | stop _ hanswer' hcause' =>
      rw [post_error_alike hanswer hcause] at hanswer'
      cases hanswer'
      exact ⟨rfl, rfl⟩
    | step hposted' h' =>
      rw [post_error_alike hanswer hcause] at hposted'
      exact absurd hposted' hcause
  | step hposted h ih =>
    cases h' with
    | stop _ hanswer' hcause' =>
      rw [post_error_alike hanswer' hcause'] at hposted
      exact absurd hposted hcause'
    | step hposted' h' =>
      obtain ⟨hchunks, hcause⟩ := ih h'
      exact ⟨by rw [List.map_cons, List.map_cons, hchunks], hcause⟩

/-- **A pass over documents that are known posts nothing.** -/
theorem accepted_eq_nil (h : Posts path m chunks posted cause? m')
    (hknown : ∀ x ∈ posted, ∀ v, readPosted (toStringLossy x.1) = .ok v → postKey v ∈ m.postKeys)
    (index : Nat) : accepted index posted = [] := by
  induction h generalizing index with
  | nil m => rfl
  | stop rest hanswer hcause => rfl
  | @step m m' chunk rest posted cause? hposted h ih =>
    have hrefused : (m.post path chunk).1.isOk = false := by
      cases m.posting path chunk with
      | unreadable counts hread heq | present counts hread hkey heq =>
        rw [heq]
        rfl
      | taken counts hread hkey heq =>
        exact absurd (hknown _ List.mem_cons_self _ hread) hkey
    rw [accepted_cons, hrefused, ih, List.append_nil]
    · rfl
    · -- the state has changed by one post, which forgets nothing
      intro x hx v hv
      exact postKeys_answer m (.post path chunk) (hknown x (List.mem_cons_of_mem _ hx) v hv)

end Posts
end Cluster.Memory

namespace Install

open Cluster Program

/-! ## Calls to the cluster -/

/-- The call to the cluster that a call is, with its answer. -/
def clusterCall? : Answered Call Call.Answer → Option (Answered Cluster.Call Cluster.Call.Answer)
  | ⟨.cluster c, answer⟩ => some ⟨c, answer⟩
  | _ => none

namespace Rehearsal

/-- What a plan asks the cluster for, with the answers. -/
def calls {α : Type} (p : Plan α) (r : Rehearsal) :
    List (Answered Cluster.Call Cluster.Call.Answer) :=
  (p.transcript handle r).filterMap clusterCall?

theorem calls_bind {α β : Type} (p : Plan α) (f : α → Plan β) (r : Rehearsal) :
    r.calls (p >>= f) = r.calls p ++ (r.run p).2.calls (f (r.run p).1) := by
  unfold calls
  rw [transcript_bind, List.filterMap_append]
  rfl

theorem calls_enter {α : Type} (p : Progress) (phase : Phase) (f : Progress → Plan α)
    (r : Rehearsal) : r.calls (p.enter phase >>= f) = r.calls (f { p with phase := phase }) := rfl

theorem calls_ask {α : Type} {c : Call} {f : c.Answer → Plan α} {r : Rehearsal}
    (h : clusterCall? ⟨c, (handle c r).1⟩ = none) :
    r.calls (ask c >>= f) = (handle c r).2.calls (f (handle c r).1) := by
  have hlog : (ask c >>= f).transcript handle r =
      ⟨c, (handle c r).1⟩ :: (f (handle c r).1).transcript handle (handle c r).2 := rfl
  unfold calls
  rw [hlog, List.filterMap_cons, h]

theorem calls_fetchBundle {url : String} {r : Rehearsal} {bundle : Bytes}
    (hfetch : (r.shelf.fetch url).1 = .ok bundle) (p : Progress) :
    r.calls (fetchBundle url p) = [] := by
  obtain ⟨u, hvalid⟩ := validate_of_fetch hfetch
  have hanswer : (handle (.fetch url) r).1 = .ok bundle := hfetch
  unfold fetchBundle
  rw [hvalid]
  dsimp only
  rw [calls_enter, calls_ask rfl, hanswer]
  rfl

theorem calls_askCluster {α : Type} (c : Cluster.Call) (f : c.Answer → Plan α) (r : Rehearsal) :
    r.calls (askCluster c >>= f) = ⟨c, (r.cluster.answer c).1⟩ ::
      calls (f (r.cluster.answer c).1) { r with cluster := (r.cluster.answer c).2 } := rfl

/-! ## Attempts -/

/-- What posting chunks comes to: the first one has the number `index`, and `p` is how far the
attempt is before. -/
structure PostsChunks (config : OverlayConfig) (chunks : List Bytes) (index : Nat) (p : Progress)
    (r : Rehearsal) (posted : List (Bytes × Except ClusterError Unit))
    (cause? : Option ClusterError) : Prop where
  posts : ∃ m', r.cluster.Posts config.postPath chunks posted cause? m' ∧
    (r.run (postChunks config p index chunks)).2 = { r with cluster := m' }
  calls : r.calls (postChunks config p index chunks) =
    posted.map fun x => ⟨.post config.postPath x.1, x.2⟩
  total : (r.run (postChunks config p index chunks)).1.1.total? = p.total?
  created : (r.run (postChunks config p index chunks)).1.1.summary.created =
    p.summary.created ++ (Memory.accepted index posted).map fun x => chunkName x.1
  error : (r.run (postChunks config p index chunks)).1.2 =
    cause?.map (.apply (chunkName (index + posted.length - 1)))
  phase : cause?.isSome → (r.run (postChunks config p index chunks)).1.1.phase =
    .applying (index + posted.length - 1)

/-- What a pass does when a chunk was posted. -/
def afterPost (config : OverlayConfig) (p : Progress) (index : Nat) (rest : List Bytes) :
    Except ClusterError Unit → Plan (Progress × Option InstallError)
  | .ok () => do
    note .info "Posted object" [("resource", chunkName index), ("path", config.postPath)]
    postChunks config (p.record (chunkName index) .created) (index + 1) rest
  | .error e => do
    if e.isAlreadyExists && config.tolerateExisting then
      note .debug "Object already exists, skipping" [("resource", chunkName index)]
      postChunks config (p.record (chunkName index) .alreadyThere) (index + 1) rest
    else return (p, some (.apply (chunkName index) e))

theorem postChunks_cons (config : OverlayConfig) (p : Progress) (index : Nat) (chunk : Bytes)
    (rest : List Bytes) :
    postChunks config p index (chunk :: rest) =
      p.enter (.applying index) >>= fun p => askCluster (.post config.postPath chunk) >>=
        afterPost config p index rest := by
  rw [postChunks]
  congr 1
  funext p
  dsimp only
  congr 1
  funext answer
  cases answer <;> rfl

theorem run_postChunks_cons (config : OverlayConfig) (p : Progress) (index : Nat) (chunk : Bytes)
    (rest : List Bytes) (r : Rehearsal) :
    let post := r.cluster.post config.postPath chunk
    let next := afterPost config { p with phase := .applying index } index rest post.1
    r.run (postChunks config p index (chunk :: rest)) =
        Rehearsal.run next { r with cluster := post.2 } ∧
      r.calls (postChunks config p index (chunk :: rest)) =
        ⟨.post config.postPath chunk, post.1⟩ ::
          Rehearsal.calls next { r with cluster := post.2 } := by
  rw [postChunks_cons]
  exact ⟨rfl, by rw [calls_enter, calls_askCluster]; rfl⟩

/-- What became of a chunk that is there, by the answer to its post. -/
def appliedOf : Except ClusterError Unit → Applied
  | .ok _ => .created
  | .error _ => .alreadyThere

theorem run_afterPost {config : OverlayConfig} (htolerant : config.tolerateExisting = true)
    {answer : Except ClusterError Unit} (hposted : Memory.IsPosted answer) (p : Progress)
    (index : Nat) (rest : List Bytes) (r : Rehearsal) :
    let next := postChunks config (p.record (chunkName index) (appliedOf answer)) (index + 1) rest
    r.run (afterPost config p index rest answer) = r.run next ∧
      r.calls (afterPost config p index rest answer) = r.calls next := by
  cases answer with
  | ok => exact ⟨rfl, rfl⟩
  | error e =>
    have he : e.isAlreadyExists = true := hposted
    rw [afterPost, he, htolerant]
    exact ⟨rfl, rfl⟩

theorem PostsChunks.step {config : OverlayConfig} (htolerant : config.tolerateExisting = true)
    {chunk : Bytes} {rest : List Bytes} {index : Nat} {p : Progress} {r : Rehearsal}
    {posted : List (Bytes × Except ClusterError Unit)} {cause? : Option ClusterError}
    (hposted : Memory.IsPosted (r.cluster.post config.postPath chunk).1)
    (h : PostsChunks config rest (index + 1)
      (Progress.record { p with phase := .applying index } (chunkName index)
        (appliedOf (r.cluster.post config.postPath chunk).1))
      { r with cluster := (r.cluster.post config.postPath chunk).2 } posted cause?) :
    PostsChunks config (chunk :: rest) index p r
      ((chunk, (r.cluster.post config.postPath chunk).1) :: posted) cause? := by
  obtain ⟨hrun, hcalls⟩ := run_postChunks_cons config p index chunk rest r
  obtain ⟨hnext, hnextCalls⟩ := run_afterPost htolerant hposted
    { p with phase := .applying index } index rest
    { r with cluster := (r.cluster.post config.postPath chunk).2 }
  rw [hnext] at hrun
  rw [hnextCalls] at hcalls
  obtain ⟨m', hposts, hcluster⟩ := h.posts
  have hnumber : index + 1 + posted.length - 1 = index + (posted.length + 1) - 1 := by omega
  refine ⟨⟨m', .step hposted hposts, by rw [hrun, hcluster]⟩, ?_, ?_, ?_, ?_, fun hsome => ?_⟩
  · rw [hcalls, h.calls, List.map_cons]
  · rw [hrun, h.total]
    cases (r.cluster.post config.postPath chunk).1 <;> rfl
  · rw [hrun, h.created, Memory.accepted_cons, List.map_append, ← List.append_assoc]
    congr 1
    cases (r.cluster.post config.postPath chunk).1 with
    | ok => rfl
    | error e => exact (List.append_nil _).symm
  · rw [hrun, h.error, List.length_cons, hnumber]
  · rw [hrun, h.phase hsome, List.length_cons, hnumber]

theorem PostsChunks.stop {config : OverlayConfig} {chunk : Bytes} {index : Nat} {p : Progress}
    {r : Rehearsal} {cause : ClusterError} (rest : List Bytes)
    (hanswer : (r.cluster.post config.postPath chunk).1 = .error cause)
    (hcause : ¬cause.isAlreadyExists) :
    PostsChunks config (chunk :: rest) index p r [(chunk, .error cause)] (some cause) := by
  obtain ⟨hrun, hcalls⟩ := run_postChunks_cons config p index chunk rest r
  have hstop : afterPost config { p with phase := .applying index } index rest (.error cause) =
      done ({ p with phase := .applying index }, some (.apply (chunkName index) cause)) := by
    have hnot : ¬(cause.isAlreadyExists && config.tolerateExisting) = true := by
      rw [Bool.and_eq_true]
      exact fun h => hcause h.1
    rw [afterPost, if_neg hnot]
    rfl
  rw [hanswer, hstop] at hrun hcalls
  refine ⟨⟨_, .stop rest hanswer hcause, ?_⟩, hcalls, ?_, ?_, ?_, fun _ => ?_⟩
  · rw [hrun]
    rfl
  · rw [hrun]
    rfl
  · rw [hrun]
    exact (List.append_nil _).symm
  · rw [hrun]
    rfl
  · rw [hrun]
    rfl

/-- **Posting the chunks of an overlay is a pass over them.** -/
theorem run_postChunks {config : OverlayConfig} (htolerant : config.tolerateExisting = true)
    (chunks : List Bytes) (index : Nat) (p : Progress) (r : Rehearsal) :
    ∃ posted cause?, PostsChunks config chunks index p r posted cause? := by
  induction chunks generalizing index p r with
  | nil =>
    exact ⟨[], none, ⟨r.cluster, .nil _, rfl⟩, rfl, rfl, (List.append_nil _).symm, rfl,
      fun h => by cases h⟩
  | cons chunk rest ih =>
    by_cases hposted : Memory.IsPosted (r.cluster.post config.postPath chunk).1
    · obtain ⟨posted, cause?, h⟩ := ih (index + 1) _ _
      exact ⟨_, cause?, .step htolerant hposted h⟩
    · cases hanswer : (r.cluster.post config.postPath chunk).1 with
      | ok =>
        rw [hanswer] at hposted
        exact absurd trivial hposted
      | error cause =>
        rw [hanswer] at hposted
        exact ⟨_, _, .stop rest hanswer hposted⟩

/-- **An attempt that has an overlay posts its chunks**, and asks the cluster for nothing else. -/
theorem run_attempt_overlay (config : Config) {i : Installation} {r : Rehearsal}
    {descriptor rendered : Bytes} (hkind : i.spec.kind = .overlay)
    (hfetch : (r.shelf.fetch i.spec.url).1 = .ok descriptor)
    (hbuild : r.build descriptor = .ok rendered) :
    let chunks := Overlay.chunks rendered
    let plan := postChunks config.overlay ⟨.splitting, some chunks.length, .empty⟩ 1 chunks
    let s : Rehearsal := { r with shelf := (r.shelf.fetch i.spec.url).2 }
    r.run (attempt config i) = ((s.run plan).1.1.finish (s.run plan).1.2, (s.run plan).2) ∧
      r.calls (attempt config i) = s.calls plan := by
  intro chunks plan s
  have hbuilt : handle (.build descriptor) s = (.ok rendered, s) := Prod.ext hbuild rfl
  have hinstall : s.run (installOverlay config.overlay descriptor ⟨.fetching, none, .empty⟩) =
        s.run plan ∧
      s.calls (installOverlay config.overlay descriptor ⟨.fetching, none, .empty⟩) =
        s.calls plan := by
    unfold installOverlay
    rw [run_enter, calls_enter, run_ask, calls_ask rfl, hbuilt]
    exact ⟨rfl, rfl⟩
  have hsteps : r.run (attemptSteps config i.spec) = s.run plan ∧
      r.calls (attemptSteps config i.spec) = s.calls plan := by
    unfold attemptSteps fetchAndInstall
    rw [hkind]
    dsimp only
    rw [run_bind, calls_bind, run_fetchBundle hfetch, calls_fetchBundle hfetch]
    exact hinstall
  unfold attempt
  rw [run_bind, calls_bind, hsteps.1, hsteps.2]
  exact ⟨rfl, List.append_nil _⟩

/-- What an attempt did that has the chunks of an overlay: the chunks that it posted, each with the
answer, and the error that it stopped at. -/
structure Overlaid (config : Config) (chunks : List Bytes) (i : Installation) (r : Rehearsal)
    (posted : List (Bytes × Except ClusterError Unit)) (cause? : Option ClusterError) : Prop where
  posts : r.cluster.Posts config.overlay.postPath chunks posted cause?
    (r.run (attempt config i)).2.cluster
  calls : r.calls (attempt config i) = posted.map fun x => ⟨.post config.overlay.postPath x.1, x.2⟩
  total : (r.run (attempt config i)).1.total? = some chunks.length
  created : (r.run (attempt config i)).1.summary.created =
    (Memory.accepted 1 posted).map fun x => chunkName x.1
  error : (r.run (attempt config i)).1.error? = cause?.map (.apply (chunkName posted.length))
  phase : (r.run (attempt config i)).1.phase =
    cause?.elim .succeeded fun _ => .failed posted.length

theorem overlaid {config : Config} (htolerant : config.overlay.tolerateExisting = true)
    {i : Installation} {r : Rehearsal} {descriptor rendered : Bytes}
    (hkind : i.spec.kind = .overlay) (hfetch : (r.shelf.fetch i.spec.url).1 = .ok descriptor)
    (hbuild : r.build descriptor = .ok rendered) :
    ∃ posted cause?, Overlaid config (Overlay.chunks rendered) i r posted cause? := by
  obtain ⟨hrun, hcalls⟩ := run_attempt_overlay config hkind hfetch hbuild
  obtain ⟨posted, cause?, h⟩ := run_postChunks htolerant (Overlay.chunks rendered) 1
    ⟨.splitting, some (Overlay.chunks rendered).length, .empty⟩
    { r with shelf := (r.shelf.fetch i.spec.url).2 }
  obtain ⟨m', hposts, hcluster⟩ := h.posts
  have hnumber : 1 + posted.length - 1 = posted.length := Nat.add_sub_cancel_left 1 _
  refine ⟨posted, cause?, ⟨?_, ?_, ?_, ?_, ?_, ?_⟩⟩
  · rw [hrun, hcluster]
    exact hposts
  · rw [hcalls, h.calls]
  · rw [hrun]
    exact h.total
  · rw [hrun]
    exact h.created
  · rw [hrun, ← hnumber]
    exact h.error
  · rw [hrun]
    dsimp only [Progress.finish]
    rw [h.error]
    cases hcause : cause? with
    | none => rfl
    | some cause =>
      have hphase := h.phase (by rw [hcause]; rfl)
      show Phase.failed _ = _
      rw [hphase, hnumber]
      rfl

theorem kept_postKeys (keys : List (String × String)) : Kept (keys ⊆ ·.postKeys) where
  answer m c h := List.Subset.trans h (m.postKeys_answer c)
  register _ _ h := h
  rejectCreate _ _ _ _ h := h
  rejectGet _ _ _ _ h := h
  failDiscovery _ _ h := h
  conflictStatus _ h := h

/-- An attempt posted chunks in order, each as it is and once, and asked the cluster for nothing
else.  It stopped right behind the first one that failed otherwise than by being there.  The posts
grew by the texts of those that it reports as created. -/
structure PostsInOrder (path : String) (chunks : List Bytes) (before after : Memory)
    (calls : List (Answered Cluster.Call Cluster.Call.Answer)) (report : Report)
    (posted : List (Bytes × Except ClusterError Unit)) : Prop where
  calls : calls = posted.map fun x => ⟨.post path x.1, x.2⟩
  inOrder : posted.map (·.1) <+: chunks
  ending : match report.error? with
    | none => report.phase = .succeeded ∧ posted.map (·.1) = chunks ∧
        ∀ x ∈ posted, Memory.IsPosted x.2
    | some e => report.phase = .failed posted.length ∧ ∃ passed chunk cause,
        posted = passed ++ [(chunk, .error cause)] ∧ (∀ x ∈ passed, Memory.IsPosted x.2) ∧
        ¬cause.isAlreadyExists ∧ e = .apply (chunkName posted.length) cause
  total : report.total? = some chunks.length
  created : report.summary.created = (Memory.accepted 1 posted).map fun x => chunkName x.1
  posts : after.posts = before.posts ++
    (Memory.accepted 1 posted).map fun x => (path, Text.Utf8.toStringLossy x.2)

theorem Overlaid.postsInOrder {config : Config} {chunks : List Bytes} {i : Installation}
    {r : Rehearsal} {posted : List (Bytes × Except ClusterError Unit)}
    {cause? : Option ClusterError} (h : Overlaid config chunks i r posted cause?) :
    PostsInOrder config.overlay.postPath chunks r.cluster (r.run (attempt config i)).2.cluster
      (r.calls (attempt config i)) (r.run (attempt config i)).1 posted where
  calls := h.calls
  inOrder := h.posts.isPrefix
  ending := by
    have hending := h.posts.ending
    rw [h.error, h.phase]
    cases cause? with
    | none => exact ⟨rfl, hending⟩
    | some cause =>
      obtain ⟨hcause, passed, chunk, hposted, hpassed⟩ := hending
      exact ⟨rfl, passed, chunk, cause, hposted, hpassed, hcause, rfl⟩
  total := h.total
  created := h.created
  posts := h.posts.posts_eq 1

/-- **An attempt posts the chunks of an overlay in order, and a second one posts none of them
again.**  From any state, an attempt that gets its overlay posts the chunks from the first one on.
Whatever happens then, an attempt that comes to the same octets adds no post, reports nothing as
created and ends as the first one did. -/
theorem overlay_attempts_restart {config : Config} {i : Installation} {r : Rehearsal}
    {descriptor rendered : Bytes} (htolerant : config.overlay.tolerateExisting = true)
    (hkind : i.spec.kind = .overlay) (hfetch : (r.shelf.fetch i.spec.url).1 = .ok descriptor)
    (hbuild : r.build descriptor = .ok rendered) :
    let first := r.run (attempt config i)
    (∃ posted, PostsInOrder config.overlay.postPath (Overlay.chunks rendered) r.cluster
        first.2.cluster (r.calls (attempt config i)) first.1 posted) ∧
      ∀ (history : List Happening) (config' : Config) (i' : Installation) (descriptor' : Bytes),
        let r' := first.2.after history
        let second := r'.run (attempt config' i')
        config'.overlay.tolerateExisting = true → i'.spec.kind = .overlay →
        (r'.shelf.fetch i'.spec.url).1 = .ok descriptor' → r'.build descriptor' = .ok rendered →
        second.2.cluster.posts = r'.cluster.posts ∧ second.1.summary.created = [] ∧
          second.1.phase = first.1.phase ∧ second.1.total? = first.1.total? ∧
          second.1.error? = first.1.error? := by
  intro first
  obtain ⟨posted, cause?, h⟩ := overlaid htolerant hkind hfetch hbuild
  refine ⟨⟨posted, h.postsInOrder⟩, ?_⟩
  intro history config' i' descriptor' r' second htolerant' hkind' hfetch' hbuild'
  obtain ⟨posted', cause?', h'⟩ := overlaid htolerant' hkind' hfetch' hbuild'
  obtain ⟨hchunks, rfl⟩ := h.posts.alike h'.posts
  have hlength : posted'.length = posted.length := by
    rw [← List.length_map (fun x : Bytes × Except ClusterError Unit => x.1), hchunks,
      List.length_map]
  -- All that the second pass comes to was posted by the first one, and nothing is forgotten.
  have hknown : ∀ x ∈ posted', ∀ v, Memory.readPosted (Text.Utf8.toStringLossy x.1) = .ok v →
      Memory.postKey v ∈ r'.cluster.postKeys := by
    intro x hx v hv
    have hmem : x.1 ∈ posted.map (·.1) := by
      rw [← hchunks]
      exact List.mem_map_of_mem hx
    obtain ⟨y, hy, hyx⟩ := List.mem_map.mp hmem
    have hkey := h.posts.mem_postKeys y hy v (by rw [hyx]; exact hv)
    have hkept : first.2.cluster.postKeys ⊆ r'.cluster.postKeys :=
      (kept_postKeys first.2.cluster.postKeys).after (List.Subset.refl _) history
    exact hkept hkey
  have hnone := h'.posts.accepted_eq_nil hknown 1
  refine ⟨?_, ?_, ?_, ?_, ?_⟩
  · rw [h'.posts.posts_eq 1, hnone]
    exact List.append_nil _
  · rw [h'.created, hnone]
    rfl
  · rw [h'.phase, h.phase, hlength]
  · rw [h'.total, h.total]
  · rw [h'.error, h.error, hlength]

/-- An overlay with a document that stands twice, a text that is no document, and one more. -/
def patchy : Bytes := Text.Utf8.ofString "kind: A\n---\nkind: A\n---\n[\n---\nkind: B"

def patchyStart : Rehearsal :=
  start (Fetch.Shelf.empty.put "http://[::1]/o" [111]) fun _ => .ok patchy

def patchyDemo : Installation := .new "demo" "http://[::1]/o" .overlay

/-- The first attempt posts one document, skips it when it comes again, and stops at the third chunk
of four; the second attempt stops there too. -/
theorem overlay_attempts_restart_patchy :
    let first := patchyStart.run (attempt .standard patchyDemo)
    let later := first.2.after [.failDiscovery true]
    let second := later.run (attempt .standard patchyDemo)
    first.1.phase = .failed 3 ∧ first.1.total? = some 4 ∧
      first.1.summary = ⟨["overlay document #1"], [("overlay document #2", .alreadyThere)]⟩ ∧
      first.2.cluster.posts = [("/api/v1", "kind: A\n")] ∧
      (∃ posted, PostsInOrder "/api/v1" (Overlay.chunks patchy) patchyStart.cluster
        first.2.cluster (patchyStart.calls (attempt .standard patchyDemo)) first.1 posted) ∧
      second.2.cluster.posts = later.cluster.posts ∧ second.1.summary.created = [] ∧
      second.1.phase = .failed 3 := by
  intro first later second
  have hvalid : (Fetch.validate "http://[::1]/o").isOk := by decide +kernel
  have hfetch : (patchyStart.shelf.fetch patchyDemo.spec.url).1 = .ok [111] := fetch_put hvalid
  have hfetch' : (later.shelf.fetch patchyDemo.spec.url).1 = .ok [111] := by
    have hbundles : later.shelf.bundles = patchyStart.shelf.bundles := bundles_run _ patchyStart
    rw [fetch_of_bundles hbundles, hfetch]
  have hbuild' : later.build [111] = .ok patchy := by
    have hbuild : later.build = patchyStart.build := build_run _ patchyStart
    rw [hbuild]
    rfl
  have hfirst : first.1.phase = .failed 3 ∧ first.1.total? = some 4 ∧
      first.1.summary = ⟨["overlay document #1"], [("overlay document #2", .alreadyThere)]⟩ ∧
      first.2.cluster.posts = [("/api/v1", "kind: A\n")] := by decide +kernel
  obtain ⟨hposts, hagain⟩ :=
    @overlay_attempts_restart .standard patchyDemo patchyStart [111] patchy rfl rfl hfetch rfl
  obtain ⟨hsame, hcreated, hphase, -, -⟩ :=
    hagain [.failDiscovery true] .standard patchyDemo [111] rfl rfl hfetch' hbuild'
  obtain ⟨hfailed, htotal, hsummary, hposted⟩ := hfirst
  exact ⟨hfailed, htotal, hsummary, hposted, hposts, hsame, hcreated, hphase.trans hfailed⟩

end Rehearsal
end Install
end BundleInstaller
