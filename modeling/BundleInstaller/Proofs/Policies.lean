import BundleInstaller.Proofs.Accounting
import BundleInstaller.Proofs.Posts

/-!
# Tolerant and strict overlays

A configuration tolerates documents of an overlay that are there already, or it does not.  From the
same state, the two attempts do the same up to the first chunk that the tolerant one skips, and
there the strict one ends.

* `beforePost?`: what a plan has come to when it makes a post after some others.
* `postChunks_parts`: posting chunks under both policies, by induction on the chunks.
* `run_attempt_prepared`: an attempt fetches and builds the overlay whatever the policy, and then
  posts what is built.
* `strict_attempt_parts`: both attempts are the same, or the strict one ends at the first chunk that
  the tolerant one skips.
-/

namespace BundleInstaller

open Cluster Program

/-- The configuration with a policy for documents of an overlay that are there already. -/
def OverlayConfig.tolerating (config : OverlayConfig) (tolerate : Bool) : OverlayConfig :=
  { config with tolerateExisting := tolerate }

def Config.tolerating (config : Config) (tolerate : Bool) : Config :=
  { config with overlay := config.overlay.tolerating tolerate }

/-- The same cluster after one more post was counted. -/
def Cluster.Memory.countPost (m : Memory) : Memory :=
  { m with counts := { m.counts with posts := m.counts.posts + 1 } }

/-- **A post of what is there already is counted, and changes nothing.** -/
theorem Cluster.Memory.post_of_exists {m : Memory} {path : String} {body : Bytes}
    {cause : ClusterError} (hanswer : (m.post path body).1 = .error cause)
    (hcause : cause.isAlreadyExists = true) :
    (∃ resource, cause = .alreadyExists resource) ∧ (m.post path body).2 = m.countPost := by
  unfold post at hanswer ⊢
  dsimp only at hanswer ⊢
  split at hanswer
  · -- octets that are no document fail otherwise
    cases hanswer
    cases hcause
  · split at hanswer
    · rename_i hkey
      cases hanswer
      rw [if_pos hkey]
      exact ⟨⟨_, rfl⟩, rfl⟩
    · cases hanswer

namespace Install

/-- Whether a call posts something. -/
def Call.isPost : Call → Bool
  | .cluster (.post _ _) => true
  | _ => false

namespace Rehearsal

def countPost (r : Rehearsal) : Rehearsal := { r with cluster := r.cluster.countPost }

/-! ## Between two posts -/

/-- What a plan has come to when it makes a post after `n` others; `none` if it makes no more. -/
def beforePost? {α : Type} : Plan α → Nat → Rehearsal → Option Rehearsal
  | .done _, _, _ => none
  | .ask c next, 0, r =>
    if c.isPost then some r else beforePost? (next (handle c r).1) 0 (handle c r).2
  | .ask c next, n + 1, r =>
    beforePost? (next (handle c r).1) (if c.isPost then n else n + 1) (handle c r).2

section

variable {α β : Type} {f : α → Plan β} {n : Nat}

theorem beforePost?_ask {c : Call} (hc : c.isPost = false) (next : c.Answer → Plan α)
    (r : Rehearsal) :
    r.beforePost? (.ask c next) n = (handle c r).2.beforePost? (next (handle c r).1) n := by
  cases n with
  | zero => rw [beforePost?, if_neg (by simp [hc])]
  | succ n => rw [beforePost?, if_neg (by simp [hc])]

theorem beforePost?_bind_of_asks {p : Plan α} (hp : p.Asks (·.isPost = false)) (r : Rehearsal) :
    r.beforePost? (p >>= f) n = (r.run p).2.beforePost? (f (r.run p).1) n := by
  induction p generalizing r with
  | done a => rfl
  | ask c next ih =>
    obtain ⟨hc, hnext⟩ := hp
    rw [ask_bind, beforePost?_ask hc]
    exact ih _ (hnext _) _

/-- What a plan comes to before a post of its own does not depend on what follows the plan. -/
theorem beforePost?_bind_of_some {p : Plan α} {r s : Rehearsal} (h : r.beforePost? p n = some s) :
    r.beforePost? (p >>= f) n = some s := by
  induction p generalizing n r with
  | done a => cases h
  | ask c next ih =>
    rw [ask_bind]
    cases n with
    | zero =>
      rw [beforePost?] at h ⊢
      by_cases hc : c.isPost
      · rw [if_pos hc] at h ⊢
        exact h
      · rw [if_neg hc] at h ⊢
        exact ih _ h
    | succ n => exact ih _ h

end

/-! ## Posting chunks -/

/-- Posting chunks under both policies comes to the same, with nothing skipped, or it parts at a
chunk that the tolerant policy skips: there the strict one stops. -/
inductive Parts (config : OverlayConfig) (chunks : List Bytes) (index : Nat) (p : Progress)
    (r : Rehearsal) : Prop
  | nowhere
      (hskipped : (r.run (postChunks (config.tolerating true) p index chunks)).1.1.summary.skipped =
        p.summary.skipped)
      (hrun : r.run (postChunks (config.tolerating false) p index chunks) =
        r.run (postChunks (config.tolerating true) p index chunks))
  | behind (n : Nat) (s : Rehearsal) (resource : String) (more : List (String × Applied))
      (hskipped : (r.run (postChunks (config.tolerating true) p index chunks)).1.1.summary.skipped =
        p.summary.skipped ++ (chunkName (index + n), .alreadyThere) :: more)
      (hbefore : r.beforePost? (postChunks (config.tolerating true) p index chunks) n = some s)
      (hrun : r.run (postChunks (config.tolerating false) p index chunks) =
        ((⟨.applying (index + n), p.total?,
            ⟨p.summary.created ++ (List.range' index n).map chunkName, p.summary.skipped⟩⟩,
          some (.apply (chunkName (index + n)) (.alreadyExists resource))), s.countPost))

theorem tally_postChunks (config : OverlayConfig) (chunks : List Bytes) (index : Nat)
    (p : Progress) (r : Rehearsal) :
    (r.run (postChunks config p index chunks)).1.1.total? = p.total? ∧
      ∃ more, (r.run (postChunks config p index chunks)).1.1.summary.skipped =
        p.summary.skipped ++ more := by
  have hyields := yields_transcript handle (postChunks config p index chunks) r
  obtain ⟨results, hsweep⟩ := postChunks_sweep hyields
  obtain ⟨htotal, hsummary, -⟩ := hsweep.tally
  rw [Summary.recordAll_eq] at hsummary
  exact ⟨htotal, _, congrArg Summary.skipped hsummary⟩

section

variable {config : OverlayConfig} {chunk : Bytes} {rest : List Bytes} {index : Nat} {p : Progress}
  {r : Rehearsal}

theorem accepted_postChunks (hanswer : (r.cluster.post config.postPath chunk).1 = .ok ()) :
    let p' := Progress.record { p with phase := .applying index } (chunkName index) .created
    let r' : Rehearsal := { r with cluster := (r.cluster.post config.postPath chunk).2 }
    r.run (postChunks config p index (chunk :: rest)) =
        r'.run (postChunks config p' (index + 1) rest) ∧
      ∀ n, r.beforePost? (postChunks config p index (chunk :: rest)) (n + 1) =
        r'.beforePost? (postChunks config p' (index + 1) rest) n := by
  intro p' r'
  have hanswered : handle (.cluster (.post config.postPath chunk)) r = (.ok (), r') :=
    Prod.ext hanswer rfl
  rw [postChunks_cons]
  constructor
  · rw [run_enter, askCluster, run_ask, hanswered]
    rfl
  · intro n
    show beforePost? (afterPost config { p with phase := .applying index } index rest
      (handle (.cluster (.post config.postPath chunk)) r).1) n
        (handle (.cluster (.post config.postPath chunk)) r).2 = _
    rw [hanswered]
    exact beforePost?_ask rfl _ _

theorem Parts.accepted (hanswer : (r.cluster.post config.postPath chunk).1 = .ok ())
    (h : Parts config rest (index + 1)
      (Progress.record { p with phase := .applying index } (chunkName index) .created)
      { r with cluster := (r.cluster.post config.postPath chunk).2 }) :
    Parts config (chunk :: rest) index p r := by
  obtain ⟨htolerant, hbefore'⟩ :=
    @accepted_postChunks (config.tolerating true) chunk rest index p r hanswer
  obtain ⟨hstrict', -⟩ := @accepted_postChunks (config.tolerating false) chunk rest index p r hanswer
  cases h with
  | nowhere hskipped hsame =>
    refine .nowhere ?_ ?_
    · rw [htolerant]
      exact hskipped
    · rw [htolerant, hstrict']
      exact hsame
  | behind n s resource more hskipped hbefore hstrict =>
    have hnumber : index + 1 + n = index + (n + 1) := by omega
    rw [hnumber] at hskipped hstrict
    refine .behind (n + 1) s resource more ?_ ?_ ?_
    · rw [htolerant]
      exact hskipped
    · rw [hbefore']
      exact hbefore
    · rw [hstrict']
      refine hstrict.trans ?_
      rw [List.range'_succ, List.map_cons, List.append_cons]
      rfl

theorem Parts.refused {cause : ClusterError}
    (hanswer : (r.cluster.post config.postPath chunk).1 = .error cause)
    (hcause : cause.isAlreadyExists = false) : Parts config (chunk :: rest) index p r := by
  have hrun : ∀ tolerate, r.run (postChunks (config.tolerating tolerate) p index (chunk :: rest)) =
      (({ p with phase := .applying index }, some (.apply (chunkName index) cause)),
        { r with cluster := (r.cluster.post config.postPath chunk).2 }) := by
    intro tolerate
    obtain ⟨hnext, -⟩ := run_postChunks_cons (config.tolerating tolerate) p index chunk rest r
    rw [hnext]
    show Rehearsal.run (afterPost _ _ _ _ (r.cluster.post config.postPath chunk).1) _ = _
    rw [hanswer, afterPost, hcause]
    rfl
  exact .nowhere (by rw [hrun]) (by rw [hrun, hrun])

theorem Parts.skipped {cause : ClusterError}
    (hanswer : (r.cluster.post config.postPath chunk).1 = .error cause)
    (hcause : cause.isAlreadyExists = true) : Parts config (chunk :: rest) index p r := by
  obtain ⟨⟨resource, rfl⟩, hstate⟩ := Memory.post_of_exists hanswer hcause
  have hnext : ∀ tolerate, r.run (postChunks (config.tolerating tolerate) p index (chunk :: rest)) =
      Rehearsal.run (afterPost (config.tolerating tolerate) { p with phase := .applying index } index
        rest (.error (.alreadyExists resource))) r.countPost := by
    intro tolerate
    obtain ⟨hnext, -⟩ := run_postChunks_cons (config.tolerating tolerate) p index chunk rest r
    rw [hnext]
    show Rehearsal.run (afterPost _ _ _ _ (r.cluster.post config.postPath chunk).1)
      { r with cluster := (r.cluster.post config.postPath chunk).2 } = _
    rw [hanswer, hstate]
    rfl
  have htolerant : r.run (postChunks (config.tolerating true) p index (chunk :: rest)) =
      Rehearsal.run (postChunks (config.tolerating true)
        (Progress.record { p with phase := .applying index } (chunkName index) .alreadyThere)
        (index + 1) rest) r.countPost := hnext true
  -- what the tolerant policy goes on with only adds to what it has skipped
  obtain ⟨-, more, hmore⟩ := tally_postChunks (config.tolerating true) rest (index + 1)
    (Progress.record { p with phase := .applying index } (chunkName index) .alreadyThere) r.countPost
  refine .behind 0 r resource more ?_ rfl ?_
  · rw [htolerant, hmore]
    exact List.append_assoc _ _ _
  · rw [hnext false]
    show (((_ : Progress × Option InstallError)), _) = _
    rw [List.range'_zero, List.map_nil, List.append_nil]
    rfl

end

/-- **The policies part at the first chunk that is there already, or nowhere.** -/
theorem postChunks_parts (config : OverlayConfig) (chunks : List Bytes) (index : Nat) (p : Progress)
    (r : Rehearsal) : Parts config chunks index p r := by
  -- both policies have done the same so far, so one state serves for both
  induction chunks generalizing index p r with
  | nil => exact .nowhere rfl rfl
  | cons chunk rest ih =>
    cases hanswer : (r.cluster.post config.postPath chunk).1 with
    | ok => exact .accepted hanswer (ih _ _ _)
    | error cause =>
      cases hcause : cause.isAlreadyExists with
      | false => exact .refused hanswer hcause
      | true => exact .skipped hanswer hcause

/-! ## Attempts -/

/-- Fetches and builds an overlay, up to its chunks; or how far it came, and why not further. -/
def prepareOverlay (url : String) : Plan (Except (Phase × InstallError) (List Bytes)) := do
  match ← fetchBundle url .start with
  | (p, .error e) => return .error (p.phase, e)
  | (p, .ok descriptor) =>
    let p ← p.enter .rendering
    match ← ask (.build descriptor) with
    | .error e => return .error (p.phase, .render e)
    | .ok rendered =>
      let _ ← p.enter .splitting
      return .ok (Overlay.chunks rendered)

/-- Posts the chunks of an overlay, if there are any. -/
def postPrepared (config : OverlayConfig) :
    Except (Phase × InstallError) (List Bytes) → Plan (Progress × Option InstallError)
  | .error (phase, e) => return (⟨phase, none, .empty⟩, some e)
  | .ok chunks => postChunks config ⟨.splitting, some chunks.length, .empty⟩ 1 chunks

/-- **The policy does not matter before the first post.** -/
theorem attemptSteps_overlay (config : Config) (url : String) :
    attemptSteps config ⟨url, .overlay⟩ = prepareOverlay url >>= postPrepared config.overlay := by
  unfold attemptSteps fetchAndInstall prepareOverlay fetchBundle
  cases Fetch.validate url with
  | error e => rfl
  | ok u =>
    refine congrArg (Program.ask _) (funext fun _ => congrArg (Program.ask _) (funext fun answer => ?_))
    cases answer with
    | error e => rfl
    | ok descriptor =>
      refine congrArg (Program.ask _) (funext fun _ =>
        congrArg (Program.ask _) (funext fun answer => ?_))
      cases answer <;> rfl

theorem asks_prepareOverlay (url : String) : (prepareOverlay url).Asks (·.isPost = false) := by
  unfold prepareOverlay fetchBundle
  cases Fetch.validate url with
  | error e => trivial
  | ok u =>
    refine ⟨rfl, fun _ => ⟨rfl, fun answer => ?_⟩⟩
    cases answer with
    | error e => trivial
    | ok descriptor =>
      refine ⟨rfl, fun _ => ⟨rfl, fun answer => ?_⟩⟩
      cases answer with
      | error e => trivial
      | ok rendered => exact ⟨rfl, fun _ => trivial⟩

/-- An attempt prepares the overlay, whatever the policy, and then posts what is prepared. -/
theorem run_attempt_prepared (config : Config) {i : Installation} (hkind : i.spec.kind = .overlay)
    (r : Rehearsal) :
    let prepared := r.run (prepareOverlay i.spec.url)
    let posted := prepared.2.run (postPrepared config.overlay prepared.1)
    r.run (attempt config i) = (posted.1.1.finish posted.1.2, posted.2) ∧
      ∀ n s, prepared.2.beforePost? (postPrepared config.overlay prepared.1) n = some s →
        r.beforePost? (attempt config i) n = some s := by
  intro prepared posted
  have hsteps : attemptSteps config i.spec =
      prepareOverlay i.spec.url >>= postPrepared config.overlay := by
    have hspec : i.spec = ⟨i.spec.url, .overlay⟩ := by rw [← hkind]
    rw [hspec]
    exact attemptSteps_overlay config i.spec.url
  have hposted : r.run (prepareOverlay i.spec.url >>= postPrepared config.overlay) = posted :=
    run_bind _ _ r
  unfold attempt
  rw [hsteps]
  constructor
  · rw [run_bind, hposted]
    rfl
  · intro n s h
    refine beforePost?_bind_of_some ?_
    rw [beforePost?_bind_of_asks (asks_prepareOverlay _)]
    exact h

/-- A strict attempt ends where the tolerant one skips its first chunk, which has `n` chunks before
it: those are created, and that one is there already.  It leaves what the tolerant attempt has come
to right behind those chunks, but that one more post is counted. -/
structure EndsAtSkip (n : Nat) (before : Option Rehearsal) (tolerant strict : Report × Rehearsal) :
    Prop where
  skip : tolerant.1.summary.skipped.head? = some (chunkName (n + 1), .alreadyThere)
  phase : strict.1.phase = .failed (n + 1)
  error : ∃ resource, strict.1.error? =
    some (.apply (chunkName (n + 1)) (.alreadyExists resource))
  total : strict.1.total? = tolerant.1.total?
  created : strict.1.summary.created = (List.range' 1 n).map chunkName
  skipped : strict.1.summary.skipped = []
  state : before.map countPost = some strict.2

/-- **A strict attempt is the tolerant one, cut at the first chunk that is there already.** -/
theorem strict_attempt_parts (config : Config) {i : Installation} (hkind : i.spec.kind = .overlay)
    (r : Rehearsal) :
    let tolerant := r.run (attempt (config.tolerating true) i)
    let strict := r.run (attempt (config.tolerating false) i)
    (∀ x ∈ tolerant.1.summary.skipped, x.2 ≠ .alreadyThere) ∧ strict = tolerant ∨
      ∃ n, EndsAtSkip n (r.beforePost? (attempt (config.tolerating true) i) n) tolerant strict := by
  intro tolerant strict
  obtain ⟨htolerant, hbefore⟩ := run_attempt_prepared (config.tolerating true) hkind r
  obtain ⟨hstrict, -⟩ := run_attempt_prepared (config.tolerating false) hkind r
  rw [show tolerant = _ from htolerant, show strict = _ from hstrict]
  generalize r.run (prepareOverlay i.spec.url) = prepared at hbefore ⊢
  obtain ⟨⟨phase, e⟩ | chunks, reached⟩ := prepared
  · -- there is nothing to post
    refine .inl ⟨?_, rfl⟩
    intro x hx
    cases hx
  · cases postChunks_parts config.overlay chunks 1 ⟨.splitting, some chunks.length, .empty⟩ reached with
    | nowhere hskipped hrun =>
      refine .inl ⟨?_, congrArg (fun y => (y.1.1.finish y.1.2, y.2)) hrun⟩
      intro x hx
      have hempty := congrArg (x ∈ ·) hskipped
      cases hempty.mp hx
    | behind n s resource more hskipped hposting hrun =>
      have hnumber : 1 + n = n + 1 := Nat.add_comm 1 n
      rw [hnumber] at hskipped hrun
      have hrun' : reached.run (postPrepared (config.tolerating false).overlay (.ok chunks)) = _ :=
        hrun
      have hskipped' : (reached.run (postPrepared (config.tolerating true).overlay
        (.ok chunks))).1.1.summary.skipped = _ := hskipped
      have htotal : (reached.run (postPrepared (config.tolerating true).overlay
          (.ok chunks))).1.1.total? = some chunks.length :=
        (tally_postChunks _ _ _ _ _).1
      refine .inr ⟨n, ?_⟩
      rw [hrun', hbefore n s hposting]
      exact {
        skip := (congrArg List.head? hskipped').trans rfl
        phase := rfl
        error := ⟨resource, rfl⟩
        total := htotal.symm
        created := rfl
        skipped := rfl
        state := rfl }

/-- The second document of `patchy` is the first one again: the strict attempt ends there, behind one
document, and posts nothing else. -/
theorem strict_attempt_parts_patchy :
    let tolerant := patchyStart.run (attempt (Config.standard.tolerating true) patchyDemo)
    let strict := patchyStart.run (attempt (Config.standard.tolerating false) patchyDemo)
    tolerant.1.phase = .failed 3 ∧ strict.1.phase = .failed 2 ∧
      strict.2.cluster.posts = [("/api/v1", "kind: A\n")] ∧
      EndsAtSkip 1 (patchyStart.beforePost? (attempt (Config.standard.tolerating true) patchyDemo) 1)
        tolerant strict := by
  intro tolerant strict
  have htolerant : tolerant.1.phase = .failed 3 := by decide +kernel
  have hstrict : strict.1.phase = .failed 2 ∧
      strict.2.cluster.posts = [("/api/v1", "kind: A\n")] := by decide +kernel
  obtain ⟨hfailed, hposts⟩ := hstrict
  obtain ⟨-, hsame⟩ | ⟨n, hends⟩ := strict_attempt_parts .standard (i := patchyDemo) rfl patchyStart
  · have hphase : strict.1.phase = tolerant.1.phase := congrArg (·.1.phase) hsame
    rw [hfailed, htolerant] at hphase
    cases hphase
  · have hn : n = 1 := by
      have hphase := hends.phase.symm.trans hfailed
      injection hphase with hphase
      omega
    subst hn
    exact ⟨htolerant, hfailed, hposts, hends⟩

end Rehearsal
end Install
end BundleInstaller
