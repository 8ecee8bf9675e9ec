import BundleInstaller.Cluster.Client
import BundleInstaller.Proofs.Statuses

/-!
# What is missing

A cluster behind a connection answers a lookup with nothing where the API refuses it and gives
`NotFound` as its reason, whatever the code of the refusal.  An error, on the other hand, counts as
one of something missing by its code.  The two agree on a refusal that has both or neither; on the
others the reason decides what becomes of the lookup.

* `toAnswer_find`: a lookup sends one request, and comes to what is found in the response.
* `GoesByReason`: how reason and code of a failure bear on the lookup.
* `run_reconcile_of_absent`, `afterLook_applySchema`: what is done about something missing.
* `absence_goes_by_reason`: lookups over a connection, and what becomes of them.
-/

namespace BundleInstaller

open Http Program

namespace Cluster.Client

/-! ## Lookups -/

section

variable {α : Type} (read : Json.Cursor → Json.Read α)

/-- What the answer to a request holds. -/
def outcome : Except String Response → Outcome α
  | .error problem => .error (.transport problem)
  | .ok response => receive read (textOf response)

def lookup : Outcome α → Except ClusterError (Option α)
  | .ok a => .ok (some a)
  | .error (.refused refusal) =>
    if refusal.reason = Refusal.missing then .ok none else .error (.client (.refused refusal))
  | .error fault => .error (.client fault)

/-- Sent to a target, an exchange is one request, and comes to what its answer holds. -/
theorem exchange_of_target {method path : String} {contentType? : Option String} {body : Bytes}
    {target : Target} (htarget : Target.read path = .ok target) :
    exchange method path contentType? body read =
      call ⟨method, target, contentType?, body⟩ >>= fun answer => done (outcome read answer) := by
  unfold exchange
  rw [htarget]
  show Program.ask _ _ = Program.ask _ _
  congr 1
  funext answer
  cases answer <;> rfl

theorem toAnswer_eq (p : Exchange (Outcome α)) :
    toAnswer p = p >>= fun outcome => done (outcome.mapError .client) := by
  unfold toAnswer
  congr 1
  funext outcome
  cases outcome <;> rfl

/-- **A lookup sends one request, and comes to what is found in the response.** -/
theorem toAnswer_find {collection name : String} {target : Target} (hname : name ≠ "")
    (htarget : Target.read (collection ++ "/" ++ name) = .ok target) :
    toAnswer (find collection name read) =
      call (getRequest target) >>= fun answer => done (lookup (outcome read answer)) := by
  have hempty : ¬name.isEmpty = true := by simpa using hname
  unfold toAnswer find
  rw [if_neg hempty, exchange_of_target read htarget]
  show Program.ask _ _ = Program.ask _ _
  congr 1
  funext answer
  show _ = done (lookup (outcome read answer))
  -- what is left goes by the outcome alone
  show (match outcome read answer with
    | .ok a => done (.ok (some a))
    | .error (.refused refusal) =>
      done (if refusal.reason = Refusal.missing then .ok none else .error (.refused refusal))
    | .error fault => done (.error fault) : Exchange (Outcome (Option α))) >>= _ = _
  cases outcome read answer with
  | ok a => rfl
  | error fault =>
    cases fault with
    | refused refusal =>
      dsimp only [lookup]
      by_cases hreason : refusal.reason = Refusal.missing
      · simp only [if_pos hreason]
        rfl
      · simp only [if_neg hreason]
        rfl
    | _ => rfl

theorem run_toAnswer_find {σ : Type} (world : (r : Request) → StateM σ (Answer r)) (s : σ)
    {collection name : String} {target : Target} (hname : name ≠ "")
    (htarget : Target.read (collection ++ "/" ++ name) = .ok target) :
    ((toAnswer (find collection name read)).run world s).1 =
      lookup (outcome read (world (getRequest target) s).1) := by
  rw [toAnswer_find read hname htarget]
  rfl

theorem outcome_of_fault {response : Response} {fault : ClientFault}
    (h : textOf response = .error fault) : outcome read (.ok response) = .error fault := by
  show receive read (textOf response) = _
  rw [h]
  rfl

end

/-! ## Failures -/

/-- A response that tells of a failure gives a fault: a refusal, if it is a text at all. -/
theorem exists_fault {response : Response} (hfail : isFailure response.status = true) :
    ∃ fault, textOf response = .error fault ∧
      ∀ text, Text.Utf8.decode response.body = .ok text →
        fault = .refused (.ofResponse response.status text) := by
  unfold textOf
  cases Text.Utf8.decode response.body with
  | error problem => exact ⟨_, rfl, fun _ h => nomatch h⟩
  | ok text =>
    dsimp only
    rw [if_pos hfail]
    refine ⟨_, rfl, fun text' h => ?_⟩
    cases h
    rfl

theorem ofResponse_of_unreadable (status : Nat) {text : String} {problem : Json.Fault}
    (h : Json.readText Refusal.read text = .error problem) :
    (Refusal.ofResponse status text).code = status ∧
      (Refusal.ofResponse status text).reason ≠ Refusal.missing := by
  have hreason : Refusal.unreadable ≠ Refusal.missing := by decide
  unfold Refusal.ofResponse
  rw [h]
  exact ⟨rfl, hreason⟩

/-- The API says that what was asked for is missing. -/
def SaysMissing (fault : ClientFault) : Prop :=
  ∃ refusal, fault = .refused refusal ∧ refusal.reason = Refusal.missing

theorem lookup_of_saysMissing {α : Type} {fault : ClientFault} (h : SaysMissing fault) :
    lookup (.error fault : Outcome α) = .ok none := by
  obtain ⟨refusal, rfl, hreason⟩ := h
  exact if_pos hreason

theorem lookup_of_not_saysMissing {α : Type} {fault : ClientFault} (h : ¬SaysMissing fault) :
    lookup (.error fault : Outcome α) = .error (.client fault) := by
  cases fault with
  | refused refusal => exact if_neg fun hreason => h ⟨refusal, rfl, hreason⟩
  | _ => rfl

theorem isNotFound_client_iff {fault : ClientFault} :
    (ClusterError.client fault).isNotFound = true ↔
      ∃ refusal, fault = .refused refusal ∧ refusal.code = 404 := by
  constructor
  · intro h
    cases fault with
    | refused refusal => exact ⟨refusal, rfl, beq_iff_eq.mp h⟩
    | _ => cases h
  · rintro ⟨refusal, rfl, hcode⟩
    exact beq_iff_eq.mpr hcode

/-- How reason and code of a failure bear on the answer of a lookup.  What is missing is told by the
reason; every other failure is handed on, and its error counts as one of something missing by the
code. -/
structure GoesByReason {α : Type} (response : Response) (fault : ClientFault)
    (answer : Except ClusterError (Option α)) : Prop where
  absent_iff : answer = .ok none ↔ SaysMissing fault
  failed : ¬SaysMissing fault → answer = .error (.client fault)
  isNotFound_iff : (ClusterError.client fault).isNotFound = true ↔
    ∃ refusal, fault = .refused refusal ∧ refusal.code = 404
  /-- Both ways to tell what is missing agree where code and reason do. -/
  agrees_iff : (answer = .ok none ↔ (ClusterError.client fault).isNotFound = true) ↔
    ∀ refusal, fault = .refused refusal → (refusal.reason = Refusal.missing ↔ refusal.code = 404)
  /-- A text that is no refusal never tells of something missing, but has the code of the response. -/
  unreadable : ∀ text problem, Text.Utf8.decode response.body = .ok text →
    Json.readText Refusal.read text = .error problem →
    answer = .error (.client fault) ∧
      ((ClusterError.client fault).isNotFound = true ↔ response.status = 404)

theorem goesByReason_lookup {α : Type} {response : Response} {fault : ClientFault}
    (hfault : ∀ text, Text.Utf8.decode response.body = .ok text →
      fault = .refused (.ofResponse response.status text)) :
    GoesByReason response fault (lookup (.error fault : Outcome α)) := by
  have habsent : lookup (.error fault : Outcome α) = .ok none ↔ SaysMissing fault := by
    constructor
    · intro h
      by_contra hsays
      rw [lookup_of_not_saysMissing hsays] at h
      cases h
    · exact lookup_of_saysMissing
  refine ⟨habsent, lookup_of_not_saysMissing, isNotFound_client_iff, ?_, ?_⟩
  · rw [habsent, isNotFound_client_iff]
    constructor
    · rintro h refusal rfl
      constructor
      · intro hreason
        obtain ⟨_, hrefusal, hcode⟩ := h.mp ⟨refusal, rfl, hreason⟩
        cases hrefusal
        exact hcode
      · intro hcode
        obtain ⟨_, hrefusal, hreason⟩ := h.mpr ⟨refusal, rfl, hcode⟩
        cases hrefusal
        exact hreason
    · intro h
      constructor
      · rintro ⟨refusal, hrefusal, hreason⟩
        exact ⟨refusal, hrefusal, (h refusal hrefusal).mp hreason⟩
      · rintro ⟨refusal, hrefusal, hcode⟩
        exact ⟨refusal, hrefusal, (h refusal hrefusal).mpr hcode⟩
  · intro text problem htext hproblem
    obtain ⟨hcode, hreason⟩ := ofResponse_of_unreadable response.status hproblem
    have hrefused := hfault text htext
    constructor
    · refine lookup_of_not_saysMissing ?_
      rintro ⟨refusal, hrefusal, hmissing⟩
      rw [hrefused] at hrefusal
      cases hrefusal
      exact hreason hmissing
    · rw [isNotFound_client_iff, hrefused]
      constructor
      · rintro ⟨refusal, hrefusal, h404⟩
        cases hrefusal
        exact hcode.symm.trans h404
      · intro h404
        exact ⟨_, rfl, hcode.trans h404⟩

end Cluster.Client

namespace Install

open Cluster

/-! ## What becomes of a lookup -/

section

variable {σ : Type} {world : (c : Call) → StateM σ c.Answer} {s : σ}

theorem run_reconcile_of_absent (config : Config) (version : Option String) {name : String}
    (h : (world (.cluster (.readInstallation name)) s).1 = .ok none) :
    ((reconcile config version name).run world s).1 = .ok .gone := by
  show ((match (world (.cluster (.readInstallation name)) s).1 with
    | .error e => _
    | .ok none => _
    | .ok (some i) => _ : Plan (Except InstallError Outcome)).run world _).1 = _
  rw [h]
  rfl

theorem run_reconcile_of_unread (config : Config) (version : Option String) {name : String}
    {e : ClusterError} (h : (world (.cluster (.readInstallation name)) s).1 = .error e) :
    ((reconcile config version name).run world s).1 = .error (.status name e) := by
  show ((match (world (.cluster (.readInstallation name)) s).1 with
    | .error e => _
    | .ok none => _
    | .ok (some i) => _ : Plan (Except InstallError Outcome)).run world _).1 = _
  rw [h]
  rfl

variable {resource name : String} {d : Bundle.Declaration}

/-- What the installer does about the declaration of a new kind that it does not find: the log and
the result, by the answer to the lookup. -/
inductive AfterLook (resource name : String) (d : Bundle.Declaration) :
    Except ClusterError (Option Object) → Log → Except InstallError Applied → Prop
  | failed (e : ClusterError) :
      AfterLook resource name d (.error e) [looked resource name (.error e)]
        (.error (.apply d.header.displayName e))
  | unreadable {e : ReadError} (hobject : d.object = .error e) :
      AfterLook resource name d (.ok none) [looked resource name (.ok none)] (.error (.parse e))
  | sent {object : Object} {answer : Except ClusterError Object} {rest : Log}
      {result : Except InstallError Applied} (hobject : d.object = .ok object)
      (hrest : ∀ x ∈ rest, IsNote x.1) :
      AfterLook resource name d (.ok none) (looked resource name (.ok none) ::
        sent (schemaCollection resource) none object answer :: rest) result

/-- **A new kind that is missing is created, provided that its declaration has an object.** -/
theorem afterLook_applySchema (hname : d.requireName = .ok name)
    (h : ∀ o, (world (.cluster (.get (schemaCollection resource) none name)) s).1 ≠ .ok (some o)) :
    AfterLook resource name d (world (.cluster (.get (schemaCollection resource) none name)) s).1
      ((applySchema resource d).transcript world s) ((applySchema resource d).run world s).1 := by
  obtain ⟨goOn, hplan, hfailed, hunreadable, hsent⟩ : ∃ goOn, applySchema resource d =
        askCluster (.get (schemaCollection resource) none name) >>= goOn ∧
      (∀ e, goOn (.error e) = done (.error (.apply d.header.displayName e))) ∧
      (∀ e, d.object = .error e → goOn (.ok none) = done (.error (.parse e))) ∧
      ∀ object, d.object = .ok object → ∃ next,
        goOn (.ok none) = askCluster (.create (schemaCollection resource) none object) >>= next ∧
        ∀ answer, (next answer).Asks IsNote := by
    unfold applySchema
    rw [hname]
    refine ⟨_, rfl, fun e => rfl, fun e hobject => ?_, fun object hobject => ?_⟩
    · dsimp only
      rw [hobject]
      rfl
    · dsimp only
      rw [hobject]
      refine ⟨_, rfl, fun answer => ?_⟩
      cases answer with
      | error e => trivial
      | ok created => exact ⟨⟨_, rfl⟩, fun _ => trivial⟩
  let looking := world (.cluster (.get (schemaCollection resource) none name)) s
  have hrun : (applySchema resource d).run world s = (goOn looking.1).run world looking.2 := by
    rw [hplan]
    rfl
  have hlog : (applySchema resource d).transcript world s =
      looked resource name looking.1 :: (goOn looking.1).transcript world looking.2 := by
    rw [hplan]
    rfl
  rw [hrun, hlog]
  show AfterLook resource name d looking.1 _ _
  cases hanswer : looking.1 with
  | error e =>
    rw [hfailed]
    exact .failed e
  | ok found =>
    cases found with
    | some o => exact absurd hanswer (h o)
    | none =>
      cases hobject : d.object with
      | error e =>
        rw [hunreadable e hobject]
        exact .unreadable hobject
      | ok object =>
        obtain ⟨next, hgoOn, hnext⟩ := hsent object hobject
        rw [hgoOn]
        exact .sent hobject ((hnext _).of_yields (yields_transcript world _ _))

end

/-! ## Lookups over a connection -/

/-- The world with a cluster behind a connection. -/
def connected {σ : Type} (world : (r : Request) → StateM σ (Answer r))
    (others : (c : Call) → StateM σ c.Answer) : (c : Call) → StateM σ c.Answer
  | .cluster c => (Client.answer c).run world
  | c => others c

/-- **What is missing is told by the reason of a failure alone.**  A failure gives one fault, and
every lookup that is answered with it goes by its reason: an object, and an installation.  An
installation of which the API says that it is missing is gone, and a new kind is created; any other
failure is an error of the attempt. -/
theorem absence_goes_by_reason {σ : Type} (world : (r : Request) → StateM σ (Answer r))
    (others : (c : Call) → StateM σ c.Answer) (s : σ) (config : Config) (version : Option String)
    {response : Response} (hfail : isFailure response.status = true) :
    ∃ fault, Client.textOf response = .error fault ∧
      (∀ (place : Collection) (space : Option String) (name : String) (target : Target),
        name ≠ "" → Target.read (place.path space ++ "/" ++ name) = .ok target →
        (world (Client.getRequest target) s).1 = .ok response →
        Client.GoesByReason response fault
          ((Client.answer (.get place space name)).run world s).1) ∧
      (∀ (name : String) (target : Target), name ≠ "" →
        Target.read (Installation.collectionPath ++ "/" ++ name) = .ok target →
        (world (Client.getRequest target) s).1 = .ok response →
        let result := ((reconcile config version name).run (connected world others) s).1
        Client.GoesByReason response fault
          ((Client.answer (.readInstallation name)).run world s).1 ∧
        (Client.SaysMissing fault → result = .ok .gone) ∧
        (¬Client.SaysMissing fault → result = .error (.status name (.client fault)))) ∧
      ∀ (resource name : String) (d : Bundle.Declaration) (target : Target),
        d.requireName = .ok name → name ≠ "" →
        Target.read ((schemaCollection resource).path none ++ "/" ++ name) = .ok target →
        (world (Client.getRequest target) s).1 = .ok response →
        let world' := connected world others
        ∃ answer, AfterLook resource name d answer ((applySchema resource d).transcript world' s)
            ((applySchema resource d).run world' s).1 ∧
          (Client.SaysMissing fault → answer = .ok none) ∧
          (¬Client.SaysMissing fault → answer = .error (.client fault)) := by
  obtain ⟨fault, hfault, hrefused⟩ := Client.exists_fault hfail
  have hget : ∀ (place : Collection) (space : Option String) (name : String) (target : Target),
      name ≠ "" → Target.read (place.path space ++ "/" ++ name) = .ok target →
      (world (Client.getRequest target) s).1 = .ok response →
      ((Client.answer (.get place space name)).run world s).1 = Client.lookup (.error fault) := by
    intro place space name target hname htarget hresponse
    rw [Client.answer, Client.run_toAnswer_find Object.read world s hname htarget, hresponse,
      Client.outcome_of_fault Object.read hfault]
  refine ⟨fault, hfault, ?_, ?_, ?_⟩
  · intro place space name target hname htarget hresponse
    rw [hget place space name target hname htarget hresponse]
    exact Client.goesByReason_lookup hrefused
  · intro name target hname htarget hresponse result
    have hread : ((Client.answer (.readInstallation name)).run world s).1 =
        Client.lookup (.error fault) := by
      rw [Client.answer, Client.run_toAnswer_find Installation.read world s hname htarget,
        hresponse, Client.outcome_of_fault Installation.read hfault]
    refine ⟨?_, fun hsays => ?_, fun hsays => ?_⟩
    · rw [hread]
      exact Client.goesByReason_lookup hrefused
    · exact run_reconcile_of_absent config version
        (hread.trans (Client.lookup_of_saysMissing hsays))
    · exact run_reconcile_of_unread config version
        (hread.trans (Client.lookup_of_not_saysMissing hsays))
  · intro resource name d target hrequire hname htarget hresponse world'
    have hlook := hget (schemaCollection resource) none name target hname htarget hresponse
    have hnothing : ∀ o, (Client.lookup (.error fault) : Except ClusterError (Option Object)) ≠
        .ok (some o) := by
      intro o
      by_cases hsays : Client.SaysMissing fault
      · rw [Client.lookup_of_saysMissing hsays]
        exact nofun
      · rw [Client.lookup_of_not_saysMissing hsays]
        exact nofun
    refine ⟨_, afterLook_applySchema hrequire fun o h => hnothing o (hlook.symm.trans h),
      fun hsays => hlook.trans (Client.lookup_of_saysMissing hsays),
      fun hsays => hlook.trans (Client.lookup_of_not_saysMissing hsays)⟩

/-- A refusal that has the reason for something missing, but the code for something gone. -/
def vanished : Response :=
  ⟨410, Text.Utf8.ofString "\x7b\"status\":\"Failure\",\"reason\":\"NotFound\",\"code\":410\x7d"⟩

theorem absence_goes_by_reason_vanished :
    let world : (r : Request) → StateM Rehearsal (Answer r) := fun _ => pure (.ok vanished)
    let r := Rehearsal.start .empty .ok
    ((Client.answer (.get (schemaCollection "crds") none "b")).run world r).1 = .ok none ∧
      ((reconcile .standard none "demo").run (connected world Rehearsal.handle) r).1 =
        .ok .gone := by
  intro world r
  have hfault : Client.textOf vanished = .error (.refused ⟨"Failure", "", "NotFound", 410⟩) := by
    decide +kernel
  obtain ⟨fault, htext, hget, hread, -⟩ := absence_goes_by_reason world Rehearsal.handle r .standard
    none (show isFailure vanished.status = true from rfl)
  cases htext.symm.trans hfault
  have hsays : Client.SaysMissing (.refused ⟨"Failure", "", "NotFound", 410⟩) := ⟨_, rfl, rfl⟩
  have hb := hget (schemaCollection "crds") none "b"
    ⟨"/apis/apiextensions.k8s.io/v1/crds/b", none⟩ (by decide) (by decide +kernel) rfl
  have hdemo := hread "demo" ⟨"/apis/stevedore.io/v1alpha1/installations/demo", none⟩ (by decide)
    (by decide +kernel) rfl
  exact ⟨hb.absent_iff.mpr hsays, hdemo.2.1 hsays⟩

/-- What a server says of a path that it does not know. -/
def unregistered : Response := ⟨404, Text.Utf8.ofString "404 page not found\n"⟩

/-- Not every error that counts as one of something missing is read as nothing. -/
theorem absence_not_by_code :
    let world : (r : Request) → StateM Unit (Answer r) := fun _ => pure (.ok unregistered)
    let answer := ((Client.answer (.readInstallation "demo")).run world ()).1
    ∃ e, answer = .error e ∧ e.isNotFound = true := by
  intro world answer
  let refusal : Refusal :=
    ⟨"404 Not Found", Text.quoted "404 page not found\n", Refusal.unreadable, 404⟩
  have hfault : Client.textOf unregistered = .error (.refused refusal) := by decide +kernel
  have htarget : Target.read (Installation.collectionPath ++ "/" ++ "demo") =
      .ok ⟨"/apis/stevedore.io/v1alpha1/installations/demo", none⟩ := by decide +kernel
  have hanswer : answer = Client.lookup (.error (.refused refusal)) := by
    show ((Client.answer (.readInstallation "demo")).run world ()).1 = _
    rw [Client.answer, Client.run_toAnswer_find Installation.read _ () (by decide) htarget]
    show Client.lookup (Client.outcome Installation.read (.ok unregistered)) = _
    rw [Client.outcome_of_fault Installation.read hfault]
  have hsays : ¬Client.SaysMissing (.refused refusal) := by
    rintro ⟨other, hother, hreason⟩
    cases hother
    exact absurd hreason (by decide)
  exact ⟨.client (.refused refusal), hanswer.trans (Client.lookup_of_not_saysMissing hsays), rfl⟩

end Install
end BundleInstaller
