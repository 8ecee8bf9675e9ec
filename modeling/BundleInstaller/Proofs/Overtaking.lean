import BundleInstaller.Proofs.Creations
import BundleInstaller.Proofs.Entry

/-!
# Attempts that are overtaken

A definition is looked for and then created, in two calls.  Between them another attempt may create
it, and then the attempt that looked first fails although the object is there.  That is the only way
in which an attempt fails because something exists already.

* `raced_attempt`: where an attempt that fails in this way made its last two calls.
* `unmissed_attempt`: an attempt that does not fail has no such two calls.
* `alreadyExists_overtaken`: between the two, another attempt created the same definition.
-/

namespace BundleInstaller

open BundleInstaller.Bundle Cluster Install Program

/-! ## Answers -/

namespace Cluster.Memory

theorem Answers.exists_gives {m : Memory} {log : Log}
    {x : Answered Install.Call Install.Call.Answer} (h : m.Answers log) (hx : x ∈ log) :
    ∃ m' : Memory, m'.Gives x := by
  obtain ⟨before, after, rfl⟩ := List.append_of_mem hx
  exact ⟨_, (answers_append.mp h).2.1⟩

/-- A look never fails because something exists already. -/
theorem get_error {m : Memory} {place : Collection} {space : Option String} {name : String}
    {cause : ClusterError} (h : (m.get place space name).1 = .error cause) :
    ¬cause.isAlreadyExists := by
  unfold get at h
  dsimp only at h
  split at h
  · cases h
    exact Bool.false_ne_true
  · cases h

/-- A creation fails because something exists already just if there is an object under the key. -/
theorem lookup_of_alreadyExists {m : Memory} {place : Collection} {space : Option String}
    {o : Object} {name : String} {cause : ClusterError} (hname : o.metadata.name? = some name)
    (h : (m.create place space o).1 = .error cause) (hcause : cause.isAlreadyExists) :
    (m.objects.lookup (Key.ofCollection place space name)).isSome := by
  rcases create_cases m place space o with ⟨e, he, -, hpresent⟩ | ⟨_, -, -, hok, -⟩
  · cases h.symm.trans he
    obtain ⟨name', hname', hobject⟩ := hpresent hcause
    cases hname.symm.trans hname'
    exact hobject
  · cases h.symm.trans hok

end Cluster.Memory

namespace Install

/-! ## Failing because of something that exists -/

/-- Whether a definition was looked for in vain and then could not be created, or the look failed.
-/
inductive Raced (log : Log) (cause : ClusterError) : Prop
  | unseen (resource name : String) (h : looked resource name (.error cause) ∈ log)
  | late {before after : Log} {resource name : String} {o : Object}
      (hname : o.metadata.name? = some name)
      (h : log = before ++ looked resource name (.ok none) ::
        sent (schemaCollection resource) none o (.error cause) :: after)

namespace Raced

variable {log : Log} {cause : ClusterError}

theorem wrap (h : Raced log cause) (l₁ l₂ : Log) : Raced (l₁ ++ log ++ l₂) cause := by
  cases h with
  | unseen resource name h =>
    exact .unseen resource name (List.mem_append_left _ (List.mem_append_right _ h))
  | @late before after resource name o hname h =>
    have hwrapped : l₁ ++ log ++ l₂ = (l₁ ++ before) ++ looked resource name (.ok none) ::
        sent (schemaCollection resource) none o (.error cause) :: (after ++ l₂) := by
      rw [h]
      simp only [List.append_assoc, List.cons_append]
    exact .late hname hwrapped

theorem append_right (h : Raced log cause) (l₁ : Log) : Raced (l₁ ++ log) cause := by
  have hwrap := h.wrap l₁ []
  rwa [List.append_nil] at hwrap

end Raced

section Local

variable {log : Log} {resource : String} {cause : ClusterError}

theorem raced_document {catalog : Catalog} {document : Document}
    (h : (applyDocument catalog document).Yields log (.error (.apply resource cause)))
    (hcause : cause.isAlreadyExists) : Raced log cause := by
  rcases applying_document h with ⟨-, e, he⟩ | ⟨d, e, inner, applied, hparse, rfl, happlying, he⟩
  · cases he
  suffices hinner : Raced inner cause from hinner.append_right [noted e]
  cases happlying with
  | unfit hlog hfit =>
    cases he
    exact absurd rfl (hfit _ _)
  | unseen _ name cause =>
    cases he
    exact .unseen _ name List.mem_cons_self
  | undefined cause hname hobject =>
    cases he
    exact .late ((identity_of_object hparse hobject).1.trans hname) (List.nil_append _).symm
  | refused place space o cause e hnot =>
    cases he
    exact absurd hcause hnot
  | _ => cases he

theorem raced_documents {catalog : Catalog} {documents : List Document} {p p' : Progress}
    (h : (applyDocuments catalog p documents).Yields log (p', some (.apply resource cause)))
    (hcause : cause.isAlreadyExists) : Raced log cause := by
  induction documents generalizing p log with
  | nil => cases (yields_done_iff.mp h).2
  | cons document rest ih =>
    obtain ⟨e, before, after, result, rfl, hdocument, hafter⟩ := yields_applyDocuments_cons h
    cases result with
    | error cause =>
      obtain ⟨rfl, hend⟩ := hafter
      cases hend
      exact (raced_document hdocument hcause).wrap [noted e] []
    | ok named => exact (ih hafter).append_right (noted e :: before)

/-- **An attempt that fails because something exists already** had looked for a definition. -/
theorem raced_attempt {config : Config} {i : Installation} {report : Report}
    (hkind : i.spec.kind = .rawBundle) (h : (attempt config i).Yields log report)
    (herror : report.error? = some (.apply resource cause)) (hcause : cause.isAlreadyExists) :
    Raced log cause := by
  obtain ⟨p, error?, hpassage, rfl⟩ := attempt_passage hkind h
  cases hpassage with
  | early hlog hsummary he => exact absurd herror (he _ _)
  | @through before pass after _ _ _ hlog hbefore hafter hpass =>
    cases herror
    rw [hlog]
    exact (raced_documents hpass hcause).wrap before after

end Local

/-! ## Misses -/

/-- Whether a definition is looked for in vain and then cannot be created. -/
def IsMiss (cause : ClusterError) (x y : Answered Call Call.Answer) : Prop :=
  ∃ resource name o, x = looked resource name (.ok none) ∧
    y = sent (schemaCollection resource) none o (.error cause)

/-- Whether a log has no miss, even where it goes on after another one. -/
def Unmissed (cause : ClusterError) (log : Log) : Prop :=
  ∀ earlier : Log, earlier.IsChain (fun x y => ¬IsMiss cause x y) →
    (earlier ++ log).IsChain fun x y => ¬IsMiss cause x y

section Misses

variable {log l₁ l₂ : Log} {cause : ClusterError}

namespace Unmissed

theorem isChain (h : Unmissed cause log) : log.IsChain fun x y => ¬IsMiss cause x y := h [] .nil

theorem nil : Unmissed cause [] := fun earlier h => (List.append_nil earlier).symm ▸ h

theorem append (h₁ : Unmissed cause l₁) (h₂ : Unmissed cause l₂) : Unmissed cause (l₁ ++ l₂) :=
  fun earlier h => List.append_assoc earlier l₁ l₂ ▸ h₂ _ (h₁ earlier h)

theorem cons {x : Answered Call Call.Answer} (hx : IsFraming x.1)
    (h : log.IsChain fun x y => ¬IsMiss cause x y) : Unmissed cause (x :: log) := by
  refine fun earlier hearlier => hearlier.append (List.isChain_cons.mpr ⟨?_, h⟩) ?_
  · rintro y - ⟨_, _, _, rfl, -⟩
    exact hx
  · rintro y - z hz ⟨_, _, _, -, rfl⟩
    cases Option.some.inj hz
    exact hx

theorem of_framing (h : ∀ x ∈ log, IsFraming x.1) : Unmissed cause log := by
  induction log with
  | nil => exact nil
  | cons x log ih =>
    exact cons (h x List.mem_cons_self) (ih fun y hy => h y (List.mem_cons_of_mem _ hy)).isChain

end Unmissed

/-- Only a declaration that cannot be created after it was looked for has a miss. -/
theorem Applying.isChain {d : Declaration} {result : Except InstallError Applied}
    (h : Applying d log result) (hne : ∀ resource, result ≠ .error (.apply resource cause)) :
    log.IsChain fun x y => ¬IsMiss cause x y := by
  cases h with
  | unfit hlog he => rcases hlog with rfl | ⟨resource, name, rfl⟩ <;> simp
  | undefined cause' hname hobject =>
    have hcause : cause' ≠ cause := by
      rintro rfl
      exact hne _ rfl
    simp [IsMiss, hcause]
  | _ => simp [IsMiss]

theorem unmissed_document {catalog : Catalog} {document : Document}
    {result : Except InstallError (String × Applied)}
    (h : (applyDocument catalog document).Yields log result)
    (hne : ∀ resource, result ≠ .error (.apply resource cause)) : Unmissed cause log := by
  rcases applying_document h with ⟨rfl, -⟩ | ⟨d, e, inner, applied, -, rfl, happlying, rfl⟩
  · exact .nil
  · refine .cons trivial (happlying.isChain fun resource hresource => hne resource ?_)
    rw [hresource]
    rfl

theorem unmissed_documents {catalog : Catalog} {documents : List Document} {p p' : Progress}
    {error? : Option InstallError}
    (h : (applyDocuments catalog p documents).Yields log (p', error?))
    (hne : ∀ resource, error? ≠ some (.apply resource cause)) : Unmissed cause log := by
  induction documents generalizing p log with
  | nil =>
    obtain ⟨rfl, -⟩ := yields_done_iff.mp h
    exact .nil
  | cons document rest ih =>
    obtain ⟨e, before, after, result, rfl, hdocument, hafter⟩ := yields_applyDocuments_cons h
    have hnoted : Unmissed cause [noted e] := .cons trivial .nil
    refine hnoted.append ?_
    cases result with
    | error e =>
      obtain ⟨rfl, hend⟩ := hafter
      cases hend
      refine (unmissed_document hdocument fun resource he => ?_).append .nil
      exact hne resource (congrArg some (Except.error.inj he))
    | ok named => exact (unmissed_document hdocument fun _ => nofun).append (ih hafter)

/-- **A log with a miss is one of an attempt that fails.** -/
theorem unmissed_attempt {config : Config} {i : Installation} {report : Report}
    (hkind : i.spec.kind = .rawBundle) (h : (attempt config i).Yields log report)
    (hne : ∀ resource, report.error? ≠ some (.apply resource cause)) : Unmissed cause log := by
  obtain ⟨p, error?, hpassage, rfl⟩ := attempt_passage hkind h
  cases hpassage with
  | early hlog hsummary he => exact .of_framing hlog
  | @through before pass after _ _ _ hlog hbefore hafter hpass =>
    rw [hlog]
    exact ((Unmissed.of_framing hbefore).append (unmissed_documents hpass hne)).append
      (.of_framing hafter)

end Misses

/-! ## Being overtaken -/

section SideBySide

variable {ι : Type} [DecidableEq ι]

/-- Whether someone looked for a definition in vain and could not create it with the next call,
while another one created it between the two calls. -/
def Overtaken (k : ι) (cause : ClusterError) (log : SharedLog ι) : Prop :=
  ∃ (before between after : SharedLog ι) (resource name : String) (o : Object),
    log = before ++ (k, looked resource name (.ok none)) ::
      (between ++ (k, sent (schemaCollection resource) none o (.error cause)) :: after) ∧
    between.of k = [] ∧ o.metadata.name? = some name ∧
    ∃ j x o', (j, x) ∈ between ∧ j ≠ k ∧ creation? x = some (schemaKey resource name, o')

theorem SharedLog.mem_of {k j : ι} {log : SharedLog ι} {x : Answered Call Call.Answer}
    (hx : (j, x) ∈ log) (hj : j = k) : x ∈ log.of k := by
  subst hj
  exact List.mem_map.mpr ⟨(j, x), List.mem_filter.mpr ⟨hx, decide_eq_true rfl⟩, rfl⟩

/-- What exists where nothing was found was created meanwhile. -/
theorem overtaken_of_raced {k : ι} {cause : ClusterError} {log : SharedLog ι} {m : Memory}
    (hanswers : m.Answers log.calls) (hcause : cause.isAlreadyExists)
    (h : Raced (log.of k) cause) : Overtaken k cause log := by
  cases h with
  | unseen resource name h =>
    obtain ⟨x, hx, hcall⟩ := List.mem_map.mp h
    have hmem : looked resource name (.error cause) ∈ log.calls :=
      List.mem_map.mpr ⟨x, (List.mem_filter.mp hx).1, hcall⟩
    obtain ⟨m', hgives⟩ := hanswers.exists_gives hmem
    exact absurd hcause (Memory.get_error (Eq.symm hgives))
  | @late before after resource name o hname h =>
    obtain ⟨b, rest, rfl, hb, hrest⟩ := SharedLog.split_of h
    rw [← List.nil_append (sent _ _ _ _ :: after)] at hrest
    obtain ⟨between, a, rfl, hbetween, ha⟩ := SharedLog.split_of hrest
    refine ⟨b, between, a, resource, name, o, rfl, hbetween, hname, ?_⟩
    simp only [SharedLog.calls_append, SharedLog.calls_cons, Memory.answers_append,
      Memory.Answers] at hanswers
    obtain ⟨-, hlook, hcalls, hsend, -⟩ := hanswers
    have hfree := (Memory.get_ok_iff.mp (Eq.symm hlook)).2
    have hpresent := Memory.lookup_of_alreadyExists hname (Eq.symm hsend) hcause
    rw [← Memory.objects_answer (c := .get (schemaCollection resource) none name)
      fun _ _ _ h => by cases h] at hfree
    obtain ⟨o', ho'⟩ := (Memory.created_through hcalls).of_lookup hfree hpresent
    obtain ⟨x, hx, hcreation⟩ := List.mem_filterMap.mp ho'
    obtain ⟨⟨j, y⟩, hy, rfl⟩ := List.mem_map.mp hx
    refine ⟨j, y, o', hy, fun hj => ?_, hcreation⟩
    have hmem := SharedLog.mem_of hy hj
    rw [hbetween] at hmem
    exact List.not_mem_nil hmem

theorem Overtaken.isMiss {k : ι} {cause : ClusterError} {log : SharedLog ι}
    (h : Overtaken k cause log) :
    ∃ before after x y, log.of k = before ++ x :: y :: after ∧ IsMiss cause x y := by
  obtain ⟨before, between, after, resource, name, o, rfl, hbetween, -, -⟩ := h
  refine ⟨before.of k, after.of k, _, _, ?_, resource, name, o, rfl, rfl⟩
  rw [SharedLog.of_append, SharedLog.of_cons_self, SharedLog.of_append, SharedLog.of_cons_self,
    hbetween, List.nil_append]

/-- **An attempt fails because something exists already just if it is overtaken**: it looked for a
definition, another attempt created it, and only then came its own creation.  No other object makes
an attempt fail in this way. -/
theorem alreadyExists_overtaken {configs : ι → Config} {installations : ι → Installation}
    {m : Memory} {turns : List (Turn ι)} {k : ι} {report : Report} {cause : ClusterError}
    (hkind : (installations k).spec.kind = .rawBundle)
    (hdone : ((attempts configs installations m).play turns).result? k = some report)
    (hcause : cause.isAlreadyExists) :
    (∃ resource, report.error? = some (.apply resource cause)) ↔
      Overtaken k cause ((attempts configs installations m).log turns) := by
  have hown := Ensemble.yields_of_result? hdone
  constructor
  · rintro ⟨resource, herror⟩
    exact overtaken_of_raced ((attempts configs installations m).answers_play turns) hcause
      (raced_attempt hkind hown herror hcause)
  · intro hovertaken
    obtain ⟨before, after, x, y, hlog, hmiss⟩ := hovertaken.isMiss
    by_contra hne
    have hchain := (unmissed_attempt hkind hown (not_exists.mp hne)).isChain
    rw [hlog] at hchain
    exact (List.isChain_append_cons_cons.mp hchain).2.1 hmiss

end SideBySide

/-! ## An attempt that fails though its bundle is there -/

/-- A bundle with one definition. -/
def definitionBundle : Bytes :=
  Text.Utf8.ofString ("apiVersion: apiextensions.k8s.io/v1\nkind: CustomResourceDefinition\n" ++
    "metadata: {name: b}\n")

/-- Two attempts with one bundle in an empty cluster. -/
def rivals : Ensemble Bool Report :=
  attempts (fun _ => .standard) (fun _ => Installation.new "demo" "http://[::1]/b" .rawBundle)
    .empty

/-- The first one looks, the second one installs its bundle, and the first one goes on. -/
def overtakingTurns : List (Turn Bool) :=
  turnsOf false definitionBundle 7 ++ turnsOf true definitionBundle 10 ++
    turnsOf false definitionBundle 3

theorem result_rivals : (rivals.play overtakingTurns).result? false = some ⟨some 1, .failed 1,
    some (.apply "CustomResourceDefinition/b" (.alreadyExists "CustomResourceDefinition/b")),
    .empty⟩ := by decide +kernel

theorem alreadyExists_overtaken_rivals :
    Overtaken false (.alreadyExists "CustomResourceDefinition/b") (rivals.log overtakingTurns) :=
  (alreadyExists_overtaken rfl result_rivals rfl).mp ⟨_, rfl⟩

/-- **A definition that another attempt created first makes an attempt fail**, in a cluster that is
told of no failure. -/
theorem overtaken_fails : Memory.empty.IsQuiet ∧
    ∃ report resource cause, (rivals.play overtakingTurns).result? false = some report ∧
      report.error? = some (.apply resource cause) ∧ cause.isAlreadyExists :=
  ⟨⟨fun _ => rfl, fun _ => rfl, rfl⟩, _, _, _, result_rivals, rfl, rfl⟩

end Install
end BundleInstaller
