import BundleInstaller.Proofs.Accounting

/-!
# How an attempt passes over documents

An attempt with a bundle of documents makes a few calls that frame its pass, and the pass is made of
what each document asks for.  Both are read off the logs of the programs, whatever they were
answered.

* `Applying`: what applying a declaration asks for, by how it ends.
* `applying_document`: a document is no declaration, or its declaration is applied.
* `attempt_passage`: an attempt passes over the documents of its bundle, or it asks for no object.
-/

namespace BundleInstaller.Install

open BundleInstaller.Bundle Cluster Program

/-! ## Declarations -/

abbrev looked (resource name : String) (answer : Except ClusterError (Option Object)) :
    Answered Call Call.Answer :=
  ⟨.cluster (.get (schemaCollection resource) none name), answer⟩

abbrev sent (place : Collection) (space : Option String) (o : Object)
    (answer : Except ClusterError Object) : Answered Call Call.Answer :=
  ⟨.cluster (.create place space o), answer⟩

abbrev noted (e : Event) : Answered Call Call.Answer := ⟨.note e, ()⟩

/-- What applying a declaration asks for, by how it ends. -/
inductive Applying (d : Declaration) : Log → Except InstallError Applied → Prop
  /-- The declaration is no good, or of a kind that is not served. -/
  | unfit {log : Log} {e : InstallError}
      (hlog : log = [] ∨ ∃ resource name, log = [looked resource name (.ok none)])
      (he : ∀ resource cause, e ≠ .apply resource cause) : Applying d log (.error e)
  | unseen (resource name : String) (cause : ClusterError) :
      Applying d [looked resource name (.error cause)] (.error (.apply d.header.displayName cause))
  | untouched (resource name : String) (o : Object) (e : Event) :
      Applying d [looked resource name (.ok (some o)), noted e] (.ok .untouched)
  /-- A definition is sent because none was found. -/
  | defined {resource name : String} {o created : Object} (e : Event)
      (hname : d.header.name? = some name) (hobject : d.object = .ok o) :
      Applying d [looked resource name (.ok none),
        sent (schemaCollection resource) none o (.ok created), noted e] (.ok .created)
  | undefined {resource name : String} {o : Object} (cause : ClusterError)
      (hname : d.header.name? = some name) (hobject : d.object = .ok o) :
      Applying d [looked resource name (.ok none),
        sent (schemaCollection resource) none o (.error cause)]
        (.error (.apply d.header.displayName cause))
  /-- Any other object is sent without a look. -/
  | created (place : Collection) (space : Option String) (o created : Object) (e e' : Event) :
      Applying d [noted e, sent place space o (.ok created), noted e'] (.ok .created)
  | alreadyThere (place : Collection) (space : Option String) (o : Object) (cause : ClusterError)
      (e e' : Event) (hcause : cause.isAlreadyExists) :
      Applying d [noted e, sent place space o (.error cause), noted e'] (.ok .alreadyThere)
  | refused (place : Collection) (space : Option String) (o : Object) (cause : ClusterError)
      (e : Event) (hcause : ¬cause.isAlreadyExists) :
      Applying d [noted e, sent place space o (.error cause)]
        (.error (.apply d.header.displayName cause))

theorem applying_schema {resource : String} {d : Declaration} {log : Log}
    {result : Except InstallError Applied} (h : (applySchema resource d).Yields log result) :
    Applying d log result := by
  unfold applySchema Declaration.requireName at h
  cases hname : d.header.name? with
  | none =>
    rw [hname] at h
    obtain ⟨rfl, rfl⟩ := yields_done_iff.mp h
    exact .unfit (.inl rfl) fun _ _ he => by cases he
  | some name =>
    rw [hname] at h
    obtain ⟨answer, rest, rfl, hrest⟩ := yields_call_bind_iff.mp h
    rcases answer with cause | _ | o
    · obtain ⟨rfl, rfl⟩ := yields_done_iff.mp hrest
      exact .unseen resource name cause
    · cases hobject : d.object with
      | error e =>
        rw [hobject] at hrest
        obtain ⟨rfl, rfl⟩ := yields_done_iff.mp hrest
        exact .unfit (.inr ⟨resource, name, rfl⟩) fun _ _ he => by cases he
      | ok o =>
        rw [hobject] at hrest
        obtain ⟨answer, rest, rfl, hsent⟩ := yields_call_bind_iff.mp hrest
        cases answer with
        | error cause =>
          obtain ⟨rfl, rfl⟩ := yields_done_iff.mp hsent
          exact .undefined cause hname hobject
        | ok created =>
          obtain ⟨_, rest, rfl, hnoted⟩ := yields_call_bind_iff.mp hsent
          obtain ⟨rfl, rfl⟩ := yields_done_iff.mp hnoted
          exact .defined _ hname hobject
    · obtain ⟨_, rest, rfl, hnoted⟩ := yields_call_bind_iff.mp hrest
      obtain ⟨rfl, rfl⟩ := yields_done_iff.mp hnoted
      exact .untouched resource name o _

theorem applying_generic {catalog : Catalog} {d : Declaration} {log : Log}
    {result : Except InstallError Applied} (h : (applyGeneric catalog d).Yields log result) :
    Applying d log result := by
  unfold applyGeneric at h
  dsimp only at h
  cases hobject : d.object with
  | error e =>
    rw [hobject] at h
    obtain ⟨rfl, rfl⟩ := yields_done_iff.mp h
    exact .unfit (.inl rfl) fun _ _ he => by cases he
  | ok o =>
    rw [hobject] at h
    dsimp only at h
    cases hfind : catalog.find? d.header.group d.header.kind d.header.version with
    | none =>
      rw [hfind] at h
      obtain ⟨rfl, rfl⟩ := yields_done_iff.mp h
      exact .unfit (.inl rfl) fun _ _ he => by cases he
    | some place =>
      rw [hfind] at h
      obtain ⟨_, sending, rfl, hsending⟩ := yields_call_bind_iff.mp h
      obtain ⟨answer, rest, rfl, hrest⟩ := yields_call_bind_iff.mp hsending
      cases answer with
      | ok created =>
        obtain ⟨_, rest, rfl, hnoted⟩ := yields_call_bind_iff.mp hrest
        obtain ⟨rfl, rfl⟩ := yields_done_iff.mp hnoted
        exact .created place _ o created _ _
      | error cause =>
        change (if cause.isAlreadyExists then _ else _ : Plan _).Yields _ _ at hrest
        split at hrest
        · rename_i hcause
          obtain ⟨_, rest, rfl, hnoted⟩ := yields_call_bind_iff.mp hrest
          obtain ⟨rfl, rfl⟩ := yields_done_iff.mp hnoted
          exact .alreadyThere place _ o cause _ _ hcause
        · rename_i hcause
          obtain ⟨rfl, rfl⟩ := yields_done_iff.mp hrest
          exact .refused place _ o cause _ hcause

/-- **A document is no declaration, or its declaration is applied.** -/
theorem applying_document {catalog : Catalog} {document : Document} {log : Log}
    {result : Except InstallError (String × Applied)}
    (h : (applyDocument catalog document).Yields log result) :
    (log = [] ∧ ∃ e, result = .error (.parse e)) ∨
      ∃ (d : Declaration) (e : Event) (rest : Log) (applied : Except InstallError Applied),
        Declaration.parse document = .ok d ∧ log = noted e :: rest ∧ Applying d rest applied ∧
          result = applied.map (d.header.displayName, ·) := by
  unfold applyDocument at h
  cases hparse : Declaration.parse document with
  | error e =>
    rw [hparse] at h
    obtain ⟨rfl, rfl⟩ := yields_done_iff.mp h
    exact .inl ⟨rfl, e, rfl⟩
  | ok d =>
    rw [hparse] at h
    obtain ⟨_, rest, rfl, hrest⟩ := yields_call_bind_iff.mp h
    obtain ⟨before, applied, after, rfl, happly, hafter⟩ := yields_bind_iff.mp hrest
    have happlying : Applying d before applied := by
      unfold applyDeclaration at happly
      split at happly
      · exact applying_schema happly
      · exact applying_generic happly
    have hend : after = [] ∧ result = applied.map (d.header.displayName, ·) := by
      cases applied <;> exact yields_done_iff.mp hafter
    obtain ⟨rfl, rfl⟩ := hend
    rw [List.append_nil]
    exact .inr ⟨d, _, before, applied, rfl, rfl, happlying, rfl⟩

/-! ## Attempts -/

/-- The log of a pass over documents falls into the log of the first one and that of the rest. -/
theorem yields_applyDocuments_cons {catalog : Catalog} {document : Document}
    {rest : List Document} {p : Progress} {log : Log} {x : Progress × Option InstallError}
    (h : (applyDocuments catalog p (document :: rest)).Yields log x) :
    ∃ (e : Event) (before after : Log) (result : Except InstallError (String × Applied)),
      log = noted e :: (before ++ after) ∧ (applyDocument catalog document).Yields before result ∧
        match result with
        | .error e => after = [] ∧ x = ({ p with phase := .applying document.index }, some e)
        | .ok (name, applied) => (applyDocuments catalog
            ({ p with phase := .applying document.index }.record name applied) rest).Yields
              after x := by
  unfold applyDocuments at h
  obtain ⟨_, inner, rfl, hinner⟩ := yields_call_bind_iff.mp h
  obtain ⟨before, result, after, rfl, hdocument, hafter⟩ := yields_bind_iff.mp hinner
  refine ⟨_, before, after, result, rfl, hdocument, ?_⟩
  cases result with
  | error e => exact yields_done_iff.mp hafter
  | ok named => exact hafter

/-- Whether an attempt makes a call around its pass over the documents. -/
def IsFraming : Call → Prop
  | .fetch _ | .note _ | .cluster .discover => True
  | _ => False

/-- How an attempt with a bundle of documents comes to its end. -/
inductive Passage (log : Log) (p : Progress) (error? : Option InstallError) : Prop
  | early (hlog : ∀ x ∈ log, IsFraming x.1) (hsummary : p.summary = .empty)
      (he : ∀ resource cause, error? ≠ some (.apply resource cause))
  | through {before pass after : Log} {catalog : Catalog} {documents : List Document}
      {total : Nat} (hlog : log = before ++ pass ++ after) (hbefore : ∀ x ∈ before, IsFraming x.1)
      (hafter : ∀ x ∈ after, IsFraming x.1)
      (hpass : (applyDocuments catalog ⟨.splitting, some total, .empty⟩ documents).Yields pass
        (p, error?))

theorem isFraming_nil : ∀ x ∈ ([] : Log), IsFraming x.1 := fun _ hx => absurd hx List.not_mem_nil

/-- Framing calls before and after change nothing. -/
theorem Passage.wrap {log l₁ l₂ : Log} {p : Progress} {error? : Option InstallError}
    (h : Passage log p error?) (h₁ : ∀ x ∈ l₁, IsFraming x.1) (h₂ : ∀ x ∈ l₂, IsFraming x.1) :
    Passage (l₁ ++ log ++ l₂) p error? := by
  cases h with
  | early hlog hsummary he =>
    refine .early (fun x hx => ?_) hsummary he
    rcases List.mem_append.mp hx with hx | hx
    · exact (List.mem_append.mp hx).elim (h₁ x) (hlog x)
    · exact h₂ x hx
  | @through before pass after _ _ _ hlog hbefore hafter hpass =>
    have hwrapped : l₁ ++ log ++ l₂ = (l₁ ++ before) ++ pass ++ (after ++ l₂) := by
      rw [hlog]
      simp only [List.append_assoc]
    refine .through hwrapped (fun x hx => ?_) (fun x hx => ?_) hpass
    · exact (List.mem_append.mp hx).elim (h₁ x) (hbefore x)
    · exact (List.mem_append.mp hx).elim (hafter x) (h₂ x)

theorem passage_installDocuments {bundle : Bytes} {log : Log} {p : Progress}
    {error? : Option InstallError} {phase : Phase}
    (h : (installDocuments bundle ⟨phase, none, .empty⟩).Yields log (p, error?)) :
    Passage log p error? := by
  unfold installDocuments at h
  obtain ⟨_, split, rfl, hsplit⟩ := yields_call_bind_iff.mp h
  dsimp only at hsplit
  cases hdocuments : splitDocuments bundle with
  | error e =>
    rw [hdocuments] at hsplit
    obtain ⟨rfl, hend⟩ := yields_done_iff.mp hsplit
    cases hend
    exact .early (by simp [IsFraming]) rfl (by simp)
  | ok documents =>
    rw [hdocuments] at hsplit
    obtain ⟨answer, rest, rfl, hrest⟩ := yields_call_bind_iff.mp hsplit
    cases answer with
    | error e =>
      obtain ⟨rfl, hend⟩ := yields_done_iff.mp hrest
      cases hend
      exact .early (by simp [IsFraming]) rfl (by simp)
    | ok catalog =>
      have hlog : ∀ x y : Answered Call Call.Answer, x :: y :: rest = [x, y] ++ rest ++ [] :=
        fun _ _ => (List.append_nil _).symm
      exact .through (hlog _ _) (by simp [IsFraming]) isFraming_nil hrest

theorem ofFetch_ne_apply (e : FetchError) (resource : String) (cause : ClusterError) :
    InstallError.ofFetch e ≠ .apply resource cause := by
  unfold InstallError.ofFetch
  split <;> exact fun h => by cases h

/-- **An attempt with a bundle of documents passes over them, or it asks for no object.** -/
theorem attempt_passage {config : Config} {i : Installation} {log : Log} {report : Report}
    (hkind : i.spec.kind = .rawBundle) (h : (attempt config i).Yields log report) :
    ∃ p error?, Passage log p error? ∧ report = p.finish error? := by
  unfold attempt attemptSteps fetchAndInstall fetchBundle at h
  rw [hkind] at h
  obtain ⟨steps, ⟨p, error?⟩, finish, rfl, hsteps, hfinish⟩ := yields_bind_iff.mp h
  obtain ⟨_, rest, rfl, hend⟩ := yields_call_bind_iff.mp hfinish
  obtain ⟨rfl, rfl⟩ := yields_done_iff.mp hend
  refine ⟨p, error?, ?_, rfl⟩
  suffices hpassage : Passage steps p error? from
    hpassage.wrap isFraming_nil (by simp [IsFraming])
  obtain ⟨fetching, ⟨p', fetched⟩, installing, rfl, hfetching, hinstalling⟩ :=
    yields_bind_iff.mp hsteps
  cases hvalid : Fetch.validate i.spec.url with
  | error e =>
    rw [hvalid] at hfetching
    obtain ⟨rfl, hfetched⟩ := yields_done_iff.mp hfetching
    cases hfetched
    obtain ⟨rfl, hinstalled⟩ := yields_done_iff.mp hinstalling
    cases hinstalled
    refine .early isFraming_nil rfl fun _ _ he => ?_
    exact ofFetch_ne_apply e _ _ (Option.some.inj he)
  | ok url =>
    rw [hvalid] at hfetching
    obtain ⟨_, asking, rfl, hasking⟩ := yields_call_bind_iff.mp hfetching
    obtain ⟨answer, rest, rfl, hrest⟩ := yields_call_bind_iff.mp hasking
    cases answer with
    | error e =>
      obtain ⟨rfl, hfetched⟩ := yields_done_iff.mp hrest
      cases hfetched
      obtain ⟨rfl, hinstalled⟩ := yields_done_iff.mp hinstalling
      cases hinstalled
      refine .early (by simp [IsFraming]) rfl fun _ _ he => ?_
      exact ofFetch_ne_apply e _ _ (Option.some.inj he)
    | ok bundle =>
      obtain ⟨rfl, hfetched⟩ := yields_done_iff.mp hrest
      cases hfetched
      rw [← List.append_nil (_ ++ installing)]
      exact (passage_installDocuments hinstalling).wrap (by simp [IsFraming]) isFraming_nil

end BundleInstaller.Install
