import BundleInstaller.Install.Reconcile
import BundleInstaller.Proofs.Transcript

/-!
# Calls of an attempt

Which calls a document, a pass over a bundle or a whole attempt may lead to, whatever they are told.
Each statement is about any property of calls and says which calls have to have it.

* `asks_applyDocument`: a document leads to looks and creations only.
* `asks_attempt`: an attempt leads to no call for an installation.
-/

namespace BundleInstaller.Install

open BundleInstaller.Bundle Program

/-- What all events have but those that tell of going on to another phase. -/
def CoversNotes (P : Call → Prop) : Prop := ∀ e : Event, e.message ≠ "Attempt phase" → P (.note e)

section Documents

variable {P : Call → Prop} (hnote : CoversNotes P)
  (hget : ∀ place space name, P (.cluster (.get place space name)))
  (hcreate : ∀ place space o, P (.cluster (.create place space o)))
include hnote hget hcreate

theorem asks_applySchema (resource : String) (d : Declaration) :
    (applySchema resource d).Asks P := by
  unfold applySchema
  cases d.requireName with
  | error e => trivial
  | ok name =>
    refine ⟨hget _ _ _, fun answer => ?_⟩
    rcases answer with e | _ | o
    · trivial
    · cases d.object with
      | error e => trivial
      | ok o =>
        refine ⟨hcreate _ _ _, fun answer => ?_⟩
        cases answer with
        | error e => trivial
        | ok o => exact ⟨hnote _ (by simp [Event.ofTexts]), fun _ => trivial⟩
    · exact ⟨hnote _ (by simp [Event.ofTexts]), fun _ => trivial⟩

omit hget hcreate in
/-- A declaration that is no definition is created where its header and its object say. -/
theorem asks_applyGeneric (catalog : Cluster.Catalog) (d : Declaration)
    (hplaced : ∀ place o, d.object = .ok o →
      catalog.find? d.header.group d.header.kind d.header.version = some place →
        P (.cluster (.create place (place.targetNamespace o.metadata.ns?) o))) :
    (applyGeneric catalog d).Asks P := by
  unfold applyGeneric
  dsimp only
  cases hobject : d.object with
  | error e => trivial
  | ok o =>
    dsimp only
    cases hfind : catalog.find? d.header.group d.header.kind d.header.version with
    | none => trivial
    | some place =>
      refine ⟨hnote _ (by simp [Event.ofTexts]), fun _ =>
        ⟨hplaced place o hobject hfind, fun answer => ?_⟩⟩
      cases answer with
      | ok o => exact ⟨hnote _ (by simp [Event.ofTexts]), fun _ => trivial⟩
      | error e =>
        show Asks P (if e.isAlreadyExists then _ else _)
        split
        · exact ⟨hnote _ (by simp [Event.ofTexts]), fun _ => trivial⟩
        · trivial

theorem asks_applyDocument (catalog : Cluster.Catalog) (document : Document) :
    (applyDocument catalog document).Asks P := by
  unfold applyDocument
  cases Declaration.parse document with
  | error e => trivial
  | ok d =>
    refine ⟨hnote _ (by simp [Event.ofTexts]), fun _ => ?_⟩
    have happly : (applyDeclaration catalog d).Asks P := by
      unfold applyDeclaration
      split
      · exact asks_applySchema hnote hget hcreate _ _
      · exact asks_applyGeneric hnote _ _ fun place o _ _ => hcreate place _ o
    refine happly.bind fun result => ?_
    cases result <;> trivial

end Documents

section Attempts

variable {P : Call → Prop} (hnote : ∀ e, P (.note e)) (hfetch : ∀ url, P (.fetch url))
  (hbuild : ∀ descriptor, P (.build descriptor)) (hdiscover : P (.cluster .discover))
  (hget : ∀ place space name, P (.cluster (.get place space name)))
  (hcreate : ∀ place space o, P (.cluster (.create place space o)))
  (hpost : ∀ path body, P (.cluster (.post path body)))

include hnote in
theorem asks_enter (p : Progress) (phase : Phase) : (p.enter phase).Asks P :=
  ⟨hnote _, fun _ => trivial⟩

include hnote hget hcreate in
theorem asks_applyDocuments (catalog : Cluster.Catalog) :
    ∀ (documents : List Document) (p : Progress), (applyDocuments catalog p documents).Asks P := by
  intro documents
  induction documents with
  | nil => exact fun _ => trivial
  | cons document rest ih =>
    intro p
    unfold applyDocuments
    refine (asks_enter hnote _ _).bind fun p => ?_
    refine (asks_applyDocument (fun e _ => hnote e) hget hcreate _ _).bind fun result => ?_
    cases result with
    | error e => trivial
    | ok named => exact ih _

include hnote hpost in
theorem asks_postChunks (config : OverlayConfig) :
    ∀ (chunks : List Bytes) (index : Nat) (p : Progress),
      (postChunks config p index chunks).Asks P := by
  intro chunks
  induction chunks with
  | nil => exact fun _ _ => trivial
  | cons chunk rest ih =>
    intro index p
    unfold postChunks
    refine (asks_enter hnote _ _).bind fun p => ⟨hpost _ _, fun answer => ?_⟩
    cases answer with
    | ok _ => exact ⟨hnote _, fun _ => ih _ _⟩
    | error e =>
      show Asks P (if e.isAlreadyExists && config.tolerateExisting then _ else _)
      split
      · exact ⟨hnote _, fun _ => ih _ _⟩
      · trivial

include hnote hfetch in
theorem asks_fetchAndInstall {url : String}
    {install : Bytes → Progress → Plan (Progress × Option InstallError)}
    (hinstall : ∀ bytes p, (install bytes p).Asks P) : (fetchAndInstall url install).Asks P := by
  have hbundle : ∀ p, (fetchBundle url p).Asks P := by
    intro p
    unfold fetchBundle
    cases Fetch.validate url with
    | error e => trivial
    | ok u =>
      refine (asks_enter hnote _ _).bind fun p => ⟨hfetch _, fun answer => ?_⟩
      cases answer <;> trivial
  unfold fetchAndInstall
  refine (hbundle _).bind fun x => ?_
  rcases x with ⟨p, e | bytes⟩
  · trivial
  · exact hinstall _ _

include hnote hfetch hbuild hdiscover hget hcreate hpost in
/-- **An attempt leads to no call for an installation.** -/
theorem asks_attempt (config : Config) (i : Installation) : (attempt config i).Asks P := by
  have hdocuments : ∀ bundle p, (installDocuments bundle p).Asks P := by
    intro bundle p
    unfold installDocuments
    refine (asks_enter hnote _ _).bind fun p => ?_
    cases splitDocuments bundle with
    | error e => trivial
    | ok documents =>
      refine ⟨hdiscover, fun answer => ?_⟩
      cases answer with
      | error e => trivial
      | ok catalog => exact asks_applyDocuments hnote hget hcreate _ _ _
  have hoverlay : ∀ descriptor p, (installOverlay config.overlay descriptor p).Asks P := by
    intro descriptor p
    unfold installOverlay
    refine (asks_enter hnote _ _).bind fun p => ⟨hbuild _, fun answer => ?_⟩
    cases answer with
    | error e => trivial
    | ok rendered =>
      exact (asks_enter hnote _ _).bind fun p => asks_postChunks hnote hpost _ _ _ _
  unfold attempt
  refine Asks.bind ?_ fun x => ⟨hnote _, fun _ => trivial⟩
  unfold attemptSteps
  cases i.spec.kind with
  | rawBundle => exact asks_fetchAndInstall hnote hfetch hdocuments
  | overlay => exact asks_fetchAndInstall hnote hfetch hoverlay
  | packagedChart => trivial

end Attempts
end BundleInstaller.Install
