import BundleInstaller.Config
import BundleInstaller.Fetch.Validate
import BundleInstaller.Install.Apply
import BundleInstaller.Overlay.Chunk

/-!
# Attempts to install a bundle

`attempt` fetches the bundle of an installation, takes it apart and applies its parts in order, up
to the first one that fails.  A bundle of documents is split and each document is applied as a
declaration; an overlay is built, and its chunks are posted as they are.  Nothing is kept from one
attempt to the next but what is in the cluster.
-/

namespace BundleInstaller.Install

open BundleInstaller.Bundle

/-- How far an attempt is. -/
structure Progress where
  phase : Phase
  total? : Option Nat
  summary : Summary
  deriving Repr, DecidableEq

namespace Progress

def start : Progress := ⟨.pending, none, .empty⟩

/-- Goes on to another phase. -/
def enter (p : Progress) (phase : Phase) : Plan Progress := do
  note .debug "Attempt phase" [("from", p.phase.text), ("to", phase.text)]
  return { p with phase := phase }

def record (p : Progress) (name : String) (applied : Applied) : Progress :=
  { p with summary := p.summary.record name applied }

/-- The report of an attempt that ends here, with an error or without one. -/
def finish (p : Progress) (error? : Option InstallError) : Report :=
  let phase := match error? with
    | none => .succeeded
    | some _ => .failed p.phase.index
  ⟨p.total?, phase, error?, p.summary⟩

end Progress

/-- Fetches the bundle at a URL; a URL that is no good is never asked for. -/
def fetchBundle (url : String) (p : Progress) : Plan (Progress × Except InstallError Bytes) := do
  match Fetch.validate url with
  | .error e => return (p, .error (.ofFetch e))
  | .ok _ =>
    let p ← p.enter .fetching
    match ← ask (.fetch url) with
    | .error e => return (p, .error (.ofFetch e))
    | .ok bytes => return (p, .ok bytes)

/-! ## Bundles of documents -/

def applyDocument (catalog : Cluster.Catalog) (document : Document) :
    Plan (Except InstallError (String × Applied)) := do
  match Declaration.parse document with
  | .error e => return .error (.parse e)
  | .ok d =>
    note .debug "Applying declaration" [("declaration", d.display)]
    match ← applyDeclaration catalog d with
    | .error e => return .error e
    | .ok applied => return .ok (d.header.displayName, applied)

/-- Applies documents in order, up to the first one that fails. -/
def applyDocuments (catalog : Cluster.Catalog) :
    Progress → List Document → Plan (Progress × Option InstallError)
  | p, [] => return (p, none)
  | p, document :: rest => do
    let p ← p.enter (.applying document.index)
    match ← applyDocument catalog document with
    | .error e => return (p, some e)
    | .ok (name, applied) => applyDocuments catalog (p.record name applied) rest

def installDocuments (bundle : Bytes) (p : Progress) : Plan (Progress × Option InstallError) := do
  let p ← p.enter .splitting
  match splitDocuments bundle with
  | .error e => return (p, some (.parse e))
  | .ok documents =>
    let p := { p with total? := some documents.length }
    match ← askCluster .discover with
    | .error e => return (p, some (.discovery e))
    | .ok catalog => applyDocuments catalog p documents

/-! ## Overlays -/

/-- What the chunk with a number is called. -/
def chunkName (index : Nat) : String := "overlay document #" ++ toString index

/-- Posts chunks in order, up to the first one that fails; the next one gets the number `index`. -/
def postChunks (config : OverlayConfig) :
    Progress → (index : Nat) → List Bytes → Plan (Progress × Option InstallError)
  | p, _, [] => return (p, none)
  | p, index, chunk :: rest => do
    let p ← p.enter (.applying index)
    let resource := chunkName index
    match ← askCluster (.post config.postPath chunk) with
    | .ok () =>
      note .info "Posted object" [("resource", resource), ("path", config.postPath)]
      postChunks config (p.record resource .created) (index + 1) rest
    | .error e =>
      if e.isAlreadyExists && config.tolerateExisting then
        note .debug "Object already exists, skipping" [("resource", resource)]
        postChunks config (p.record resource .alreadyThere) (index + 1) rest
      else return (p, some (.apply resource e))

def installOverlay (config : OverlayConfig) (descriptor : Bytes) (p : Progress) :
    Plan (Progress × Option InstallError) := do
  let p ← p.enter .rendering
  match ← ask (.build descriptor) with
  | .error e => return (p, some (.render e))
  | .ok rendered =>
    let p ← p.enter .splitting
    let chunks := Overlay.chunks rendered
    postChunks config { p with total? := some chunks.length } 1 chunks

/-! ## Attempts -/

/-- Fetches a bundle and installs it. -/
def fetchAndInstall (url : String)
    (install : Bytes → Progress → Plan (Progress × Option InstallError)) :
    Plan (Progress × Option InstallError) := do
  match ← fetchBundle url .start with
  | (p, .error e) => return (p, some e)
  | (p, .ok bytes) => install bytes p

/-- Does what an installation asks for. -/
def attemptSteps (config : Config) (spec : InstallationSpec) :
    Plan (Progress × Option InstallError) :=
  match spec.kind with
  | .rawBundle => fetchAndInstall spec.url installDocuments
  | .overlay => fetchAndInstall spec.url (installOverlay config.overlay)
  | .packagedChart => return (.start, some (.unsupported spec.kind))

def attempt (config : Config) (i : Installation) : Plan Report := do
  let (p, error?) ← attemptSteps config i.spec
  let report := p.finish error?
  note .debug "Attempt finished" [("phase", report.phase.text), ("summary", report.summary.text)]
  return report

end BundleInstaller.Install
