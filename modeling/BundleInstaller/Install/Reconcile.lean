import BundleInstaller.Install.Attempt

/-!
# Reconciling an installation

`reconcile` makes one attempt for an installation that needs it and writes down what came of it.
An attempt that failed is an outcome like any other; only an installation that cannot be read or
written is an error.
-/

namespace BundleInstaller.Install

/-- Writes a report into the status of an installation. -/
def writeReport (i : Installation) (report : Report) : Plan (Except InstallError Installation) := do
  let name := i.anyName
  match ← askCluster (.writeStatus (report.apply i)) with
  | .ok written => return .ok written
  | .error e =>
    note .error "Failed to persist status" [("installation", name), ("error", e.message)]
    return .error (.status name e)

/-- The version that is noted where none is known. -/
def unknownVersion : String := "unknown"

def noteReport (version : Option String) (report : Report) : Plan Outcome := do
  let version := version.getD unknownVersion
  match report.error? with
  | none =>
    let total := report.total?.getD 0
    ask (.note ⟨.info, "Installation processed", [("version", .str version), ("total", .int total),
      ("summary", .str report.summary.text)]⟩)
    return .succeeded total
  | some e =>
    note .warn "Installation failed" [("version", version), ("phase", report.phase.text),
      ("category", e.category), ("error", e.message)]
    return .failed report.total? e.message

/-- Makes an attempt for an installation and writes down what came of it. -/
def process (config : Config) (version : Option String) (i : Installation) :
    Plan (Except InstallError Outcome) := do
  note .info "Installing bundle" [("url", i.spec.url), ("kind", i.spec.kind.text)]
  let report ← attempt config i
  match ← writeReport i report with
  | .error e => return .error e
  | .ok _ => return .ok (← noteReport version report)

/-- Makes an attempt for the installation with a name, if it needs one. -/
def reconcile (config : Config) (version : Option String) (name : String) :
    Plan (Except InstallError Outcome) := do
  match ← askCluster (.readInstallation name) with
  | .error e => return .error (.status name e)
  | .ok none =>
    note .debug "Installation not found" []
    return .ok .gone
  | .ok (some i) =>
    if i.needsProcessing then process config version i
    else
      note .debug "Installation already processed" []
      return .ok .skipped

end BundleInstaller.Install
