import BundleInstaller.Operator.Call
import BundleInstaller.Operator.Error

/-!
# Watching installations

Each installation is reconciled once at the start, and again whenever it changes.  An `Action` says
when it is due without a change: after the retry interval if the attempt failed or could not be
written down, and not at all otherwise.
-/

namespace BundleInstaller.Operator

open Install (Outcome)

/-- When an installation is due again. -/
inductive Action where
  | awaitChange
  | requeue (after : Duration)
  deriving Repr, DecidableEq

namespace Action

def text : Action → String
  | awaitChange => "Action \x7b requeue_after: None \x7d"
  | requeue after => "Action \x7b requeue_after: Some(" ++ after.brief ++ ") \x7d"

def ofOutcome (retry : Duration) (outcome : Outcome) : Action :=
  if outcome.isFailure then requeue retry else awaitChange

def ofResult (retry : Duration) : Except InstallError Outcome → Action
  | .ok outcome => ofOutcome retry outcome
  | .error _ => requeue retry

end Action

/-- How an installation is called where reconciling it is at fault. -/
def reference (name : String) : String :=
  Installation.kind ++ "." ++ Installation.version ++ "." ++ Installation.group ++ "/" ++ name

/-- Notes what reconciling an installation ended with, and what follows. -/
def noteResult (name : String) (action : Action) :
    Except InstallError Outcome → Job Unit
  | .ok _ =>
    note .debug "Reconciliation completed" [("installation", name), ("action", action.text)]
  | .error e => do
    note .error "Reconcile failed"
      [("installation", name), ("category", e.category), ("error", e.message)]
    note .warn "Reconciliation error"
      [("error", "reconciler for object " ++ reference name ++ " failed")]

/-- Takes care of one installation that is due. -/
def turn (config : Config) (version : Option String) (name : String) : Job Action := do
  let result ← Job.reconcile config version name
  let action := Action.ofResult config.retryInterval result
  noteResult name action result
  match action with
  | .awaitChange => return action
  | .requeue after =>
    ask (.later name after)
    return action

/-- Takes care of the installations `due` and of those that become due, until the program is asked
to end; at most `turns` times in all. -/
def serve (config : Config) (version : Option String) : Nat → List String → Job Unit
  | 0, _ => return ()
  | turns + 1, name :: due => do
    let _ ← turn config version name
    serve config version turns due
  | turns + 1, [] => do
    match ← ask .next with
    | none => return ()
    | some name => serve config version turns [name]

/-- How many installations are listed at a time. -/
def pageSize : Nat := 500

/-- Watches all installations.  A first list of one of them shows whether the cluster serves them
at all. -/
def watch (config : Config) (version : Option String) (turns : Nat) :
    Job (Except OperatorError Unit) := do
  match ← Job.exchange (Cluster.Client.listInstallations 1) with
  | .error e => return .error (.ofCluster e)
  | .ok _ =>
    note .info "Starting Installation controller" [("retry_interval", config.retryInterval.brief)]
    let due := match ← Job.exchange (Cluster.Client.listInstallations pageSize) with
      | .ok installations => installations.map (·.anyName)
      | .error _ => []
    serve config version turns due
    note .info "Installation controller stopped" []
    return .ok ()

end BundleInstaller.Operator
