import BundleInstaller.Installation.Definition
import BundleInstaller.Operator.Arguments
import BundleInstaller.Operator.Control

/-!
# Commands

`run` is what the program does for the words behind its name.  It ends well, or with an error that
has an exit code; words that cannot be read have an exit code too.
-/

namespace BundleInstaller.Operator

/-- What the program finds in its environment. -/
structure Environment where
  /-- The configuration file that holds where no option names one. -/
  config? : Option String
  version? : Option String
  /-- How many installations are reconciled at most before a watch ends. -/
  turns : Nat
  deriving Repr, DecidableEq

/-- How the program ends. -/
inductive Exit where
  | success
  | usage (fault : Usage)
  | failure (error : OperatorError)
  deriving Repr, DecidableEq

namespace Exit

def exitCode : Exit → Nat
  | success => 0
  | usage _ => 2
  | failure e => e.exitCode

def code? : Exit → Option String
  | failure e => some e.code
  | _ => none

def ofResult : Except OperatorError Unit → Exit
  | .ok _ => success
  | .error e => failure e

end Exit

def programVersion : String := "0.1.0"

/-- What is printed where help is asked for. -/
def helpText : String :=
  "\n".intercalate ["Installs remote manifest bundles declared by Installation resources", "",
    "Usage: " ++ programName ++ " [OPTIONS] <COMMAND>", "",
    "Commands:",
    "  run        Run the controller over all Installations",
    "  reconcile  Reconcile a single Installation once and exit",
    "  crd        Print the Installation CustomResourceDefinition", "",
    "Options:",
    "      --config <CONFIG>          Installer configuration file (YAML)",
    "      --log-format <LOG_FORMAT>  Log output format [text, json]",
    "  -h, --help                     Print help",
    "  -V, --version                  Print version", ""]

def printDefinition : Job (Except OperatorError Unit) :=
  match Installation.definitionYaml with
  | .error fault => return .error (.ofYaml (.write fault))
  | .ok yaml => do
    ask (.print yaml)
    return .ok ()

/-- Reads the configuration, connects to the cluster and sets up fetching. -/
def prepare (environment : Environment) (path? : Option String) :
    Job (Except OperatorError Config) := do
  let file ← match path? with
    | none => pure none
    | some path => do
      let contents ← ask (.contents path)
      pure (some contents)
  match Config.load file with
  | .error e => return .error (.ofRead e)
  | .ok config =>
    note .info "Starting stevedore operator"
      [("version", environment.version?.getD Install.unknownVersion),
        ("fetch_timeout", config.fetchTimeout.brief)]
    match ← ask .connect with
    | .error e => return .error (.ofCluster e)
    | .ok _ =>
      match ← ask (.client config.fetchTimeout) with
      | .error words => return .error (.ofFetch (.network words))
      | .ok _ => return .ok config

/-- Reconciles one installation and prints the outcome; a failed attempt is an error here. -/
def reconcileOnce (config : Config) (version : Option String) (name : String) :
    Job (Except OperatorError Unit) := do
  match ← Job.reconcile config version name with
  | .error e => return .error (.ofInstall e)
  | .ok (.failed _ words) => return .error (.reconcile name words)
  | .ok outcome =>
    ask (.print (name ++ ": " ++ outcome.text ++ "\n"))
    return .ok ()

def execute (environment : Environment) (a : Arguments) : Job (Except OperatorError Unit) := do
  match a.command with
  | .crd => printDefinition
  | .run =>
    match ← prepare environment a.config? with
    | .error e => return .error e
    | .ok config => watch config environment.version? environment.turns
  | .reconcile name =>
    match ← prepare environment a.config? with
    | .error e => return .error e
    | .ok config => reconcileOnce config environment.version? name

/-- What the program does when it is started for something. -/
def perform (environment : Environment) : Invocation → Job Exit
  | .help => do
    ask (.print helpText)
    return .success
  | .version program => do
    ask (.print (program ++ " " ++ programVersion ++ "\n"))
    return .success
  | .execute a => do return .ofResult (← execute environment a)

/-- What the program does for the words behind its name. -/
def run (environment : Environment) (words : List String) : Job Exit :=
  match Arguments.read environment.config? words with
  | .error fault => return .usage fault
  | .ok invocation => perform environment invocation

end BundleInstaller.Operator
