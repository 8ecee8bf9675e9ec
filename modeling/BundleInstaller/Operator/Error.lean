import BundleInstaller.Install.Error

/-!
# Errors of the command line

An `OperatorError` is what a command ends with.  Each of the four kinds has its own exit code and
its own diagnostic code.
-/

namespace BundleInstaller

/-- Why a command failed. -/
inductive OperatorError where
  | config (words : String)
  | cluster (words : String) (help : Option String)
  | reconcile (name words : String)
  | internal (words : String)
  deriving Repr, DecidableEq

namespace OperatorError

def message : OperatorError → String
  | config words => "Configuration error: " ++ words
  | cluster words _ => "Cluster error: " ++ words
  | reconcile name words => "Reconcile of '" ++ name ++ "' failed: " ++ words
  | internal words => "Internal error: " ++ words

def exitCode : OperatorError → Nat
  | config _ => 2
  | cluster _ _ => 3
  | reconcile _ _ => 4
  | internal _ => 1

def code : OperatorError → String
  | config _ => "stevedore::operator::config"
  | cluster _ _ => "stevedore::operator::cluster"
  | reconcile _ _ => "stevedore::operator::reconcile"
  | internal _ => "stevedore::operator::internal"

/-- What to do about the error. -/
def help : OperatorError → Option String
  | config _ => some "check the file given with --config or STEVEDORE_CONFIG"
  | cluster _ help => help
  | _ => none

def ofRead (e : ReadError) : OperatorError := .config e.message

def ofCluster (e : ClusterError) : OperatorError :=
  .cluster e.message
    (if e.isNotFound then some "install the CRD with `stevedore-operator crd | kubectl apply -f -`"
    else none)

/-- The error of a command that could not set up fetching. -/
def ofFetch (e : FetchError) : OperatorError := .internal e.message

def ofYaml (e : YamlError) : OperatorError := .internal ("failed to serialize CRD: " ++ e.message)

/-- The error of a command that could not reconcile. -/
def ofInstall : InstallError → OperatorError
  | .status name cause => .reconcile name cause.message
  | e => .internal e.message

end OperatorError
end BundleInstaller
