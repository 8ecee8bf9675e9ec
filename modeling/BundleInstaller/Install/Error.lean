import BundleInstaller.Bundle.ReadError
import BundleInstaller.Cluster.Error
import BundleInstaller.Fetch.Error
import BundleInstaller.Installation
import BundleInstaller.Overlay.Build

/-!
# Errors of installing

An `InstallError` is what ends an attempt to install a bundle, or what keeps its outcome from being
read or written.  Its category says in one word where it happened.
-/

namespace BundleInstaller

/-- Why a bundle was not installed. -/
inductive InstallError where
  /-- The installation itself is wrong. -/
  | validation (field words : String)
  | fetch (cause : FetchError)
  | parse (cause : ReadError)
  | mapping (group version kind : String)
  | apply (resource : String) (cause : ClusterError)
  | render (cause : Overlay.BuildError)
  | unsupported (kind : BundleKind)
  | discovery (cause : ClusterError)
  | status (name : String) (cause : ClusterError)
  deriving Repr, DecidableEq

namespace InstallError

def message : InstallError → String
  | validation field words => "invalid " ++ field ++ ": " ++ words
  | fetch cause => "failed to fetch bundle: " ++ cause.message
  | parse cause => "failed to parse bundle: " ++ cause.message
  | mapping group version kind =>
    "no REST mapping for kind '" ++ kind ++ "' (group '" ++ group ++ "', version '" ++ version ++
      "')"
  | apply resource cause => "failed to apply " ++ resource ++ ": " ++ cause.message
  | render cause => "failed to render overlay: " ++ cause.message
  | unsupported kind => "bundle kind '" ++ kind.text ++ "': implementation not available"
  | discovery cause => "API discovery failed: " ++ cause.message
  | status name cause => "status of installation '" ++ name ++ "' unavailable: " ++ cause.message

/-- Where the error happened. -/
def category : InstallError → String
  | validation _ _ => "validation"
  | fetch _ => "fetch"
  | parse _ => "parse"
  | mapping _ _ _ => "mapping"
  | apply _ _ => "apply"
  | render _ => "render"
  | unsupported _ => "unsupported"
  | discovery _ => "discovery"
  | status _ _ => "status"

/-- The error of an attempt whose bundle did not arrive. -/
def ofFetch (e : FetchError) : InstallError :=
  if e.isValidation then .validation "spec.url" e.message else .fetch e

end InstallError
end BundleInstaller
