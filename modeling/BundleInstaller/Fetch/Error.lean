import BundleInstaller.Time.Duration

/-!
# Errors of fetching

A `FetchError` is what can go wrong before a bundle has arrived.  Only an empty URL is the fault of
whoever wrote the installation.
-/

namespace BundleInstaller

/-- Why a bundle did not arrive. -/
inductive FetchError where
  | emptyUrl
  | invalidUrl (url reason : String)
  | refused (status : Nat) (words : String)
  | network (words : String)
  | timeout (url : String) (limit : Duration)
  deriving Repr, DecidableEq

namespace FetchError

def message : FetchError → String
  | emptyUrl => "Bundle URL is empty"
  | invalidUrl url reason => "Invalid bundle URL: " ++ url ++ " - " ++ reason
  | refused status words => "HTTP error: " ++ toString status ++ " - " ++ words
  | network words => "Network error: " ++ words
  | timeout url limit => "Request to " ++ url ++ " timed out after " ++ limit.brief

/-- Whether the installation itself is wrong. -/
def isValidation : FetchError → Bool
  | emptyUrl => true
  | _ => false

end FetchError
end BundleInstaller
