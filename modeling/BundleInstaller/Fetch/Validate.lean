import BundleInstaller.Fetch.Error
import BundleInstaller.Text.Blank
import BundleInstaller.Url

/-!
# URLs of bundles

A bundle is fetched only from a URL that is not blank and can be read.
-/

namespace BundleInstaller.Fetch

/-- The URL of a bundle, or what is wrong with it. -/
def validate (url : String) : Except FetchError Url :=
  if url.toList.all Text.isBlank then .error .emptyUrl
  else match Url.parse url with
    | .ok u => .ok u
    | .error e => .error (.invalidUrl url e.message)

end BundleInstaller.Fetch
