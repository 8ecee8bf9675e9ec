import BundleInstaller.Install.Error
import BundleInstaller.Install.Summary

/-!
# Reports of attempts

An attempt to install a bundle goes through phases and ends with a `Report`.  `Report.apply` writes
down in the status of the installation what came of it, and `Outcome` is what reconciling an
installation amounts to.
-/

namespace BundleInstaller.Install

/-- How far an attempt is, or where it ended. -/
inductive Phase where
  | pending
  | fetching
  | rendering
  | splitting
  | applying (index : Nat)
  | succeeded
  /-- The declaration with this number failed; zero stands for a failure before the first one. -/
  | failed (index : Nat)
  deriving Repr, DecidableEq

namespace Phase

def text : Phase → String
  | pending => "pending"
  | fetching => "fetching"
  | rendering => "rendering"
  | splitting => "splitting"
  | applying index => "applying #" ++ toString index
  | succeeded => "succeeded"
  | failed index => "failed at #" ++ toString index

/-- The number of the declaration that is being applied, zero in all other phases. -/
def index : Phase → Nat
  | applying index => index
  | _ => 0

end Phase

/-- What came of an attempt. -/
structure Report where
  /-- How many declarations the bundle has; `none` if the attempt ended before that was known. -/
  total? : Option Nat
  phase : Phase
  error? : Option InstallError
  summary : Summary
  deriving Repr, DecidableEq

namespace Report

/-- Whether the whole bundle was installed. -/
def isSuccess (r : Report) : Bool := r.error?.isNone

/-- The installation with the report in its status.  The total stays as it was if the attempt ended
before it was known. -/
def apply (r : Report) (i : Installation) : Installation :=
  let counted := match r.total? with
    | some total => i.setTotal total
    | none => i
  (counted.setError (r.error?.map (·.message))).setProcessed r.isSuccess

end Report

/-- What reconciling an installation amounts to. -/
inductive Outcome where
  | skipped
  | gone
  | succeeded (total : Nat)
  | failed (total? : Option Nat) (error : String)
  deriving Repr, DecidableEq

namespace Outcome

def isFailure : Outcome → Bool
  | failed _ _ => true
  | _ => false

def text : Outcome → String
  | skipped => "already processed"
  | gone => "not found"
  | succeeded total => "processed " ++ toString total ++ " declaration(s)"
  | failed _ error => "failed: " ++ error

end Outcome
end BundleInstaller.Install
