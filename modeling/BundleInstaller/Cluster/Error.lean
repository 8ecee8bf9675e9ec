import BundleInstaller.Text.Escaped

/-!
# Errors of a cluster

A `ClusterError` is what can go wrong between the installer and a cluster.  A cluster that answers
with an error sends a `Refusal`; all else that goes wrong on the way is a `ClientFault`.  Whether
something is missing, exists already or was changed meanwhile is read off the error by
`isNotFound`, `isAlreadyExists` and `isConflict`.
-/

namespace BundleInstaller
namespace Cluster

/-- A cluster's answer to a request that it does not carry out. -/
structure Refusal where
  status : String
  words : String
  reason : String
  code : Nat
  deriving Repr, DecidableEq

def Refusal.message (r : Refusal) : String :=
  "ApiError: " ++ r.words ++ ": " ++ r.reason ++ " (ErrorResponse \x7b status: " ++
    Text.quoted r.status ++ ", message: " ++ Text.quoted r.words ++ ", reason: " ++
    Text.quoted r.reason ++ ", code: " ++ toString r.code ++ " \x7d)"

/-- What can go wrong on the way to a cluster and back. -/
inductive ClientFault where
  | refused (refusal : Refusal)
  | request (problem : String)
  /-- A path that the cluster named itself cannot be asked for. -/
  | path (problem : String)
  | transport (problem : String)
  | encoding (problem : String)
  | answer (problem : String)
  | emptyGroup (name : String)
  deriving Repr, DecidableEq

def ClientFault.message : ClientFault → String
  | refused refusal => refusal.message
  | request problem => "Failed to build request: " ++ problem
  | path problem => "HttpError: " ++ problem
  | transport problem => "ServiceError: " ++ problem
  | encoding problem => "UTF-8 Error: " ++ problem
  | answer problem => "Error deserializing response: " ++ problem
  | emptyGroup name => "Error from discovery: Empty Api Group: " ++ name

end Cluster

/-- Why a cluster did not do what was asked. -/
inductive ClusterError where
  | client (fault : Cluster.ClientFault)
  | notFound (resource : String)
  | alreadyExists (resource : String)
  | conflict (resource words : String)
  | rejected (resource words : String)
  | serialization (words : String)
  | invalidConfig (words : String)
  deriving Repr, DecidableEq

namespace ClusterError

def message : ClusterError → String
  | client fault => "Kubernetes API error: " ++ fault.message
  | notFound resource => resource ++ " not found"
  | alreadyExists resource => resource ++ " already exists"
  | conflict resource words => "conflict writing " ++ resource ++ ": " ++ words
  | rejected resource words => resource ++ " rejected: " ++ words
  | serialization words => "serialization error: " ++ words
  | invalidConfig words => "invalid configuration: " ++ words

/-- The reason that a cluster gives for refusing what exists already. -/
def existsReason : String := "AlreadyExists"

def isNotFound : ClusterError → Bool
  | notFound _ => true
  | client (.refused r) => r.code == 404
  | _ => false

def isAlreadyExists : ClusterError → Bool
  | alreadyExists _ => true
  | client (.refused r) => r.code == 409 && r.reason == existsReason
  | _ => false

/-- Whether something was changed meanwhile. -/
def isConflict : ClusterError → Bool
  | conflict _ _ => true
  | client (.refused r) => r.code == 409 && r.reason != existsReason
  | _ => false

end ClusterError
end BundleInstaller
