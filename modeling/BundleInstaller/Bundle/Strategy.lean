import BundleInstaller.Bundle.Header

/-!
# How a declaration is installed

Declarations of new kinds are installed into a fixed collection; all others into the collection
that the cluster serves for their kind.
-/

namespace BundleInstaller.Bundle

/-- How a declaration is installed. -/
inductive Strategy where
  | schema (resource : String)
  /-- Where discovery says. -/
  | generic
  deriving Repr, DecidableEq

/-- The API for new kinds. -/
def schemaGroup : String := "apiextensions.k8s.io"

def schemaVersion : String := "v1"

def schemaResource : String := "customresourcedefinitions"

/-- Only the exact group and version of the API for new kinds are special. -/
def classify (h : Header) : Strategy :=
  if h.group = schemaGroup ∧ h.version = schemaVersion then .schema schemaResource else .generic

end BundleInstaller.Bundle
