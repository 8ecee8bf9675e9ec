import BundleInstaller.Bundle.Header
import BundleInstaller.Bundle.Splitter
import BundleInstaller.Cluster.Object

/-!
# Declarations

A `Declaration` is a document with a header.  Its whole object is read when an installer asks for
it; two readers thus see the same text, `Declaration.parse` for the header and `Declaration.object`
for the object.
-/

namespace BundleInstaller.Bundle

/-- A document with a header. -/
structure Declaration where
  document : Document
  header : Header
  deriving Repr, DecidableEq

namespace Declaration

def index (d : Declaration) : Nat := d.document.index

/-- Reads the header of a document. -/
def parse (document : Document) : Except ReadError Declaration :=
  match Yaml.readDocument HeaderFields.read document.bytes with
  | .error fault => .error (.malformed document.index fault.message)
  | .ok fields =>
    match fields.header with
    | .error problem => .error (.malformed document.index problem)
    | .ok header => .ok ⟨document, header⟩

/-- Reads the whole object; an object without a type is refused. -/
def object (d : Declaration) : Except ReadError Cluster.Object :=
  match Yaml.readDocument Cluster.Object.read d.document.bytes with
  | .error fault => .error (.malformed d.index fault.message)
  | .ok object =>
    if object.type?.isSome then .ok object
    else .error (.malformed d.index "missing apiVersion or kind")

/-- The name, where one is needed. -/
def requireName (d : Declaration) : Except ReadError String :=
  match d.header.name? with
  | some name => .ok name
  | none => .error (.missingField ("metadata.name (declaration " ++ toString d.index ++ ")"))

/-- The number and the name of the header. -/
def display (d : Declaration) : String :=
  "#" ++ toString d.index ++ " " ++ d.header.displayName

end Declaration
end BundleInstaller.Bundle
