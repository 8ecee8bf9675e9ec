import BundleInstaller.Installation
import BundleInstaller.Yaml.Value.Writing

/-!
# The definition of installations

`Installation.definition` is the object that makes a cluster serve installations.  It describes
their fields by a schema, and says what a list of installations shows of each.
-/

namespace BundleInstaller.Installation

def definitionName : String := plural ++ "." ++ group

def field (description type : String) (rest : List (String × Json)) : Json :=
  .ofEntries ([("description", .str description), ("type", .str type)] ++ rest)

def record (description : String) (properties : List (String × Json))
    (rest : List (String × Json)) : Json :=
  field description "object" (("properties", .ofEntries properties) :: rest)

def specSchema : Json :=
  record "Desired state of an Installation"
    [("url", field "Location of the bundle to install" "string" []),
      ("kind", field "How the bundle at `url` is turned into declarations" "string"
        [("default", .str BundleKind.rawBundle.text),
          ("enum", .arr (BundleKind.all.map fun k => .str k.text))])]
    [("required", .arr [.str "url"])]

def statusSchema : Json :=
  record "Observed state of an Installation"
    [("processed", field "True once an attempt applied every declaration without error" "boolean"
        [("default", .bool InstallationStatus.initial.processed)]),
      ("total",
        field "Declarations found in the most recent fetch, `-1` if never attempted" "integer"
          [("default", .int InstallationStatus.initial.total), ("format", .str "int64")]),
      ("error", field "Last failure message; `None` when the last attempt succeeded" "string"
        [("nullable", .bool true)])]
    [("nullable", .bool true)]

def schema : Json :=
  record "Auto-generated derived type for InstallationSpec via `CustomResource`"
    [("spec", specSchema), ("status", statusSchema)]
    [("required", .arr [.str "spec"]), ("title", .str kind)]

/-- A column of a list of installations. -/
def column (name type path description : String) : Json :=
  .ofEntries [("name", .str name), ("type", .str type), ("jsonPath", .str path),
    ("description", .str description)]

/-- The one version of installations that there is. -/
def definedVersion : Json :=
  .ofEntries [("name", .str version), ("served", .bool true), ("storage", .bool true),
    ("schema", .ofEntries [("openAPIV3Schema", schema)]),
    ("subresources", .ofEntries [("status", .obj [])]),
    ("additionalPrinterColumns", .arr [
      column "Processed" "boolean" ".status.processed" "Bundle installed without errors",
      column "Total" "integer" ".status.total" "Declarations found in the last fetch",
      column "URL" "string" ".spec.url" "Bundle location"])]

/-- The definition of installations. -/
def definition : Json :=
  .ofEntries [("apiVersion", .str "apiextensions.k8s.io/v1"),
    ("kind", .str "CustomResourceDefinition"),
    ("metadata", .ofEntries [("name", .str definitionName)]),
    ("spec", .ofEntries [("group", .str group), ("scope", .str "Cluster"),
      ("names", .ofEntries [("kind", .str kind), ("plural", .str plural),
        ("singular", .str "installation"), ("shortNames", .arr []), ("categories", .arr [])]),
      ("versions", .arr [definedVersion])])]

def definitionYaml : Except Yaml.WriteFault String := (Yaml.Value.ofJson definition).write

end BundleInstaller.Installation
