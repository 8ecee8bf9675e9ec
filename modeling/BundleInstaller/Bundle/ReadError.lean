import BundleInstaller.Yaml.Value.Writing
import BundleInstaller.Yaml.Value.Reading

/-!
# Errors of reading

A `ReadError` is what can go wrong while a bundle, a declaration or the configuration is read.
-/

namespace BundleInstaller

/-- Why YAML could not be read or written. -/
inductive YamlError where
  | read (fault : Yaml.Fault)
  | write (fault : Yaml.WriteFault)
  deriving Repr, DecidableEq

def YamlError.message : YamlError → String
  | read fault => fault.message
  | write fault => fault.message

/-- Why a bundle, a declaration or the configuration could not be read. -/
inductive ReadError where
  | stream (cause : YamlError)
  | normalize (index : Nat) (cause : YamlError)
  | malformed (index : Nat) (problem : String)
  | missingField (field : String)
  | configuration (cause : YamlError)
  | file (problem : String)
  deriving Repr, DecidableEq

def ReadError.message : ReadError → String
  | stream cause => "Invalid bundle stream: " ++ cause.message
  | normalize index cause =>
    "Failed to normalize document " ++ toString index ++ ": " ++ cause.message
  | malformed index problem => "Malformed declaration " ++ toString index ++ ": " ++ problem
  | missingField field => "Missing required field: " ++ field
  | configuration cause => "Failed to parse configuration: " ++ cause.message
  | file problem => "IO error: " ++ problem

end BundleInstaller
