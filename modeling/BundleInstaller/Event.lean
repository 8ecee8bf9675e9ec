import BundleInstaller.Json.Value

/-!
# Events

An `Event` is something that was worth noting.  `Event.toJson` is its form in a log.
-/

namespace BundleInstaller

/-- How much an event matters. -/
inductive Level where
  | error
  | warn
  | info
  | debug
  deriving Repr, DecidableEq

namespace Level

def text : Level → String
  | error => "ERROR"
  | warn => "WARN"
  | info => "INFO"
  | debug => "DEBUG"

/-- How many levels matter more. -/
def rank : Level → Nat
  | error => 0
  | warn => 1
  | info => 2
  | debug => 3

/-- Whether a log that is kept down to this level has events of the other one. -/
def covers (kept level : Level) : Bool := level.rank ≤ kept.rank

end Level

/-- Something worth noting. -/
structure Event where
  level : Level
  message : String
  fields : List (String × Json)
  deriving Repr, BEq

namespace Event

/-- An event all of whose fields are texts. -/
def ofTexts (level : Level) (message : String) (fields : List (String × String)) : Event :=
  ⟨level, message, fields.map fun (name, text) => (name, .str text)⟩

/-- An event in a log, with the name of the installation that it belongs to. -/
def toJson (installation? : Option String) (e : Event) : Json :=
  .ofEntries [("level", .str e.level.text),
    ("fields", .ofEntries (("message", .str e.message) :: e.fields)),
    ("installation", .ofText? installation?)]

end Event
end BundleInstaller
