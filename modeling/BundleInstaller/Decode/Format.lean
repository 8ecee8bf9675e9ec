import BundleInstaller.Decode.Content

/-!
# Formats that typed values are read from

A `Format` gives what a reader of typed values needs: texts, numbers, options, lists and records.
A record is read as a fold over its entries, with a step for each field that is known; the format
passes over the others.  Every operation but `fail` puts the mismatches of its parts where they
belong in the text.
-/

namespace BundleInstaller.Decode

/-- How a record may be written. -/
structure RecordShape where
  expected : String
  keyExpected : String
  /-- The fields in order, and whether each may be left out at the end of a list, in a format that
  has records without keys; `none` if the record needs keys. -/
  positional : Option (List (String × Bool))

/-- The shape of a record with the given fields that may be written without keys. -/
def RecordShape.named (name : String) (fields : List (String × Bool)) : RecordShape :=
  ⟨"struct " ++ name, "field identifier", some fields⟩

def RecordShape.keyed (expected : String) : RecordShape := ⟨expected, "field identifier", none⟩

/-- A format that typed values are read from: `σ` is a value in its place in a text, and `m` is
what reading does. -/
class Format (σ : Type) (m : outParam (Type → Type)) [Monad m] where
  /-- A mismatch found before a value is read; the record around the value gives it a place. -/
  fail {α : Type} : σ → Mismatch → m α
  /-- A text that has to satisfy a reader of its own. -/
  text {α : Type} (expected : String) (read : String → Except Mismatch α) : σ → m α
  bool : σ → m Bool
  int64 : σ → m Int
  option {α : Type} (read : σ → m α) : σ → m (Option α)
  list {α : Type} (expected : String) (read : σ → m α) : σ → m (List α)
  /-- A record: `step` says how a field changes the state, if the field is known. -/
  record {τ α : Type} (shape : RecordShape) (init : τ) (step : String → Option (τ → σ → m τ))
    (finish : τ → Except Mismatch α) : σ → m α
  variant (name : String) (known : List String) : σ → m String
  json : σ → m Json
  content : σ → m Content
  /-- A value in a wrapper of its own, which counts as one level of nesting. -/
  wrapped {α : Type} (read : σ → m α) : σ → m α

variable {σ : Type} {m : Type → Type} [Monad m] [Format σ m]

def readText (c : σ) : m String := Format.text "a string" Except.ok c

def readText? (c : σ) : m (Option String) := Format.option readText c

def readMap {α : Type} (read : σ → m α) : σ → m (List (String × α)) :=
  Format.record ⟨"a map", "a string", none⟩ []
    (fun key => some fun entries c => do return (key, ← read c) :: entries)
    (fun entries => .ok entries.reverse)

/-- A field that may stand once; `current` is its value so far. -/
def readOnce {α : Type} (name : String) (current : Option α) (read : σ → m α) (c : σ) : m α :=
  if current.isSome then Format.fail c (.duplicateField name) else read c

/-- A field that has to stand. -/
def required {α : Type} (name : String) : Option α → Except Mismatch α
  | some a => .ok a
  | none => .error (.missingField name)

end BundleInstaller.Decode
