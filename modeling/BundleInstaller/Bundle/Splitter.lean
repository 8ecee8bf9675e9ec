import BundleInstaller.Bundle.ReadError

/-!
# Splitting a bundle into documents

A bundle is a stream of values.  A `Splitter` goes through it: it passes over nulls, writes every
other value anew and numbers it from one, and ends at the first value that cannot be read or
written.  What the values are does not matter to it, so `Splitter` is stated over any stream of
readings; `splitDocuments` is the one for YAML.
-/

namespace BundleInstaller

/-- A document of a bundle, written anew. -/
structure Document where
  /-- Its number among the documents that are not null, from one. -/
  index : Nat
  bytes : Bytes
  deriving Repr, DecidableEq

namespace Bundle

/-- What a splitter asks of the values of a stream. -/
structure Scribe (ν ω : Type) where
  isNull : ν → Bool
  write : ν → Except ω Bytes

/-- Why a splitter ends early. -/
inductive SplitFault (ε ω : Type) where
  | stream (cause : ε)
  | normalize (index : Nat) (cause : ω)
  deriving Repr, DecidableEq

/-- A stream that is being split. -/
structure Splitter (ε ν : Type) where
  rest : List (Except ε ν)
  yielded : Nat
  failed : Bool

namespace Splitter

variable {ε ν ω : Type}

def start (stream : List (Except ε ν)) : Splitter ε ν := ⟨stream, 0, false⟩

/-- Finds the next document in what is left of a stream, after `yielded` others. -/
def advance (scribe : Scribe ν ω) (yielded : Nat) :
    List (Except ε ν) → Option (Except (SplitFault ε ω) Document) × Splitter ε ν
  | [] => (none, ⟨[], yielded, false⟩)
  | .error cause :: rest => (some (.error (.stream cause)), ⟨rest, yielded, true⟩)
  | .ok value :: rest =>
    if scribe.isNull value then advance scribe yielded rest
    else match scribe.write value with
      | .ok bytes => (some (.ok ⟨yielded + 1, bytes⟩), ⟨rest, yielded + 1, false⟩)
      | .error cause => (some (.error (.normalize (yielded + 1) cause)), ⟨rest, yielded, true⟩)

/-- The next document or fault; `none` at the end, and always after a fault. -/
def next (scribe : Scribe ν ω) (s : Splitter ε ν) :
    Option (Except (SplitFault ε ω) Document) × Splitter ε ν :=
  if s.failed then (none, s) else advance scribe s.yielded s.rest

theorem length_rest_advance (scribe : Scribe ν ω) (stream : List (Except ε ν)) :
    ∀ (yielded : Nat) (item : Except (SplitFault ε ω) Document) (s : Splitter ε ν),
      advance scribe yielded stream = (some item, s) → s.rest.length < stream.length := by
  induction stream with
  | nil => intro yielded item s h; simp [advance] at h
  | cons value rest ih =>
    intro yielded item s h
    cases value with
    | error cause => simp only [advance, Prod.mk.injEq] at h; simp [← h.2]
    | ok value =>
      simp only [advance] at h
      split at h
      · exact Nat.lt_succ_of_lt (ih _ _ _ h)
      · split at h <;> simp only [Prod.mk.injEq] at h <;> simp [← h.2]

theorem length_rest_next (scribe : Scribe ν ω) (s s' : Splitter ε ν)
    (item : Except (SplitFault ε ω) Document) (h : s.next scribe = (some item, s')) :
    s'.rest.length < s.rest.length := by
  unfold next at h
  split at h
  · simp at h
  · exact length_rest_advance scribe _ _ _ _ h

/-- Everything that a splitter still finds, with the state after each step. -/
def items (scribe : Scribe ν ω) (s : Splitter ε ν) :
    List (Except (SplitFault ε ω) Document × Splitter ε ν) :=
  match _h : s.next scribe with
  | (none, _) => []
  | (some item, s') => (item, s') :: items scribe s'
termination_by s.rest.length
decreasing_by exact length_rest_next scribe s s' item _h

/-- All documents that a splitter still finds, or the first fault. -/
def documents (scribe : Scribe ν ω) (s : Splitter ε ν) :
    Except (SplitFault ε ω) (List Document) :=
  (s.items scribe).mapM (·.1)

end Splitter

/-! ## YAML -/

/-- Whether a value is null, with or without a tag. -/
def isNull : Yaml.Value → Bool
  | .null => true
  | .tagged _ value => isNull value
  | _ => false

/-- The normal form of a value is its YAML text. -/
def scribe : Scribe Yaml.Value Yaml.WriteFault where
  isNull := isNull
  write value := value.write.map Text.Utf8.ofString

def stream (bundle : Bytes) : List (Except Yaml.Fault Yaml.Value) :=
  (Yaml.Document.ofBytes bundle).map Yaml.Value.ofDocument

def SplitFault.toReadError : SplitFault Yaml.Fault Yaml.WriteFault → ReadError
  | .stream cause => .stream (.read cause)
  | .normalize index cause => .normalize index (.write cause)

def splitter (bundle : Bytes) : Splitter Yaml.Fault Yaml.Value := .start (stream bundle)

def splitDocuments (bundle : Bytes) : Except ReadError (List Document) :=
  match (splitter bundle).documents scribe with
  | .ok found => .ok found
  | .error fault => .error fault.toReadError

end Bundle
end BundleInstaller
