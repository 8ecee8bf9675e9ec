import BundleInstaller.Decode.Format

/-!
# Headers of declarations

A `Header` is what it takes to route a declaration: its API version, its kind and its name.  An API
version is a group and a version with a slash between them, or a version alone.
-/

namespace BundleInstaller.Bundle

open Decode

/-- Splits an API version at its last slash into group and version; the group is empty without
one. -/
def splitApiVersion (apiVersion : String) : String × String :=
  let version := (apiVersion.toList.reverse.takeWhile (· != '/')).reverse
  let before := apiVersion.toList.take (apiVersion.length - version.length)
  (String.ofList before.dropLast, String.ofList version)

/-- What it takes to route a declaration. -/
structure Header where
  apiVersion : String
  group : String
  version : String
  kind : String
  name? : Option String
  ns? : Option String
  deriving Repr, DecidableEq

/-- The name that messages use: namespace, kind and name. -/
def Header.displayName (h : Header) : String :=
  let name := h.kind ++ "/" ++ h.name?.getD "unnamed"
  match h.ns? with
  | some space => space ++ "/" ++ name
  | none => name

/-- The fields of `metadata` that a header needs. -/
structure HeaderNames where
  name? : Option (Option String)
  ns? : Option (Option String)

/-- The fields of a declaration that a header needs; a field that was not found is `none`. -/
structure HeaderFields where
  apiVersion? : Option (Option String)
  kind? : Option (Option String)
  metadata? : Option (Option HeaderNames)

variable {σ : Type} {m : Type → Type} [Monad m] [Format σ m]

namespace HeaderNames

def step (name : String) : Option (HeaderNames → σ → m HeaderNames) :=
  match name with
  | "name" =>
    some fun h c => do return { h with name? := some (← readOnce name h.name? readText? c) }
  | "namespace" =>
    some fun h c => do return { h with ns? := some (← readOnce name h.ns? readText? c) }
  | _ => none

def read (c : σ) : m HeaderNames :=
  Format.record (.named "RawMetadata" [("name", true), ("namespace", true)]) ⟨none, none⟩ step .ok c

end HeaderNames

namespace HeaderFields

def step (name : String) : Option (HeaderFields → σ → m HeaderFields) :=
  match name with
  | "apiVersion" =>
    some fun h c => do
      return { h with apiVersion? := some (← readOnce name h.apiVersion? readText? c) }
  | "kind" =>
    some fun h c => do return { h with kind? := some (← readOnce name h.kind? readText? c) }
  | "metadata" =>
    some fun h c => do
      let read := Format.option HeaderNames.read
      return { h with metadata? := some (← readOnce name h.metadata? read c) }
  | _ => none

def read (c : σ) : m HeaderFields :=
  Format.record
    (.named "RawHeader" [("apiVersion", true), ("kind", true), ("metadata", true)])
    ⟨none, none, none⟩ step .ok c

end HeaderFields

/-- The header with these fields, or what is missing.  An empty API version or kind is missing. -/
def HeaderFields.header (f : HeaderFields) : Except String Header := do
  let some apiVersion := f.apiVersion?.join.filter (!·.isEmpty) | throw "missing apiVersion"
  let some kind := f.kind?.join.filter (!·.isEmpty) | throw "missing kind"
  let (group, version) := splitApiVersion apiVersion
  let names := f.metadata?.join
  return ⟨apiVersion, group, version, kind, names.bind (·.name?.join), names.bind (·.ns?.join)⟩

end BundleInstaller.Bundle
