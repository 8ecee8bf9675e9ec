import BundleInstaller.Bundle.ReadError
import BundleInstaller.Time.Duration

/-!
# Configuration

The configuration is a YAML mapping in which every field may be left out.  `Config.ofYaml` reads it
and `Config.toYaml` writes all fields.
-/

namespace BundleInstaller

open Decode

/-- How overlays are built and posted. -/
structure OverlayConfig where
  kustomizeBinary : String
  postPath : String
  /-- Whether a document that exists already counts as posted. -/
  tolerateExisting : Bool
  deriving Repr, DecidableEq

/-- The configuration. -/
structure Config where
  /-- How long a bundle may take to arrive. -/
  fetchTimeout : Duration
  /-- How long to wait after a failure. -/
  retryInterval : Duration
  overlay : OverlayConfig
  deriving Repr, DecidableEq

namespace OverlayConfig

/-- What holds where nothing is configured. -/
def standard : OverlayConfig := ⟨"kustomize", "/api/v1", true⟩

structure Fields where
  kustomizeBinary? : Option String
  postPath? : Option String
  tolerateExisting? : Option Bool

def ofFields (f : Fields) : OverlayConfig :=
  ⟨f.kustomizeBinary?.getD standard.kustomizeBinary, f.postPath?.getD standard.postPath,
    f.tolerateExisting?.getD standard.tolerateExisting⟩

variable {σ : Type} {m : Type → Type} [Monad m] [Format σ m]

def step (name : String) : Option (Fields → σ → m Fields) :=
  match name with
  | "kustomizeBinary" =>
    some fun f c => do
      let read := Format.text "path string" Except.ok
      return { f with kustomizeBinary? := some (← readOnce name f.kustomizeBinary? read c) }
  | "postPath" =>
    some fun f c => do return { f with postPath? := some (← readOnce name f.postPath? readText c) }
  | "tolerateExisting" =>
    some fun f c => do
      return { f with tolerateExisting? := some (← readOnce name f.tolerateExisting? Format.bool c) }
  | _ => none

def read (c : σ) : m OverlayConfig :=
  Format.record
    (.named "OverlayConfig" [("kustomizeBinary", true), ("postPath", true), ("tolerateExisting", true)])
    ⟨none, none, none⟩ step (fun f => .ok (ofFields f)) c

def toValue (c : OverlayConfig) : Yaml.Value :=
  .mapping [(.text "kustomizeBinary", .text c.kustomizeBinary), (.text "postPath", .text c.postPath),
    (.text "tolerateExisting", .bool c.tolerateExisting)]

end OverlayConfig

namespace Config

def standard : Config := ⟨.ofSecs 15, .ofSecs 30, .standard⟩

structure Fields where
  fetchTimeout? : Option Duration
  retryInterval? : Option Duration
  overlay? : Option OverlayConfig

def ofFields (f : Fields) : Config :=
  ⟨f.fetchTimeout?.getD standard.fetchTimeout, f.retryInterval?.getD standard.retryInterval,
    f.overlay?.getD standard.overlay⟩

variable {σ : Type} {m : Type → Type} [Monad m] [Format σ m]

def readDuration (c : σ) : m Duration :=
  Format.text "a duration" (fun s =>
    match Duration.read? s with
    | some d => .ok d
    | none => .error (.value (.text s) "a duration")) c

def step (name : String) : Option (Fields → σ → m Fields) :=
  match name with
  | "fetchTimeout" =>
    some fun f c => do
      return { f with fetchTimeout? := some (← readOnce name f.fetchTimeout? readDuration c) }
  | "retryInterval" =>
    some fun f c => do
      return { f with retryInterval? := some (← readOnce name f.retryInterval? readDuration c) }
  | "overlay" =>
    some fun f c => do
      return { f with overlay? := some (← readOnce name f.overlay? OverlayConfig.read c) }
  | _ => none

def read (c : σ) : m Config :=
  Format.record
    (.named "InstallerConfig" [("fetchTimeout", true), ("retryInterval", true), ("overlay", true)])
    ⟨none, none, none⟩ step (fun f => .ok (ofFields f)) c

def ofYaml (bytes : Bytes) : Except ReadError Config :=
  match Yaml.readDocument read bytes with
  | .ok c => .ok c
  | .error fault => .error (.configuration (.read fault))

def notText : String := "stream did not contain valid UTF-8"

/-- Reads a configuration file, given by its octets or the reason why it cannot be read; without a
file the standard configuration holds. -/
def load : Option (Except String Bytes) → Except ReadError Config
  | none => .ok standard
  | some (.error problem) => .error (.file problem)
  | some (.ok bytes) =>
    if (Text.Utf8.decode? bytes).isSome then ofYaml bytes else .error (.file notText)

def toValue (c : Config) : Yaml.Value :=
  .mapping [(.text "fetchTimeout", .text c.fetchTimeout.text),
    (.text "retryInterval", .text c.retryInterval.text), (.text "overlay", c.overlay.toValue)]

def toYaml (c : Config) : Except Yaml.WriteFault String := c.toValue.write

end Config
end BundleInstaller
