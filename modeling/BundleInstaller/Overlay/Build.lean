import BundleInstaller.Event
import BundleInstaller.Program
import BundleInstaller.Text.Blank
import BundleInstaller.Text.Utf8

/-!
# Building an overlay

An overlay is built by another program, which gets a directory that holds the descriptor.  What it
writes is the rendered overlay, if it ends well.  `Overlay.render` makes the directory and has it
built.
-/

namespace BundleInstaller.Overlay

/-- Why an overlay could not be built. -/
inductive BuildError where
  | materialize (problem : String)
  | spawn (program problem : String)
  | failed (ending complaint : String)
  deriving Repr, DecidableEq

def BuildError.message : BuildError → String
  | materialize problem => "unable to materialize overlay: " ++ problem
  | spawn program problem => "unable to run '" ++ program ++ "': " ++ problem
  | failed ending complaint => "overlay build failed (" ++ ending ++ "): " ++ complaint

/-- How a program ended. -/
inductive Ending where
  | exited (code : Nat)
  | killed (signal : Nat)
  deriving Repr, DecidableEq

/-- The names of the signals, from the first on. -/
def signalNames : List String :=
  ["SIGHUP", "SIGINT", "SIGQUIT", "SIGILL", "SIGTRAP", "SIGABRT", "SIGBUS", "SIGFPE", "SIGKILL",
    "SIGUSR1", "SIGSEGV", "SIGUSR2", "SIGPIPE", "SIGALRM", "SIGTERM", "SIGSTKFLT", "SIGCHLD",
    "SIGCONT", "SIGSTOP", "SIGTSTP", "SIGTTIN", "SIGTTOU", "SIGURG", "SIGXCPU", "SIGXFSZ",
    "SIGVTALRM", "SIGPROF", "SIGWINCH", "SIGIO", "SIGPWR", "SIGSYS"]

def Ending.text : Ending → String
  | exited code => "exit status: " ++ toString code
  | killed signal =>
    let name := match signalNames[signal - 1]? with
      | some name => " (" ++ name ++ ")"
      | none => ""
    "signal: " ++ toString signal ++ name

/-- What a program that was started left behind. -/
structure Run where
  ending : Ending
  output : Bytes
  complaint : Bytes
  deriving Repr, DecidableEq

/-- The rendered overlay: what `program` wrote, or why there is none. -/
def rendered (program : String) : Except String Run → Except BuildError Bytes
  | .error problem => .error (.spawn program problem)
  | .ok run =>
    if run.ending = .exited 0 then .ok run.output
    else
      let complaint := Text.trim (Text.Utf8.decodeLossy run.complaint)
      .error (.failed run.ending.text (String.ofList complaint))

/-! ## Rendering -/

/-- What rendering asks for. -/
inductive Call where
  /-- A new directory that holds nothing but the descriptor. -/
  | directory (descriptor : Bytes)
  /-- Has the program build what is in the directory. -/
  | start (program directory : String)
  | note (event : Event)

/-- What a call is answered with; in place of a directory or a run there may be a problem. -/
abbrev Call.Answer : Call → Type
  | directory _ => Except String String
  | start _ _ => Except String Run
  | note _ => Unit

/-- What to do to render an overlay. -/
abbrev Rendering (α : Type) := Program Call Call.Answer α

def ask (c : Call) : Rendering c.Answer := Program.call c

/-- Renders the overlay of a descriptor with a program. -/
def render (program : String) (descriptor : Bytes) : Rendering (Except BuildError Bytes) := do
  match ← ask (.directory descriptor) with
  | .error problem => return .error (.materialize problem)
  | .ok directory =>
    ask (.note (.ofTexts .debug "Materialized overlay" [("dir", directory)]))
    match rendered program (← ask (.start program directory)) with
    | .error e => return .error e
    | .ok bytes =>
      ask (.note ⟨.debug, "Rendered overlay", [("bytes", .int bytes.length)]⟩)
      return .ok bytes

end BundleInstaller.Overlay
