import BundleInstaller.Operator.Execute

/-!
# The program

`main` reads its arguments and its environment, and answers what a command asks for.  It has no way
to a cluster: commands that need one end with an error.
-/

namespace BundleInstaller.Operator.Console

/-- Why a file cannot be read, in words. -/
def problemText : IO.Error → String
  | .noFileOrDirectory .. => "No such file or directory (os error 2)"
  | .permissionDenied .. => "Permission denied (os error 13)"
  | e => toString e

/-- The log level of a name; the standard one is that of information. -/
def levelOf (name? : Option String) : Level :=
  match name? with
  | some "error" => .error
  | some "warn" => .warn
  | some "debug" | some "trace" => .debug
  | _ => .info

def eventLine (format : LogFormat) (installation? : Option String) (e : Event) : String :=
  match format with
  | .json => (e.toJson installation?).text
  | .text =>
    let fields := e.fields.map fun (name, value) => " " ++ name ++ "=" ++ value.text
    e.level.text ++ " " ++ e.message ++ String.join fields

def handle (kept : Level) (format : LogFormat) : (c : Call) → IO c.Answer
  | .contents path => do
    try
      let contents ← IO.FS.readBinFile path
      return .ok contents.toList
    catch e => return .error (problemText e)
  | .connect => return .error (.invalidConfig "no cluster is configured")
  | .client _ => return .error "no client can be made"
  | .send _ => return .error "no cluster is configured"
  | .download _ => return .lost
  | .directory _ => return .error "no directory can be made"
  | .start _ _ => return .error "no program can be started"
  | .note installation? event => do
    if kept.covers event.level then IO.println (eventLine format installation? event)
  | .print text => do
    let out ← IO.getStdout
    out.putStr text
    out.flush
  | .next => return none
  | .later _ _ => return ()

/-- Prints why the program ends. -/
def explain : Exit → IO Unit
  | .success => return ()
  | .usage fault => IO.eprintln ("error: " ++ fault.message)
  | .failure e => do
    IO.eprintln (e.code ++ "\n\n  × " ++ e.message)
    match e.help with
    | some help => IO.eprintln ("  help: " ++ help)
    | none => return ()

/-- Starts the program with the words behind its name, and gives its exit code. -/
def start (words : List String) : IO UInt32 := do
  let environment : Environment :=
    ⟨← IO.getEnv "STEVEDORE_CONFIG", ← IO.getEnv "VERSION", 0⟩
  let format := match Arguments.read environment.config? words with
    | .ok (.execute a) => a.logFormat
    | _ => .text
  let kept := levelOf (← IO.getEnv "RUST_LOG")
  let exit ← (Operator.run environment words).run (handle kept format)
  explain exit
  return exit.exitCode.toUInt32

end BundleInstaller.Operator.Console

def main (words : List String) : IO UInt32 := BundleInstaller.Operator.Console.start words
