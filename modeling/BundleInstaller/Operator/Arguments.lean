/-!
# Arguments of the command line

`Arguments.read` makes an `Invocation` of the words that stand behind the name of the program.
There are two levels: words before the command, and words behind it.  The options `--config` and
`--log-format` may stand on both; the one behind the command counts.  A word `--` ends the options
of its level.
-/

namespace BundleInstaller.Operator

inductive LogFormat where
  | text
  | json
  deriving Repr, DecidableEq

inductive Command where
  | run
  | reconcile (name : String)
  | crd
  deriving Repr, DecidableEq

/-- What the words say. -/
structure Arguments where
  command : Command
  config? : Option String
  logFormat : LogFormat
  deriving Repr, DecidableEq

/-- What the program is started for. -/
inductive Invocation where
  | execute (arguments : Arguments)
  | version (program : String)
  | help
  deriving Repr, DecidableEq

/-- What may be wrong with the words. -/
inductive Usage where
  | unexpected (word : String)
  | value (option : String)
  | repeated (option : String)
  | missing (what : String)
  deriving Repr, DecidableEq

def Usage.message : Usage → String
  | unexpected word => "unexpected argument '" ++ word ++ "'"
  | value option => "invalid value for '" ++ option ++ "'"
  | repeated option => "the argument '" ++ option ++ "' cannot be used multiple times"
  | missing what => what ++ " is missing"

/-- An option that takes a value. -/
inductive Setting where
  | config
  | logFormat
  deriving Repr, DecidableEq

namespace Setting

def text : Setting → String
  | config => "--config"
  | logFormat => "--log-format"

def named? (name : String) : Option Setting := [config, logFormat].find? (·.text == name)

end Setting

/-- The options of one level. -/
structure Options where
  config? : Option String
  logFormat? : Option LogFormat
  deriving Repr, DecidableEq

namespace Options

def none : Options := ⟨Option.none, Option.none⟩

def set (o : Options) (setting : Setting) (value : String) : Except Usage Options :=
  match setting with
  | .config =>
    if value.isEmpty then .error (.value setting.text)
    else if o.config?.isSome then .error (.repeated setting.text)
    else .ok { o with config? := some value }
  | .logFormat => do
    let format ← match value with
      | "text" => .ok LogFormat.text
      | "json" => .ok LogFormat.json
      | _ => .error (.value setting.text)
    if o.logFormat?.isSome then throw (.repeated setting.text)
    return { o with logFormat? := some format }

/-- Options of both levels; those behind the command count. -/
def orElse (inner outer : Options) : Options :=
  ⟨inner.config? <|> outer.config?, inner.logFormat? <|> outer.logFormat?⟩

end Options

/-- What a word is. -/
inductive Word where
  | dashes
  | setting (setting : Setting) (value? : Option String)
  | help
  | version
  | unknown
  | plain
  deriving Repr, DecidableEq

/-- What a word is where options may stand. -/
def Word.of (word : String) : Word :=
  match word.toList with
  | ['-', '-'] => .dashes
  | '-' :: '-' :: rest =>
    let (name, value) := rest.span (· != '=')
    let value? := if value.isEmpty then none else some (String.ofList (value.drop 1))
    match Setting.named? (String.ofList ('-' :: '-' :: name)), value? with
    | some option, value? => .setting option value?
    | none, none =>
      if name = "help".toList then .help
      else if name = "version".toList then .version
      else .unknown
    | none, some _ => .unknown
  | '-' :: 'h' :: _ => .help
  | '-' :: 'V' :: _ => .version
  | '-' :: _ :: _ => .unknown
  | _ => .plain

/-- How far one level is read. -/
structure Progress where
  options : Options
  /-- An option whose value has been read, but not set yet, or has still to come. -/
  pending : Option (Setting × Option String)

namespace Progress

def start : Progress := ⟨.none, none⟩

/-- Sets the option that is pending. -/
def settle (p : Progress) : Except Usage Progress :=
  match p.pending with
  | none => .ok p
  | some (setting, none) => .error (.value setting.text)
  | some (setting, some value) => do return ⟨← p.options.set setting value, none⟩

/-- Whether the next word is a value. -/
def awaitsValue (p : Progress) : Bool :=
  match p.pending with
  | some (_, none) => true
  | _ => false

/-- Takes a word as the value that is awaited. -/
def give (p : Progress) (word : String) : Progress :=
  { p with pending := p.pending.map fun (setting, _) => (setting, some word) }

def set (p : Progress) (setting : Setting) : Option String → Except Usage Progress
  | some value => do return ⟨← (← p.settle).options.set setting value, none⟩
  | none => do return ⟨(← p.settle).options, some (setting, none)⟩

end Progress

/-- What reading the words behind a command ends with. -/
inductive Reading where
  | shows (invocation : Invocation)
  | done (progress : Progress) (names : List String)

/-- Reads the words behind a command that takes at most `room` names. -/
def readInner (program : String) :
    Nat → Progress → List String → List String → Except Usage Reading
  | _, p, names, [] => do return .done (← p.settle) names.reverse
  | room, p, names, word :: rest => do
    match Word.of word with
    | .dashes =>
      let names := names.reverse ++ rest
      match rest.drop room with
      | extra :: _ => throw (.unexpected extra)
      | [] => return .done (← p.settle) names
    | .setting setting value? => readInner program room (← p.set setting value?) names rest
    | .help =>
      let _ ← p.settle
      return .shows .help
    | .version =>
      let _ ← p.settle
      return .shows (.version program)
    | .unknown => throw (.unexpected word)
    | .plain =>
      if p.awaitsValue then readInner program room (p.give word) names rest
      else match room with
        | 0 => throw (.unexpected word)
        | room + 1 => readInner program room (← p.settle) (word :: names) rest

def programName : String := "stevedore-operator"

/-- The commands, each with the number of names that it takes. -/
def commands : List (String × Nat) := [("run", 0), ("reconcile", 1), ("crd", 0)]

/-- Reads the words behind the word `help`: a command to be explained. -/
def readHelp : List String → Except Usage Invocation
  | [] | ["help"] => .ok .help
  | word :: rest =>
    match commands.lookup word, rest with
    | some _, [] => .ok .help
    | some _, extra :: _ => .error (.unexpected extra)
    | none, _ => .error (.unexpected word)

def commandOf (command : String) (names : List String) : Except Usage Command :=
  match command, names with
  | "run", _ => .ok .run
  | "crd", _ => .ok .crd
  | _, name :: _ => .ok (.reconcile name)
  | _, [] => .error (.missing "<NAME>")

/-- Reads the words behind the command `command`. -/
def readCommand (environment : Option String) (outer : Progress) (command : String) (room : Nat)
    (words : List String) : Except Usage Invocation := do
  match ← readInner (programName ++ "-" ++ command) room .start [] words with
  | .shows invocation => return invocation
  | .done inner names =>
    let what ← commandOf command names
    let outer ← outer.settle
    let options := inner.options.orElse outer.options
    return .execute ⟨what, options.config? <|> environment, options.logFormat?.getD .text⟩

/-- Reads the words before the command and those behind it. -/
def readOuter (environment : Option String) :
    Progress → List String → Except Usage Invocation
  | p, [] => do
    let _ ← p.settle
    throw (.missing "a command")
  | p, word :: rest => do
    match Word.of word with
    | .dashes =>
      let _ ← p.settle
      throw (.missing "a command")
    | .setting setting value? => readOuter environment (← p.set setting value?) rest
    | .help =>
      let _ ← p.settle
      return .help
    | .version =>
      let _ ← p.settle
      return .version programName
    | .unknown => throw (.unexpected word)
    | .plain =>
      if p.awaitsValue then readOuter environment (p.give word) rest
      else if word = "help" then readHelp rest
      else match commands.lookup word with
        | some room => readCommand environment p word room rest
        | none => throw (.unexpected word)

/-- Reads the words that stand behind the name of the program; `environment` is the configuration
file that holds where no option names one. -/
def Arguments.read (environment : Option String) (words : List String) :
    Except Usage Invocation := readOuter environment .start words

end BundleInstaller.Operator
