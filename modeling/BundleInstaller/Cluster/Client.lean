import BundleInstaller.Cluster.Call
import BundleInstaller.Cluster.Discovery
import BundleInstaller.Http.Message
import BundleInstaller.Json.Cursor

/-!
# A cluster behind a connection

`Client.answer` answers the calls of a cluster by sending requests to its API.  Every object is
read from the response as it is; an error of the API is told from other faults by its body, and a
body that is none is quoted in an error made up for it.  Something that is missing is no error where
it is looked for, provided that the API gives `NotFound` as its reason.
-/

namespace BundleInstaller.Cluster

open Http

/-! ## Refusals -/

namespace Refusal

structure Fields where
  status? : Option String
  words? : Option String
  reason? : Option String
  code? : Option Nat

section

variable {σ : Type} {m : Type → Type} [Monad m] [Decode.Format σ m]

def readCode (c : σ) : m Nat := do
  let n ← Decode.Format.int64 c
  if 0 ≤ n ∧ n < 65536 then return n.toNat
  else Decode.Format.fail c (.value (.int n) "u16")

def step (name : String) : Option (Fields → σ → m Fields) :=
  match name with
  | "status" =>
    some fun f c => do
      return { f with status? := some (← Decode.readOnce name f.status? Decode.readText c) }
  | "message" =>
    some fun f c => do
      return { f with words? := some (← Decode.readOnce name f.words? Decode.readText c) }
  | "reason" =>
    some fun f c => do
      return { f with reason? := some (← Decode.readOnce name f.reason? Decode.readText c) }
  | "code" =>
    some fun f c => do return { f with code? := some (← Decode.readOnce name f.code? readCode c) }
  | _ => none

def ofFields (f : Fields) : Except Decode.Mismatch Refusal := do
  return ⟨← Decode.required "status" f.status?, f.words?.getD "", f.reason?.getD "",
    ← Decode.required "code" f.code?⟩

def read (c : σ) : m Refusal :=
  Decode.Format.record
    (.named "ErrorResponse"
      [("status", false), ("message", true), ("reason", true), ("code", false)])
    ⟨none, none, none, none⟩ step ofFields c

end

/-- The reason that is given for a body which is no refusal. -/
def unreadable : String := "Failed to parse error data"

/-- The reason that the API gives for what is missing. -/
def missing : String := "NotFound"

/-- The refusal that a response with this status and text stands for. -/
def ofResponse (status : Nat) (text : String) : Refusal :=
  match Json.readText read text with
  | .ok refusal => refusal
  | .error _ => ⟨statusText status, Text.quoted text, unreadable, status⟩

end Refusal

namespace Client

/-! ## Requests -/

/-- What an exchange with the API gives. -/
abbrev Outcome (α : Type) := Except ClientFault α

/-- The text of a response, unless it is a refusal. -/
def textOf (response : Response) : Outcome String :=
  match Text.Utf8.decode response.body with
  | .error fault => .error (.encoding fault.message)
  | .ok text =>
    if isFailure response.status then .error (.refused (.ofResponse response.status text))
    else .ok text

/-- Sends a request and gives the text of the response. -/
def send (request : Request) : Exchange (Outcome String) := do
  match ← Program.call request with
  | .error problem => return .error (.transport problem)
  | .ok response => return textOf response

/-- A request without a body. -/
def getRequest (target : Target) : Request := ⟨"GET", target, none, []⟩

def receive {α : Type} (read : Json.Cursor → Json.Read α) (text : Outcome String) : Outcome α :=
  match text with
  | .error fault => .error fault
  | .ok text =>
    match Json.readText read text with
    | .ok a => .ok a
    | .error fault => .error (.answer fault.message)

def badTarget (e : TargetError) : ClientFault := .request ("failed to build request: " ++ e.message)

def noName : ClientFault := .request "failed to validate request: A non-empty name is required"

/-- Sends a request to a path, and reads a value from the response. -/
def exchange {α : Type} (method path : String) (contentType? : Option String) (body : Bytes)
    (read : Json.Cursor → Json.Read α) : Exchange (Outcome α) := do
  match Target.read path with
  | .error e => return .error (badTarget e)
  | .ok target => return receive read (← send ⟨method, target, contentType?, body⟩)

/-- Looks for something with a name; the answer is `none` if it is missing. -/
def find {α : Type} (collection name : String) (read : Json.Cursor → Json.Read α) :
    Exchange (Outcome (Option α)) := do
  if name.isEmpty then return .error noName
  match ← exchange "GET" (collection ++ "/" ++ name) none [] read with
  | .ok a => return .ok (some a)
  | .error (.refused refusal) =>
    return if refusal.reason = Refusal.missing then .ok none else .error (.refused refusal)
  | .error fault => return .error fault

/-! ## Discovery -/

/-- Reads what stands at a path that the cluster named. -/
def look {α : Type} (path : String) (read : Json.Cursor → Json.Read α) : Exchange (Outcome α) := do
  match Target.read path with
  | .error e => return .error (.path e.message)
  | .ok target => return receive read (← send (getRequest target))

/-- Reads the resources of versions, each given by its path and its name. -/
def lookVersions : List (String × String) → Exchange (Outcome (List (String × ResourceList)))
  | [] => return .ok []
  | (path, version) :: rest => do
    match ← look path ResourceList.read with
    | .error fault => return .error fault
    | .ok resources =>
      match ← lookVersions rest with
      | .error fault => return .error fault
      | .ok lists => return .ok ((version, resources) :: lists)

def lookGroup (name : String) (versions : List (String × String)) :
    Exchange (Outcome (List Collection)) := do
  if versions.isEmpty then return .error (.emptyGroup name)
  match ← lookVersions versions with
  | .error fault => return .error fault
  | .ok lists => return .ok (groupCollections lists)

/-- Reads the collections of groups; of two groups with one name the last one counts. -/
def lookGroups : List Group → Exchange (Outcome (List (String × List Collection)))
  | [] => return .ok []
  | g :: rest => do
    let versions := g.versions.map fun v => ("/apis/" ++ v.groupVersion, v.version)
    match ← lookGroup g.name versions with
    | .error fault => return .error fault
    | .ok collections =>
      match ← lookGroups rest with
      | .error fault => return .error fault
      | .ok others =>
        let isReplaced := others.any (·.1 == g.name)
        return .ok (if isReplaced then others else (g.name, collections) :: others)

def coreGroup : String := ""

/-- Finds out what is served: all named groups, and the core group last. -/
def discover : Exchange (Outcome Catalog) := do
  match ← look "/apis" readGroups with
  | .error fault => return .error fault
  | .ok groups =>
    match ← lookGroups groups with
    | .error fault => return .error fault
    | .ok named =>
      match ← look "/api" readVersions with
      | .error fault => return .error fault
      | .ok versions =>
        match ← lookGroup coreGroup (versions.map fun v => ("/api/" ++ v, v)) with
        | .error fault => return .error fault
        | .ok core =>
          let others := (named.filter (·.1 != coreGroup)).flatMap (·.2)
          return .ok (.ofList (others ++ core))

/-! ## Calls -/

def create (place : Collection) (space : Option String) (o : Object) : Exchange (Outcome Object) :=
  exchange "POST" (place.path space ++ "?") (some "application/json") o.toJson.bytes Object.read

/-- Posts octets to a path as they are. -/
def post (path : String) (body : Bytes) : Exchange (Except ClusterError Unit) := do
  match Target.read path with
  | .error e => return .error (.invalidConfig ("bad request for " ++ path ++ ": " ++ e.message))
  | .ok target =>
    match ← send ⟨"POST", target, some "application/yaml", body⟩ with
    | .error fault => return .error (.client fault)
    | .ok _ => return .ok ()

/-- What is sent to write the status of an installation: the status, and the version that the
installation was read at. -/
def statusPatch (i : Installation) : Json :=
  .ofEntries [("metadata", .ofEntries [("resourceVersion", .ofText? i.metadata.resourceVersion?)]),
    ("status", i.status.toJson)]

def writeStatus (i : Installation) : Exchange (Outcome Installation) := do
  let name := i.anyName
  if name.isEmpty then return .error noName
  exchange "PATCH" (Installation.collectionPath ++ "/" ++ name ++ "/status?")
    (some "application/merge-patch+json") (statusPatch i).bytes Installation.read

def toAnswer {α : Type} (exchange : Exchange (Outcome α)) : Exchange (Except ClusterError α) := do
  match ← exchange with
  | .ok a => return .ok a
  | .error fault => return .error (.client fault)

def answer : (c : Call) → Exchange c.Answer
  | .discover => toAnswer discover
  | .get place space name => toAnswer (find (place.path space) name Object.read)
  | .create place space o => toAnswer (create place space o)
  | .post path body => post path body
  | .readInstallation name =>
    toAnswer (find Installation.collectionPath name Installation.read)
  | .writeStatus i => toAnswer (writeStatus i)

/-! ## Lists of installations -/

/-- Reads a list of installations, of which only the items are kept. -/
def readList (c : Json.Cursor) : Json.Read (List Installation) :=
  Decode.Format.record (.keyed "struct ObjectList") none
    (fun name =>
      match name with
      | "items" =>
        some fun items c => do
          let read := Decode.Format.list "a sequence" Installation.read
          return some (← Decode.readOnce name items read c)
      | _ => none)
    (Decode.required "items") c

/-- Lists installations, `limit` at most at a time. -/
def listInstallations (limit : Nat) : Exchange (Except ClusterError (List Installation)) :=
  toAnswer
    (exchange "GET" (Installation.collectionPath ++ "?&limit=" ++ toString limit) none [] readList)

end Client
end BundleInstaller.Cluster
