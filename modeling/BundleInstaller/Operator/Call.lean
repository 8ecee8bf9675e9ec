import BundleInstaller.Cluster.Client
import BundleInstaller.Fetch.Source
import BundleInstaller.Install.Reconcile

/-!
# What a command asks for

A `Job` is what a command does: it asks for files, connections and other programs, one after
another.  `Job.install` carries out an attempt to install something in these terms: it fetches from
servers, builds overlays with another program and talks to the cluster by requests.
-/

namespace BundleInstaller.Operator

/-- What a command asks for. -/
inductive Call where
  | contents (path : String)
  | connect
  /-- A client for servers of bundles, whose requests give up after some time. -/
  | client (timeout : Duration)
  | send (request : Http.Request)
  | download (url : Url)
  | directory (descriptor : Bytes)
  | start (program directory : String)
  | note (installation? : Option String) (event : Event)
  | print (text : String)
  /-- Waits for an installation that has changed or is due again; there is none once the program is
  asked to end. -/
  | next
  | later (name : String) (after : Duration)

abbrev Call.Answer : Call → Type
  | contents _ => Except String Bytes
  | connect => Except ClusterError Unit
  | client _ => Except String Unit
  | send request => Http.Answer request
  | download _ => Fetch.Reply
  | directory _ => Except String String
  | start _ _ => Except String Overlay.Run
  | note _ _ => Unit
  | print _ => Unit
  | next => Option String
  | later _ _ => Unit

abbrev Job (α : Type) := Program Call Call.Answer α

def ask (c : Call) : Job c.Answer := Program.call c

/-- Notes an event that belongs to no installation. -/
def note (level : Level) (message : String) (fields : List (String × String)) : Job Unit :=
  ask (.note none (.ofTexts level message fields))

namespace Job

/-- Carries out what fetching asks for. -/
def fetch (name : String) : (c : Fetch.Call) → Job c.Answer
  | .request url => ask (.download url)
  | .note event => ask (.note (some name) event)

def render (name : String) : (c : Overlay.Call) → Job c.Answer
  | .directory descriptor => ask (.directory descriptor)
  | .start program directory => ask (.start program directory)
  | .note event => ask (.note (some name) event)

def exchange {α : Type} (e : Http.Exchange α) : Job α := e.run fun request => ask (.send request)

/-- Carries out what an attempt for the installation `name` asks for. -/
def install (config : Config) (name : String) : (c : Install.Call) → Job c.Answer
  | .fetch url => (Fetch.download config.fetchTimeout url).run (fetch name)
  | .build descriptor =>
    (Overlay.render config.overlay.kustomizeBinary descriptor).run (render name)
  | .cluster call => exchange (Cluster.Client.answer call)
  | .note event => ask (.note (some name) event)

def reconcile (config : Config) (version : Option String) (name : String) :
    Job (Except InstallError Install.Outcome) :=
  (Install.reconcile config version name).run (install config name)

end Job
end BundleInstaller.Operator
