import BundleInstaller.Event
import BundleInstaller.Fetch.Validate
import BundleInstaller.Http.Target
import BundleInstaller.Program

/-!
# Bundles from servers

`Fetch.download` fetches a bundle with one request, and one more for each time that a server sends
it elsewhere.  Only the final response counts, and a bundle arrives whole or not at all.
-/

namespace BundleInstaller.Fetch

/-- What arrived of the body of a response. -/
inductive Body where
  | whole (bytes : Bytes)
  | cut
  | late
  deriving Repr, DecidableEq

/-- What came of a request. -/
inductive Reply where
  | response (status : Nat) (location? : Option Bytes) (body : Body)
  | lost
  | late
  deriving Repr, DecidableEq

/-- What fetching asks for. -/
inductive Call where
  | request (url : Url)
  | note (event : Event)

abbrev Call.Answer : Call → Type
  | request _ => Reply
  | note _ => Unit

/-- What to do to fetch something. -/
abbrev Download (α : Type) := Program Call Call.Answer α

def ask (c : Call) : Download c.Answer := Program.call c

/-- How often a request may be sent elsewhere. -/
def maxRedirects : Nat := 10

/-- Whether a status sends the request elsewhere. -/
def redirects (status : Nat) : Bool := [301, 302, 303, 307, 308].contains status

def isSuccess (status : Nat) : Bool := 200 ≤ status && status < 300

/-- Whether a URL can be requested. -/
def canRequest (u : Url) : Bool :=
  (u.scheme == "http" || u.scheme == "https") && u.host?.isSome &&
    (match Http.Target.read u.withoutUser.text with
    | .ok _ => true
    | .error _ => false)

/-- Where a response sends the request, if its location is a URL that can be written in a request. -/
def location? (u : Url) (location : Option Bytes) : Option Url := do
  let s ← Text.Utf8.decode? (← location)
  match u.join s with
  | .ok next => match Http.Target.read next.text with
    | .ok _ => some next
    | .error _ => none
  | .error _ => none

/-- The words for a request that failed, with the URL that was asked for last. -/
def words (url problem : String) : FetchError :=
  .network ("unable to get http response from " ++ url ++ ": " ++ problem)

def wordsFor (url problem : String) (u : Url) : FetchError :=
  words url (problem ++ " for url (" ++ u.withoutUser.text ++ ")")

/-- The body of the final response. -/
def accept (limit : Duration) (url : String) (status : Nat) :
    Body → Download (Except FetchError Bytes)
  | body =>
    if !isSuccess status then return .error (.refused status ("Request to " ++ url ++ " failed"))
    else match body with
      | .late => return .error (.timeout url limit)
      | .cut => return .error (words url "error decoding response body")
      | .whole bytes => do
        ask (.note ⟨.debug, "Fetched bundle", [("url", .str url),
          ("bytes", .int bytes.length)]⟩)
        return .ok bytes

/-- Requests a URL and follows at most `n` redirects. -/
def follow (limit : Duration) (url : String) : Nat → Url → Download (Except FetchError Bytes)
  | n, u => do
    if !canRequest u then return .error (wordsFor url "builder error" u)
    match ← ask (.request u) with
    | .lost => return .error (wordsFor url "error sending request" u)
    | .late => return .error (.timeout url limit)
    | .response status location body =>
      match if redirects status then location? u location else none with
      | none => accept limit url status body
      | some next =>
        match n with
        | 0 => return .error (wordsFor url "error following redirect" u)
        | n + 1 => follow limit url n next

/-- Fetches the bundle at a URL within the time limit. -/
def download (limit : Duration) (url : String) : Download (Except FetchError Bytes) := do
  match validate url with
  | .error e => return .error e
  | .ok u =>
    ask (.note (.ofTexts .debug "Fetching bundle" [("url", u.text),
      ("timeout", limit.brief)]))
    follow limit url maxRedirects u

end BundleInstaller.Fetch
