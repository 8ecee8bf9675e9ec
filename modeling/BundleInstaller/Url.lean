import BundleInstaller.Url.Host
import BundleInstaller.Url.Path

/-!
# URLs

A `Url` is read by `Url.parse` and written in its normal form by `Url.text`.  Six schemes have
rules of their own: they need a host, accept backslashes for slashes, and five of them have a
default port, which is left out.  The sixth is for files and may do without a host.
-/

namespace BundleInstaller

/-- What rules a scheme has. -/
inductive Url.Rules where
  | special
  | file
  | other
  deriving Repr, DecidableEq

/-- A URL.  All texts are encoded as they are written. -/
structure Url where
  scheme : String
  /-- User name and password, the `@` behind them among them. -/
  userinfo : String
  hasAuthority : Bool
  host? : Option Url.Host
  port? : Option Nat
  path : String
  query? : Option String
  fragment? : Option String
  deriving Repr, DecidableEq

namespace Url

def Rules.ofScheme : String → Rules
  | "http" | "https" | "ws" | "wss" | "ftp" => special
  | "file" => file
  | _ => other

def defaultPort? : String → Option Nat
  | "http" | "ws" => some 80
  | "https" | "wss" => some 443
  | "ftp" => some 21
  | _ => none

def hostText? (u : Url) : Option String := u.host?.map fun h => String.ofList h.text

/-- A URL in its normal form. -/
def text (u : Url) : String :=
  let authority :=
    if u.hasAuthority then
      let port := match u.port? with
        | some n => ":" ++ toString n
        | none => ""
      "//" ++ u.userinfo ++ u.hostText?.getD "" ++ port
    else if u.path.startsWith "//" then "/."
    else ""
  let part (mark : String) (s : Option String) : String := (s.map (mark ++ ·)).getD ""
  u.scheme ++ ":" ++ authority ++ u.path ++ part "?" u.query? ++ part "#" u.fragment?

/-! ## Reading -/

/-- Whether a character may stand in a scheme behind its first letter. -/
def isSchemeChar (c : Char) : Bool := c.isAlphanum || c == '+' || c == '-' || c == '.'

/-- What is read: no blanks and controls at either end, no tabs and line ends anywhere. -/
def clean (s : List Char) : List Char :=
  let isBlank (c : Char) : Bool := c.toNat ≤ 0x20
  let trimmed := ((s.dropWhile isBlank).reverse.dropWhile isBlank).reverse
  trimmed.filter fun c => !(c == '\t' || c == '\n' || c == '\r')

/-- The scheme in lower case, and what stands behind its colon. -/
def scheme? (s : List Char) : Option (String × List Char) :=
  match s.span isSchemeChar with
  | (c :: name, ':' :: rest) =>
    if c.isAlpha then some (String.ofList ((c :: name).map Char.toLower), rest) else none
  | _ => none

/-- Whether a character ends the part of a URL with user, host and port. -/
def endsAuthority (special : Bool) (c : Char) : Bool :=
  c == '/' || c == '?' || c == '#' || (special && c == '\\')

/-- Cuts off what ends with the last `@`, if there is one. -/
def cutUser (s : List Char) : Option (List Char) × List Char :=
  match s.reverse.span (· != '@') with
  | (_, []) => (none, s)
  | (back, _ :: front) => (some front.reverse, back.reverse)

/-- User name and password as they are written; nothing, if both are empty. -/
def userText (user : List Char) : List Char :=
  let (name, password) := user.span (· != ':')
  let password := password.drop 1
  if name.isEmpty ∧ password.isEmpty then []
  else
    percentEncode inUserinfo name ++
      (if password.isEmpty then [] else ':' :: percentEncode inUserinfo password) ++ ['@']

/-- Reads a port; one without digits and the default port of the scheme are left out.  The answer
is the port and what stands behind it. -/
def readPort (scheme : String) (s : List Char) : Except UrlError (Option Nat × List Char) := do
  let (digits, rest) := s.span Char.isDigit
  let n ← digits.foldlM (fun n c =>
    let n := n * 10 + (c.toNat - 48)
    if n < 65536 then Except.ok n else .error .port) 0
  match rest with
  | c :: _ => if !(c == '/' || c == '\\' || c == '?' || c == '#') then throw .port
  | [] => pure ()
  return (if digits.isEmpty || defaultPort? scheme = some n then none else some n, rest)

/-- Cuts a host off what follows it: a colon outside of brackets, or the end of the authority. -/
def cutHost (special : Bool) (inBrackets : Bool) : List Char → List Char × List Char
  | [] => ([], [])
  | c :: rest =>
    if (c == ':' && !inBrackets) || endsAuthority special c then ([], c :: rest)
    else
      let inside := if c == '[' then true else if c == ']' then false else inBrackets
      let (host, rest) := cutHost special inside rest
      (c :: host, rest)

/-- Reads what may stand behind a path: a query and a fragment. -/
def readEnd (special : Bool) (s : List Char) : Option String × Option String :=
  let fragment (s : List Char) : Option String :=
    match s with
    | '#' :: rest => some (String.ofList (percentEncode inFragment rest))
    | _ => none
  match s with
  | '?' :: rest =>
    let (query, rest) := rest.span (· != '#')
    (some (String.ofList (percentEncode (inQuery special) query)), fragment rest)
  | _ => (none, fragment s)

/-- Reads a path that follows a host, and what stands behind it. -/
def readPath (special : Bool) (s : List Char) : String × Option String × Option String :=
  let segments (s : List Char) : String × Option String × Option String :=
    let (segments, rest) := Path.readSegments special [] [] s
    (String.ofList (Path.text segments), readEnd special rest)
  match s with
  | '/' :: rest => segments rest
  | '\\' :: rest => if special then segments rest else segments ('\\' :: rest)
  | _ =>
    if special ∨ (s.head?.any fun c => c != '?' && c != '#') then segments s
    else ("", readEnd special s)

/-- Reads what follows the two slashes before a host. -/
def readAuthority (scheme : String) (special : Bool) (s : List Char) : Except UrlError Url := do
  let (authority, _) := s.span (!endsAuthority special ·)
  let (user?, _) := cutUser authority
  let rest := match user? with
    | some user => s.drop (user.length + 1)
    | none => s
  let ends := rest.head?.any (endsAuthority special)
  if user? = some [] ∧ ends then throw .emptyHost
  let userinfo := userText (user?.getD [])
  let (hostPart, rest) := cutHost special false rest
  if special ∧ hostPart.isEmpty then throw .emptyHost
  let host ← if special then Host.ofSpecial hostPart else Host.ofOpaque hostPart
  let isEmpty := host = .name []
  if isEmpty ∧ rest.head? = some ':' then throw .emptyHost
  let (port?, rest) ← match rest with
    | ':' :: rest => readPort scheme rest
    | _ => pure (none, rest)
  if isEmpty ∧ !userinfo.isEmpty then throw .emptyHost
  let (path, query?, fragment?) := readPath special rest
  return ⟨scheme, String.ofList userinfo, true, if isEmpty then none else some host, port?,
    path, query?, fragment?⟩

/-- Reads what follows the scheme of a file.  Slashes at the front of the path count as one. -/
def readFile (s : List Char) : Except UrlError Url := do
  let isSlash (c : Char) : Bool := c == '/' || c == '\\'
  let (host?, rest) ← match s with
    | a :: b :: rest =>
      if isSlash a && isSlash b then do
        let (hostPart, after) := rest.span (!endsAuthority true ·)
        if Path.isDrive hostPart then pure (none, rest)
        else if hostPart.isEmpty then pure (none, after)
        else
          let host ← Host.ofSpecial hostPart
          pure (if host = .name "localhost".toList then none else some host, after)
      else pure (none, s)
    | _ => pure (none, s)
  let (path, query?, fragment?) := readPath true rest
  let path := "/" ++ (path.dropWhile (· == '/')).toString
  return ⟨"file", "", true, host?, none, path, query?, fragment?⟩

/-- Reads what follows a scheme without rules of its own. -/
def readOther (scheme : String) (s : List Char) : Except UrlError Url :=
  let path (path : String) (ending : Option String × Option String) : Url :=
    ⟨scheme, "", false, none, none, path, ending.1, ending.2⟩
  match s with
  | '/' :: '/' :: rest => readAuthority scheme false rest
  | '/' :: rest =>
    let (segments, rest) := Path.readSegments false [] [] rest
    .ok (path (String.ofList (Path.text segments)) (readEnd false rest))
  | _ =>
    let (opaquePath, rest) := s.span fun c => c != '?' && c != '#'
    .ok (path (String.ofList (percentEncode isControl opaquePath)) (readEnd false rest))

def parse (s : String) : Except UrlError Url :=
  match scheme? (clean s.toList) with
  | none => .error .relative
  | some (scheme, rest) =>
    match Rules.ofScheme scheme with
    | .special => readAuthority scheme true (rest.dropWhile fun c => c == '/' || c == '\\')
    | .file => readFile rest
    | .other => readOther scheme rest

/-! ## Relative URLs -/

/-- The URL that a text without a scheme stands for in a document at `base`.  The scheme of `base`
has rules of its own, and needs a host. -/
def relative (base : Url) (s : List Char) : Except UrlError Url :=
  let isSlash (c : Char) : Bool := c == '/' || c == '\\'
  let atPath (path : String × Option String × Option String) : Url :=
    { base with path := path.1, query? := path.2.1, fragment? := path.2.2 }
  match s with
  | [] => .ok { base with fragment? := none }
  | c :: rest =>
    if c == '#' then .ok { base with fragment? := (readEnd true s).2 }
    else if c == '?' then .ok (atPath (base.path, readEnd true s))
    else if isSlash c then
      if rest.head?.any isSlash then readAuthority base.scheme true (rest.dropWhile isSlash)
      else .ok (atPath (readPath true s))
    else
      let folder := ((Text.splitOn '/' base.path.toList).drop 1).dropLast
      let (segments, rest) := Path.readSegments true folder.reverse [] s
      .ok (atPath (String.ofList (Path.text segments), readEnd true rest))

/-- The URL that a text stands for in a document at `base`, whose scheme has rules of its own and
needs a host.  A text with the same scheme is relative too, if no two slashes follow it. -/
def join (base : Url) (s : String) : Except UrlError Url :=
  let cs := clean s.toList
  match scheme? cs with
  | none => relative base cs
  | some (scheme, rest) =>
    let slashes := rest.takeWhile fun c => c == '/' || c == '\\'
    if scheme = base.scheme ∧ slashes.length < 2 then relative base rest else parse s

/-- A URL without user name and password, which are left in where the name is no text. -/
def withoutUser (u : Url) : Url :=
  let name := u.userinfo.toList.takeWhile fun c => c != ':' && c != '@'
  if (Text.Utf8.decode? (percentDecode (Text.Utf8.encode name))).isSome then
    { u with userinfo := "" }
  else u

end Url
end BundleInstaller
