import BundleInstaller.Url.Domain

/-!
# Hosts

A host is a domain, an IPv4 address or an IPv6 address.  Schemes without rules of their own have
opaque hosts, which are kept as they are.
-/

namespace BundleInstaller

/-- Why a text is no URL. -/
inductive UrlError where
  | emptyHost
  | domain
  | opaqueHost
  | ipv4
  | ipv6
  | port
  /-- There is no scheme, and nothing that the URL is relative to. -/
  | relative
  deriving Repr, DecidableEq

def UrlError.message : UrlError → String
  | emptyHost => "empty host"
  | domain => "invalid international domain name"
  | opaqueHost => "invalid domain character"
  | ipv4 => "invalid IPv4 address"
  | ipv6 => "invalid IPv6 address"
  | port => "invalid port number"
  | relative => "relative URL without a base"

namespace Url

inductive Host where
  | name (text : List Char)
  | ipv4 (address : Nat)
  | ipv6 (pieces : List Nat)
  deriving Repr, DecidableEq

namespace Host

def text : Host → List Char
  | name text => text
  | ipv4 address => ipv4Text address
  | ipv6 pieces => '[' :: (ipv6Text pieces ++ [']'])

/-- Reads what stands behind an opening bracket. -/
def ofBracket (rest : List Char) : Except UrlError Host :=
  if rest.getLast? = some ']' then
    match ipv6? rest.dropLast with
    | some pieces => .ok (.ipv6 pieces)
    | none => .error .ipv6
  else .error .ipv6

/-- What may not stand in an opaque host. -/
def isForbidden (c : Char) : Bool := "\x00\t\n\r #/:<>?@[\\]^|".toList.contains c

/-- Reads the host of a URL whose scheme has no rules of its own. -/
def ofOpaque : List Char → Except UrlError Host
  | '[' :: rest => ofBracket rest
  | host =>
    if host.any isForbidden then .error .opaqueHost
    else .ok (.name (percentEncode isControl host))

/-- Reads the host of a URL whose scheme has rules of its own. -/
def ofSpecial : List Char → Except UrlError Host
  | '[' :: rest => ofBracket rest
  | host => do
    let some decoded := Text.Utf8.decode? (percentDecode (Text.Utf8.encode host))
      | throw .domain
    let some domain := Domain.toAscii decoded.toList | throw .domain
    if domain.isEmpty then throw .emptyHost
    if endsInNumber domain then
      match ipv4? domain with
      | some address => return .ipv4 address
      | none => throw .ipv4
    else return .name domain

end Host
end Url
end BundleInstaller
