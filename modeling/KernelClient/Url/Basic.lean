import KernelClient.Url.Address

/-!
# URLs

A URL has a scheme, user information, a host with a port, a path, a query and a fragment. Its parts
are kept as they are written, already encoded. A path is a list of segments, or plain text in a URL
that no other URL can be relative to.
-/

namespace KernelClient

inductive Host where
  | domain (name : String)
  | address4 (address : Nat)
  | address6 (pieces : List Nat)
deriving DecidableEq, Inhabited

namespace Host

def render : Host → String
  | .domain name => name
  | .address4 address => Address.render4 address
  | .address6 pieces => "[" ++ Address.render6 pieces ++ "]"

end Host

inductive UrlPath where
  | plain (text : String)
  | segments (parts : List String)
deriving DecidableEq, Inhabited

namespace UrlPath

def render : UrlPath → String
  | .plain text => text
  | .segments parts => String.join (parts.map ("/" ++ ·))

/-- Whether a path without a host would read as a host, unless a point is written before it. -/
def startsWithSlashes : UrlPath → Bool
  | .segments ("" :: _ :: _) => true
  | _ => false

end UrlPath

/-- A URL. In one without a host a point before the path keeps it from reading as a host. -/
structure Url where
  scheme : String
  username : String
  password : Option String
  host : Option Host
  port : Option Nat
  hasPoint : Bool
  path : UrlPath
  query : Option String
  fragment : Option String
deriving DecidableEq, Inhabited

/-- Why a text is not a URL. -/
inductive UrlFault where
  | emptyHost
  | domain
  | port
  | address4
  | address6
  | domainCharacter
  | noBase
deriving DecidableEq, Inhabited

def UrlFault.message : UrlFault → String
  | .emptyHost => "empty host"
  | .domain => "invalid international domain name"
  | .port => "invalid port number"
  | .address4 => "invalid IPv4 address"
  | .address6 => "invalid IPv6 address"
  | .domainCharacter => "invalid domain character"
  | .noBase => "relative URL without a base"

namespace Url

/-- The kinds of schemes, which have rules of their own. -/
inductive SchemeKind where
  | file
  | special
  | general
deriving DecidableEq, Inhabited

def SchemeKind.ofName (scheme : String) : SchemeKind :=
  if scheme = "file" then .file
  else if ["http", "https", "ws", "wss", "ftp"].contains scheme then .special
  else .general

/-- The port that is left out. -/
def defaultPort? (scheme : String) : Option Nat :=
  if scheme = "http" ∨ scheme = "ws" then some 80
  else if scheme = "https" ∨ scheme = "wss" then some 443
  else if scheme = "ftp" then some 21
  else none

def kind (url : Url) : SchemeKind := .ofName url.scheme

def renderUserinfo (url : Url) : String :=
  match url.password with
  | some password => url.username ++ ":" ++ password ++ "@"
  | none => if url.username.isEmpty then "" else url.username ++ "@"

/-- What stands between the scheme and the path. -/
def renderAuthority (url : Url) : String :=
  match url.host with
  | some host =>
      let port := match url.port with
        | some port => ":" ++ toString port
        | none => ""
      "//" ++ url.renderUserinfo ++ host.render ++ port
  | none =>
      if url.kind = .file then "//" else if url.hasPoint then "/." else ""

def render (url : Url) : String :=
  let query := match url.query with
    | some query => "?" ++ query
    | none => ""
  let fragment := match url.fragment with
    | some fragment => "#" ++ fragment
    | none => ""
  url.scheme ++ ":" ++ url.renderAuthority ++ url.path.render ++ query ++ fragment

end Url

end KernelClient
