import KernelClient.Url.Domain
import KernelClient.Url.Segments

/-!
# Reading URLs

Blanks and control characters around a URL are left out, and tabs and line breaks everywhere. The
well known schemes take any number of slashes of either kind before the host, and need a host.
-/

namespace KernelClient.Url

/-- A scheme and what follows its colon. -/
def scheme? (text : List Char) : Option (String × List Char) :=
  let isMark (character : Char) : Bool :=
    character.isAlphanum || character = '+' || character = '-' || character = '.'
  let name := text.takeWhile isMark
  match name, text.dropWhile isMark with
  | first :: _, ':' :: rest =>
      if first.isAlpha then some ((String.ofList name).toLower, rest) else none
  | _, _ => none

/-- The characters that end the host and its port. -/
def endsAuthority (kind : SchemeKind) (character : Char) : Bool :=
  character = '/' || character = '?' || character = '#' || (kind != .general && character = '\\')

/-- What stands before and after the last character of a kind. -/
def splitLast? (mark : Char) : List Char → Option (List Char × List Char)
  | [] => none
  | character :: rest =>
      match splitLast? mark rest with
      | some (before, after) => some (character :: before, after)
      | none => if character = mark then some ([], rest) else none

/-- What stands before and after the first character of a kind. -/
def splitFirst (mark : Char) (text : List Char) : List Char × Option (List Char) :=
  match text.span (· != mark) with
  | (before, _ :: after) => (before, some after)
  | (before, []) => (before, none)

structure Userinfo where
  username : String
  password : Option String
deriving DecidableEq, Inhabited

def Userinfo.isEmpty (userinfo : Userinfo) : Bool :=
  userinfo.username.isEmpty && userinfo.password.isNone

/-- The user information before the last at sign of an authority, and what follows it. An at sign
alone is refused before a path, a query or a fragment. -/
def userinfo (isLast : Bool) (authority : List Char) : Except UrlFault (Userinfo × List Char) :=
  match splitLast? '@' authority with
  | none => .ok (⟨"", none⟩, authority)
  | some ([], after) =>
      if after.isEmpty && !isLast then .error .emptyHost else .ok (⟨"", none⟩, after)
  | some (before, after) =>
      let (username, password) := splitFirst ':' before
      let write (text : List Char) : String := String.ofList (Percent.encode Percent.userinfo text)
      let password := match password with
        | none | some [] => none
        | some password => some (write password)
      .ok (⟨write username, password⟩, after)

/-- The host at the start of an authority, up to a colon outside of brackets. -/
def spanHost (inside : Bool) : List Char → List Char × List Char
  | [] => ([], [])
  | character :: rest =>
      if character = ':' ∧ !inside then ([], character :: rest)
      else
        let inside := if character = '[' then true else if character = ']' then false else inside
        let (host, after) := spanHost inside rest
        (character :: host, after)

/-- The characters that no host may hold. -/
def isForbidden (character : Char) : Bool :=
  [' ', '#', '/', ':', '<', '>', '?', '@', '[', '\\', ']', '^', '|', '\x00', '\t', '\n',
    '\x0d'].contains character

/-- An address between brackets. -/
def bracketed (text : List Char) : Except UrlFault Host :=
  match text.getLast?, Address.parse6? text.dropLast with
  | some ']', some pieces => .ok (.address6 pieces)
  | _, _ => .error .address6

/-- A domain or an address. -/
def specialHost (text : List Char) : Except UrlFault Host :=
  match text with
  | '[' :: rest => bracketed rest
  | _ =>
    match Domain.toAscii? (Percent.decode text) with
    | none => .error .domain
    | some [] => .error .emptyHost
    | some domain =>
        if Address.endsInNumber domain then
          match Address.parse4? domain with
          | some address => .ok (.address4 address)
          | none => .error .address4
        else .ok (.domain (String.ofList domain))

/-- The host of a scheme that is not one of the well known ones. -/
def generalHost (text : List Char) : Except UrlFault Host :=
  match text with
  | '[' :: rest => bracketed rest
  | _ =>
    if text.any isForbidden then .error .domainCharacter
    else .ok (.domain (String.ofList (Percent.encode Percent.controls text)))

/-- The port after a colon, unless it is the one that is left out. -/
def writtenPort (scheme : String) (text : List Char) : Except UrlFault (Option Nat) :=
  if text.isEmpty then .ok none
  else if text.all Char.isDigit then
    match Address.number? 10 text with
    | some value =>
        if value < 65536 then .ok (if defaultPort? scheme = some value then none else some value)
        else .error .port
    | none => .error .port
  else .error .port

/-- What stands between the slashes of a path. -/
def partsOf (kind : SchemeKind) (path : List Char) : List (List Char) :=
  Address.splitOn '/' <|
    if kind = .general then path else path.map fun c => if c = '\\' then '/' else c

/-- The segments of a path, with the empty ones at the start of the path of a file. -/
def allSegments (kind : SchemeKind) (path : List Char) : List String :=
  UrlPath.ofParts (kind = .file) [] (partsOf kind path)

/-- The segments of a path after a host. -/
def hostPath (kind : SchemeKind) (path : List Char) : List String :=
  match path with
  | [] => if kind = .general then [] else [""]
  | _ :: rest => allSegments kind rest

/-- The path of a URL without a host. -/
def freePath (path : List Char) : UrlPath :=
  match path with
  | '/' :: rest => .segments (allSegments .general rest)
  | _ => .plain (String.ofList (Percent.encode Percent.controls path))

/-- A URL without user information, port, query and fragment. -/
def bare (scheme : String) (host : Option Host) (path : UrlPath) : Url where
  scheme := scheme
  username := ""
  password := none
  host := host
  port := none
  hasPoint := SchemeKind.ofName scheme = .general && host.isNone && path.startsWithSlashes
  path := path
  query := none
  fragment := none

/-- The authority and the path after two slashes, which may be the last parts of a URL. -/
def withAuthority (scheme : String) (isLast : Bool) (text : List Char) : Except UrlFault Url := do
  let kind := SchemeKind.ofName scheme
  let authority := text.takeWhile fun character => !endsAuthority kind character
  let path := text.dropWhile fun character => !endsAuthority kind character
  let (userinfo, rest) ← userinfo (isLast && path.isEmpty) authority
  let (name, after) := spanHost false rest
  let host ←
    if kind = .special ∧ name.isEmpty then .error .emptyHost
    else if kind = .general then generalHost name
    else specialHost name
  let isNameless := host = .domain ""
  if isNameless ∧ !after.isEmpty then .error .emptyHost
  -- Only a general scheme can have a backslash here, where it is the first character of the path.
  let (digits, joined) := (after.drop 1).span fun character => character ≠ '\\'
  let port ← writtenPort scheme digits
  if isNameless ∧ !userinfo.isEmpty then .error .emptyHost
  let path := if joined.isEmpty then path else '/' :: (joined ++ path)
  return { bare scheme (some host) (.segments (hostPath kind path)) with
    username := userinfo.username
    password := userinfo.password
    port := port }

/-- A file that is on no other host. -/
def localFile (path : List Char) : Url :=
  bare "file" none (.segments (UrlPath.trim .file (allSegments .file path)))

/-- The path of a file on a host; a drive takes the place of the host, unless it is cut off. Without
a host, the slash before the path stands for an empty segment, so that a drive does not come
first. -/
def fileOnHost (text : List Char) : Except UrlFault Url := do
  let (written, path) := text.span fun character => !endsAuthority .file character
  let name := written.filter fun character => !UrlPath.isIgnored character
  if UrlPath.isDrive name then return localFile text
  if name.isEmpty then return localFile path
  let host ← specialHost name
  if host = .domain "localhost" then return localFile path
  let segments := allSegments .file (path.drop 1)
  let takesHost := (segments.head?.any fun first => UrlPath.isDrive first.toList) &&
    !UrlPath.cutsDrive [] (partsOf .file (path.drop 1))
  return bare "file" (if takesHost then none else some host)
    (.segments (UrlPath.trim .file segments))

/-- The URL of a file, of which characters that are left out are not left out yet. -/
def file (text : List Char) : Except UrlFault Url :=
  let afterSlash? (text : List Char) : Option (List Char) :=
    match text.dropWhile UrlPath.isIgnored with
    | first :: rest => if first = '/' || first = '\\' then some rest else none
    | [] => none
  match afterSlash? text with
  | none => .ok (localFile text)
  | some path =>
    match afterSlash? path with
    | some rest => fileOnHost rest
    | none => .ok (localFile path)

/-- The query and the fragment after the path. -/
def withEnd (kind : SchemeKind) (url : Url) (query fragment : Option (List Char)) : Url :=
  let set := if kind = .general then Percent.query else Percent.specialQuery
  { url with
    query := query.map fun text => String.ofList (Percent.encode set text)
    fragment := fragment.map fun text => String.ofList (Percent.encode Percent.fragment text) }

/-- Blanks and control characters. -/
def isEdge (character : Char) : Bool := character.toNat ≤ 32

/-- Leave out blanks and control characters at both ends. -/
def trimEdges (text : List Char) : List Char :=
  ((text.dropWhile isEdge).reverse.dropWhile isEdge).reverse

/-- Read a URL. Tabs and line breaks are left out first, except those in the path of a file, where
they can cut off a drive. -/
def parse (text : String) : Except UrlFault Url := do
  let whole := trimEdges text.toList
  let text := whole.filter fun character => !UrlPath.isIgnored character
  let some (scheme, rest) := scheme? text | .error .noBase
  let kind := SchemeKind.ofName scheme
  let (beforeFragment, fragment) := splitFirst '#' rest
  let (address, query) := splitFirst '?' beforeFragment
  let isLast := query.isNone && fragment.isNone
  let url ← match kind, address with
    | .file, _ =>
        file ((whole.dropWhile (· ≠ ':')).drop 1 |>.takeWhile fun c => c ≠ '#' && c ≠ '?')
    | .special, _ =>
        withAuthority scheme isLast (address.dropWhile fun c => c = '/' || c = '\\')
    | .general, '/' :: '/' :: rest => withAuthority scheme isLast rest
    | .general, _ => .ok (bare scheme none (freePath address))
  return withEnd kind url query fragment

end KernelClient.Url
