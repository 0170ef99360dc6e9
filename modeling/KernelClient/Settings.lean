import KernelClient.Http
import KernelClient.Text.Quoted
import KernelClient.Url.Parser

/-!
# Settings of a server

Where a server is and what every request to it carries. Both of its URLs are directories, so that
the URLs of resources are made by adding segments to them.
-/

namespace KernelClient

structure Settings where
  baseUrl : Url
  wsUrl : Url
  token : Option String
  appendsToken : Bool
  headers : Headers
deriving DecidableEq, Inhabited

namespace Settings

/-- Where a server is looked for when nothing else is said. -/
def defaultBaseUrl : String := "http://localhost:8888/"

def noBase (url : Url) : ServiceError := .invalidUrl (url.render ++ " cannot be a base")

/-- Read the URL of a directory. -/
def directory (text : String) : Except ServiceError Url :=
  match Url.parse text with
  | .error fault => .error (.invalidUrl fault.message)
  | .ok url =>
    match url.directory? with
    | some directory => .ok directory
    | none => .error (noBase url)

/-- The scheme of sockets that belongs to a scheme of requests. -/
def socketScheme? (scheme : String) : Option String :=
  if scheme = "https" then some "wss" else if scheme = "http" then some "ws" else none

/-- Settings for a server at a URL, with the same URL for sockets. -/
def ofBaseUrl (text : String) : Except ServiceError Settings := do
  let base ← directory text
  match socketScheme? base.scheme with
  | some scheme =>
      return {
        baseUrl := base
        wsUrl := { base with scheme := scheme }
        token := none
        appendsToken := false
        headers := [] }
  | none => .error (.invalidUrl ("unsupported scheme " ++ Text.quote base.scheme))

def withWsUrl (settings : Settings) (text : String) : Except ServiceError Settings := do
  return { settings with wsUrl := ← directory text }

def withToken (settings : Settings) (token : String) : Settings :=
  { settings with token := some token }

def withAppendedToken (settings : Settings) (appends : Bool) : Settings :=
  { settings with appendsToken := appends }

def withHeader (settings : Settings) (name value : String) : Settings :=
  { settings with headers := settings.headers ++ [(name, value)] }

/-- What the surroundings of the client say about the server. An empty text says nothing. -/
structure Environment where
  baseUrl : Option String
  wsUrl : Option String
  token : Option String
deriving DecidableEq, Inhabited

def ofEnvironment (environment : Environment) : Except ServiceError Settings := do
  let said (text : Option String) : Option String := text.filter fun text => !text.isEmpty
  let settings ← ofBaseUrl ((said environment.baseUrl).getD defaultBaseUrl)
  let settings ← match said environment.wsUrl with
    | some url => settings.withWsUrl url
    | none => .ok settings
  return match said environment.token with
    | some token => settings.withToken token
    | none => settings

/-- The headers of every request. -/
def requestHeaders (settings : Settings) : Headers :=
  settings.headers ++
    match settings.token with
    | some token => [("Authorization", "token " ++ token)]
    | none => []

/-- The URL of a directory with segments added. -/
def join (base : Url) (segments : List String) : Except ServiceError Url :=
  match base.extend? segments with
  | some url => .ok url
  | none => .error (noBase base)

/-- The URL of a resource. -/
def apiUrl (settings : Settings) (segments : List String) : Except ServiceError Url :=
  join settings.baseUrl segments

/-- The URL of the channels of a kernel for a client. -/
def channelsUrl (settings : Settings) (kernelId clientId : String) : Except ServiceError Url := do
  let url ← join settings.wsUrl ["api", "kernels", kernelId, "channels"]
  let token := if settings.appendsToken then settings.token else none
  return url.withQuery <| ("session_id", clientId) :: match token with
    | some token => [("token", token)]
    | none => []

/-- A diagnostic text, which does not show the token. -/
def describe (settings : Settings) : String :=
  let pair (header : String × String) : String :=
    "(" ++ Text.quote header.1 ++ ", " ++ Text.quote header.2 ++ ")"
  Text.record "ServerSettings" [
    ("base_url", Text.quote settings.baseUrl.render),
    ("ws_url", Text.quote settings.wsUrl.render),
    ("token", Text.optional (settings.token.map fun _ => Text.quote "<redacted>")),
    ("append_token", Text.truth settings.appendsToken),
    ("headers", Text.bracket (settings.headers.map pair))] true

/-- A request with the headers of the settings. A body is JSON, and its type is said unless a
header says it already. -/
def request (settings : Settings) (method : Method) (url : Url) (body : Option Json)
    (headers : Headers) : Request :=
  let all := settings.requestHeaders ++ headers
  let typed :=
    if body.isSome && (all.find? "content-type").isNone then
      all ++ [("Content-Type", "application/json")]
    else all
  { method, url, headers := typed, body := body.map fun value => value.canonical.render }

end Settings

end KernelClient
