import KernelClient.Payload
import KernelClient.Settings

/-!
# Exchanges

An exchange is a request and how its response is read. Nothing is sent here: whoever carries the
request to the server hands the response back, or the error that kept it from arriving.
-/

namespace KernelClient

structure Exchange (α : Type) where
  request : Except ServiceError Request
  read : Response → Except ServiceError α × List LogLine

namespace Exchange

/-- The result of an exchange from the response, or from what kept it from arriving. -/
def settle {α : Type} (exchange : Exchange α) :
    Except ServiceError Response → Except ServiceError α × List LogLine
  | .ok response => exchange.read response
  | .error error => (.error error, [])

/-- The exchange whose result is changed by a function. -/
def map {α β : Type} (change : α → β) (exchange : Exchange α) : Exchange β where
  request := exchange.request
  read response :=
    let (result, log) := exchange.read response
    (result.map change, log)

/-- A request to a resource. -/
def ask (settings : Settings) (method : Method) (segments : List String) (body : Option Json) :
    Except ServiceError Request :=
  (settings.apiUrl segments).map fun url => settings.request method url body []

/-- The failure that a response reports. -/
def failure {α : Type} (response : Response) : Except ServiceError α × List LogLine :=
  (.error (.ofResponse response none), [])

/-- A payload, or the fault in its shape. -/
def ofPayload {α : Type} (payload : Except PayloadFault α) : Except ServiceError α :=
  payload.mapError fun fault => .validation fault.message

/-- Read the body of a response of the expected status. -/
def body {α : Type} (status : Nat) (read : Json → Except PayloadFault α) (response : Response) :
    Except ServiceError α × List LogLine :=
  if response.status = status then (response.bodyJson.bind fun value => ofPayload (read value), [])
  else failure response

/-- Read the body of a response, or nothing when the server does not know the resource. -/
def bodyIfKnown {α : Type} (read : Json → Except PayloadFault α) (response : Response) :
    Except ServiceError (Option α) × List LogLine :=
  if response.status = 404 then (.ok none, [])
  else
    let (result, log) := body 200 read response
    (result.map some, log)

/-- Read the response to a deletion. A resource that the server does not know counts as deleted,
with a warning. -/
def deleted (warning : Response → String) (response : Response) :
    Except ServiceError Unit × List LogLine :=
  if response.status = 204 then (.ok (), [])
  else if response.status = 404 then (.ok (), [.warning (warning response)])
  else failure response

/-- The first error of results, in their order. -/
def allOk : List (Except ServiceError Unit) → Except ServiceError Unit
  | [] => .ok ()
  | .ok () :: rest => allOk rest
  | .error error :: _ => .error error

end Exchange

end KernelClient
