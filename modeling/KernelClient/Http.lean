import KernelClient.Error
import KernelClient.Json.Printer
import KernelClient.Json.Reader
import KernelClient.Message.Basic
import KernelClient.Url.Basic

/-!
# Requests and responses

Names of headers are compared without regard to the case of ASCII letters, and the first header of
a name counts. An empty body reads as null.
-/

namespace KernelClient

inductive Method where
  | get
  | post
  | patch
  | delete
deriving DecidableEq, Inhabited

namespace Method

def name : Method → String
  | .get => "GET"
  | .post => "POST"
  | .patch => "PATCH"
  | .delete => "DELETE"

def ofName? (name : String) : Option Method :=
  if name = "GET" then some .get
  else if name = "POST" then some .post
  else if name = "PATCH" then some .patch
  else if name = "DELETE" then some .delete
  else none

end Method

/-- Headers in the order in which they are sent. -/
abbrev Headers := List (String × String)

/-- The value of the first header of a name. -/
def Headers.find? (headers : Headers) (name : String) : Option String :=
  (List.find? (fun header => header.1.toLower = name.toLower) headers).map Prod.snd

structure Request where
  method : Method
  url : Url
  headers : Headers
  body : Option String
deriving DecidableEq, Inhabited

structure Response where
  status : Nat
  headers : Headers
  body : Bytes
deriving DecidableEq, Inhabited

namespace Response

/-- A response with a JSON body. -/
def json (status : Nat) (value : Json) : Response where
  status := status
  headers := [("content-type", "application/json")]
  body := (value.render).toByteArray.data.toList

/-- The JSON of the body. -/
def bodyJson (response : Response) : Except ServiceError Json :=
  if response.body.isEmpty then .ok .null
  else match Json.parseBytes? response.body with
    | some value => .ok value
    | none => .error (.validation "response body is not JSON")

end Response

namespace ServiceError

/-- A string of a body that is not empty. -/
def textField? (name : String) (body : Option Json) : Option String :=
  (body.bind (Json.stringField? name)).filter fun text => !text.isEmpty

/-- The failure that a response reports. Its message is the given one, or else the message or the
reason in the body, or else names the status. -/
def ofResponse (response : Response) (message : Option String) : ServiceError :=
  let body := Json.parseBytes? response.body
  let text :=
    (message.or ((textField? "message" body).or (textField? "reason" body))).getD
      s!"Invalid response: {response.status}"
  .response response.status text body (textField? "traceback" body)

end ServiceError

end KernelClient
