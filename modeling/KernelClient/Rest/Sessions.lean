import KernelClient.Rest.Exchange
import KernelClient.Session.Model

/-!
# Exchanges about sessions
-/

namespace KernelClient.Rest.Sessions

def list (settings : Settings) : Exchange (List SessionModel) where
  request := Exchange.ask settings .get ["api", "sessions"] none
  read := Exchange.body 200 SessionModel.listOfJson

def get (settings : Settings) (id : String) : Exchange (Option SessionModel) where
  request := Exchange.ask settings .get ["api", "sessions", id] none
  read := Exchange.bodyIfKnown SessionModel.ofJson

def start (settings : Settings) (session : SessionRequest) : Exchange SessionModel where
  request := Exchange.ask settings .post ["api", "sessions"] (some session.toJson)
  read := Exchange.body 201 SessionModel.ofJson

/-- Change some fields of a session. -/
def update (settings : Settings) (id : String) (patch : Json) : Exchange SessionModel where
  request := Exchange.ask settings .patch ["api", "sessions", id] (some patch)
  read := Exchange.body 200 SessionModel.ofJson

/-- What is said of a session that the server does not know: the message of the response, if it
has one. -/
def unknownSession (id : String) (response : Response) : String :=
  let said := response.bodyJson.toOption.bind (Json.stringField? "message")
  "[session-rest] " ++
    said.getD ("The session " ++ Text.quote id ++ " does not exist on the server")

/-- Delete a session. The server may say that only its kernel is gone. -/
def shutdown (settings : Settings) (id : String) : Exchange Unit where
  request := Exchange.ask settings .delete ["api", "sessions", id] none
  read response :=
    if response.status = 410 then
      let message := "The kernel was deleted but the session was not"
      (.error (.ofResponse response (some message)), [])
    else Exchange.deleted (unknownSession id) response

/-- The first running session of which a condition holds. -/
def find (settings : Settings) (isWanted : SessionModel → Bool) : Exchange (Option SessionModel) :=
  (list settings).map (List.find? isWanted)

/-- List all sessions, to delete each of them. -/
def shutdownAll (settings : Settings) : Exchange (List (Exchange Unit)) :=
  (list settings).map fun models => models.map fun model => shutdown settings model.id

end KernelClient.Rest.Sessions
