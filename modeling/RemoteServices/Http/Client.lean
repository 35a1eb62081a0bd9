import RemoteServices.Endpoint
import RemoteServices.Error
import RemoteServices.Http.Message
import RemoteServices.Text.Lossy

/-!
# Calling endpoints

A call is sent to the URL that the endpoint's description gives.  How the network carries it is a
parameter.
-/
namespace RemoteServices.Http

structure Reply where
  status : UInt16
  payload : Payload

/-- What carries a request to a URL, and its response back. -/
abbrev Network := Request → Except CallError Response

def Response.toReply (r : Response) : Except CallError Reply :=
  if r.isSuccess then .ok ⟨r.status, r.body⟩
  else .error (.remoteFault r.status
    (if r.body.isEmpty then reasonPhrase r.status else Text.lossy r.body))

/-- A call over a network that may do more than to answer, such as to run the handler that is
called. -/
def transact {m : Type → Type} [Monad m]
    (network : Request → m (Except CallError Response)) (d : Endpoint) (payload : Payload) :
    m (Except CallError Reply) :=
  match d.property? Key.httpUrl with
  | none => return .error (.connectionFailed ("endpoint " ++ d.id ++ " has no " ++ Key.httpUrl))
  | some url => return (← network ⟨"POST", url, payload⟩).bind Response.toReply

def send (network : Network) (d : Endpoint) (payload : Payload) : Except CallError Reply :=
  Id.run (transact (fun q => return network q) d payload)

end RemoteServices.Http
