/-!
# What can go wrong

Two kinds of failure: of the administration of remote services, and of one call made through an
imported proxy.  Each case is a cause; its wording is in `message`.
-/
namespace RemoteServices

inductive CallError
  | timeout
  | connectionFailed (reason : String)
  | remoteFault (status : UInt16) (body : String)
deriving DecidableEq, Repr

namespace CallError

def message : CallError → String
  | .timeout => "Remote call timed out"
  | .connectionFailed reason => "Connection failed: " ++ reason
  | .remoteFault status body =>
    "Remote fault (status " ++ toString status.toNat ++ "): " ++ body

end CallError

inductive RemoteError
  | illegalArgument (reason : String)
  | factoryUnavailable (name : String)
  /-- The transport could not bind a listener or reach a peer. -/
  | transport (reason : String)
  | call (error : CallError)
  | exportFailed (interface cause : String)
  | importFailed (endpointId cause : String)
  | config (reason : String)
deriving DecidableEq, Repr

namespace RemoteError

def message : RemoteError → String
  | .illegalArgument reason => "Illegal argument: " ++ reason
  | .factoryUnavailable name => "No factory available for '" ++ name ++ "'"
  | .transport reason => "Transport error: " ++ reason
  | .call error => error.message
  | .exportFailed interface cause => "Export of '" ++ interface ++ "' failed: " ++ cause
  | .importFailed endpointId cause => "Import of endpoint " ++ endpointId ++ " failed: " ++ cause
  | .config reason => "Configuration error: " ++ reason

end RemoteError

/-- Of two steps, one after the other, neither may fail. -/
theorem bind_eq_ok {ε α β : Type} {x : Except ε α} {f : α → Except ε β} {b : β} :
    x >>= f = .ok b ↔ ∃ a, x = .ok a ∧ f a = .ok b := by
  cases x <;> simp [bind, Except.bind]

end RemoteServices
