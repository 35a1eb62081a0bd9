import RemoteServices.Endpoint
import RemoteServices.Json.Reader

/-!
# Property maps and endpoints out of JSON

A property map is an object whose values are strings; of two fields with one key the later one
counts.  An endpoint is a property map that describes one.

What an endpoint needs is the program's own; how the fields of a map are met, and which fault comes
first, restates the library `serde_json`.
-/
namespace RemoteServices

def Properties.addFields (closed : Bool) :
    Properties → List (Option String × Json) → Except Json.Fault Properties
  | p, [] => if closed then .ok p else .error .malformed
  | p, (some key, .text (some value)) :: fields => addFields closed (p.set key value) fields
  | _, (some _, value) :: _ => .error value.misfit
  | _, (none, _) :: _ => .error .malformed

def Properties.ofJson : Json → Except Json.Fault Properties
  | .object fields closed => addFields closed ∅ fields
  | value => .error value.misfit

def Endpoint.ofJson (value : Json) : Except Json.Fault Endpoint := do
  match ofProperties (← Properties.ofJson value) with
  | .ok endpoint => return endpoint
  | .error _ => throw .mismatched

def Properties.parseJson (s : String) : Except Json.Fault Properties := (Json.read s).decode ofJson

def Endpoint.parseJson (s : String) : Except Json.Fault Endpoint := (Json.read s).decode ofJson

end RemoteServices
