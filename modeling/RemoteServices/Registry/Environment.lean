import RemoteServices.Error
import RemoteServices.Registry

/-!
# What a registry works with

A registry calls factories and a transport, and these may answer as they like: an answer depends on
all calls so far and on nothing else that is known here.  A `Session` is a registry together with
the calls so far, the latest first.
-/
namespace RemoteServices

variable (O : Objects)

inductive Call
  /-- The transport is asked how an endpoint will be reached. -/
  | connection (serviceId : ServiceId) (interface : String)
  /-- An export factory is to wrap a service, and does so or not. -/
  | createEndpoint (factory : Factory) (description : Endpoint) (created : Bool)
  | removeEndpoint (factory : Factory) (description : Endpoint)
  | createProxy (factory : Factory) (description : Endpoint) (created : Bool)
  | removeProxy (factory : Factory) (description : Endpoint)
deriving DecidableEq

/-- The calls so far, the latest first. -/
abbrev Journal := List Call

/-- How factories and the transport answer, and in which order a set of imports comes up. -/
structure Environment where
  configurationType : String
  freshId : Journal → String
  /-- What the transport adds to the description of an endpoint. -/
  connection : Journal → ServiceId → String → Except RemoteError Properties
  wrap : Journal → Factory → O.Service → Endpoint → Except String O.Handler
  proxy : Journal → Factory → Endpoint → Except String O.Proxy
  /-- The order in which imports that are taken down together come up. -/
  order : Journal → List (Import O) → List (Import O) := fun _ imports => imports
  order_perm : ∀ j imports, (order j imports).Perm imports := by
    exact fun _ imports => List.Perm.refl imports

structure Session where
  registry : Registry O
  journal : Journal

namespace Call

def newId? : Call → Option String
  | .createEndpoint _ d _ => some d.id
  | _ => none

end Call

/-- The ids of all endpoints that factories were asked to create. -/
def Journal.newIds (j : Journal) : List String := j.filterMap Call.newId?

theorem Journal.newIds_append (i j : Journal) : Journal.newIds (i ++ j) = i.newIds ++ j.newIds :=
  List.filterMap_append

variable {O : Objects}

namespace Session

def ofRegistry (r : Registry O) : Session O := ⟨r, []⟩

def modify (s : Session O) (f : Registry O → Registry O) : Session O :=
  { s with registry := f s.registry }

def record (s : Session O) (c : Call) : Session O := { s with journal := c :: s.journal }

end Session

end RemoteServices
