import RemoteServices.Endpoint
import RemoteServices.Table

/-!
# The registry of one process

What the administrator of one process knows: the services that ask to be exported, the bound
factories, the live exports and imports, what still waits for a factory, and what the outside has
yet to be told.  Services, handlers and proxies pass through it untouched, so their types are
parameters.
-/
namespace RemoteServices

/-- The kinds of objects that pass through a registry. -/
structure Objects where
  Service : Type
  Handler : Type
  Proxy : Type

structure Factory where
  tag : String
  serviceName : String
deriving DecidableEq, Repr

namespace Factory

/-- The name that a factory is bound under: the one that its properties give, else its own. -/
def boundName (f : Factory) (p : Properties) : String :=
  match p.get? Key.factoryName with
  | some name => if Text.isBlankText name then f.serviceName else Text.trim name
  | none => f.serviceName

end Factory

variable (O : Objects)

structure TrackedService where
  object : O.Service
  properties : Properties

structure Export where
  exportId : Nat
  serviceId : ServiceId
  service : O.Service
  description : Endpoint
  handler : O.Handler
  factory : Factory

structure Import where
  description : Endpoint
  proxy : O.Proxy
  factory : Factory

/-- What is known of one interface, as long as any endpoint of it is. -/
structure Bookkeeping where
  /-- The known endpoints, in ascending order. -/
  endpoints : List String
  /-- The imported endpoints, in the order of their imports. -/
  registrations : List String
  factory : Option Factory
deriving DecidableEq

inductive Effect
  | publish (description : Endpoint)
  | retract (description : Endpoint)
  | register (description : Endpoint) (proxy : O.Proxy)
  | unregister (endpointId : String)

structure Registry where
  frameworkUuid : String
  /-- Whether the endpoints of this very process are imported too. -/
  importLocalEndpoints : Bool
  services : Table ServiceId (TrackedService O)
  exportFactories : Table String Factory
  importFactories : Table String Factory
  /-- The live exports, in the order of their numbers. -/
  exports : List (Export O)
  imports : List (Import O)
  bookkeeping : Table String Bookkeeping
  toBeExported : List ServiceId
  toBeImported : List Endpoint
  /-- Exports are numbered from one, none twice; see `Registry.Numbered.as_words` for numbers as
  words. -/
  nextExportId : Nat
  /-- What the outside has yet to be told, in this order. -/
  effects : List (Effect O)

variable {O : Objects}

namespace Export

def interface (e : Export O) : String := e.description.interface

end Export

namespace Import

def endpointId (i : Import O) : String := i.description.id

def interface (i : Import O) : String := i.description.interface

end Import

namespace Bookkeeping

def ofFactory (factory : Option Factory) : Bookkeeping := ⟨[], [], factory⟩

def usage (b : Bookkeeping) : Nat := b.registrations.length

def insertText (s : String) : List String → List String
  | [] => [s]
  | t :: ts => if s < t then s :: t :: ts else if s = t then t :: ts else t :: insertText s ts

def addEndpoint (id : String) (b : Bookkeeping) : Bookkeeping :=
  { b with endpoints := insertText id b.endpoints }

def removeEndpoint (id : String) (b : Bookkeeping) : Bookkeeping :=
  { b with endpoints := b.endpoints.filter (· != id) }

def addRegistration (id : String) (b : Bookkeeping) : Bookkeeping :=
  { b with registrations := b.registrations ++ [id] }

def removeRegistration (id : String) (b : Bookkeeping) : Bookkeeping :=
  { b with registrations := b.registrations.filter (· != id) }

end Bookkeeping

namespace Registry

def empty (frameworkUuid : String) (importLocalEndpoints : Bool) : Registry O where
  frameworkUuid := frameworkUuid
  importLocalEndpoints := importLocalEndpoints
  services := ∅
  exportFactories := ∅
  importFactories := ∅
  exports := []
  imports := []
  bookkeeping := ∅
  toBeExported := []
  toBeImported := []
  nextExportId := 1
  effects := []

def exportOf? (r : Registry O) (exportId : Nat) : Option (Export O) :=
  r.exports.find? (·.exportId == exportId)

def importOf? (r : Registry O) (endpointId : String) : Option (Import O) :=
  r.imports.find? (·.endpointId == endpointId)

/-- The description of an endpoint that is imported or waits for it. -/
def known? (r : Registry O) (endpointId : String) : Option Endpoint :=
  match r.importOf? endpointId with
  | some i => some i.description
  | none => r.toBeImported.find? (·.id == endpointId)

/-- The handler of a call: that of the service's export of the interface, or else of its oldest
export. -/
def findHandler (r : Registry O) (serviceId : ServiceId) (interface : String) : Option O.Handler :=
  match r.exports.filter (·.serviceId == serviceId) with
  | [] => none
  | first :: others =>
    some (((first :: others).find? (·.interface == interface)).getD first).handler

def sortedImports (r : Registry O) : List (Import O) :=
  r.imports.mergeSort fun a b => a.endpointId ≤ b.endpointId

def takeEffect (r : Registry O) : Option (Effect O × Registry O) :=
  match r.effects with
  | [] => none
  | e :: es => some (e, { r with effects := es })

def emit (r : Registry O) (e : Effect O) : Registry O := { r with effects := r.effects ++ [e] }

end Registry

end RemoteServices
