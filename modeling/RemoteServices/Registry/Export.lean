import RemoteServices.Registry.Environment
import RemoteServices.Text.Quoted

/-!
# Exporting services

A service is exported once for each interface that it advertises and asks to have exported.  Each
export is an endpoint of its own, made by the factory that is bound under the name of the interface.
-/
namespace RemoteServices

variable {O : Objects}

/-- The interfaces of a service that are to be exported, in the order in which it advertises
them. -/
def selectInterfaces (p : Properties) : Except RemoteError (List String) :=
  let advertised := p.list Key.objectClass
  if advertised.isEmpty then
    .error (.illegalArgument ("service advertises no " ++ Key.objectClass))
  else if (p.get? Key.exportedInterfaces).map Text.trim = some Key.everything then .ok advertised
  else
    let requested := p.list Key.exportedInterfaces
    let selected := advertised.filter requested.contains
    if selected.isEmpty then
      .error (.illegalArgument
        ("none of the exported interfaces " ++ Text.quotedList requested ++ " is advertised"))
    else .ok selected

def carriedProperties (p : Properties) : Properties :=
  p.restrict fun k => ! [Key.serviceId, Key.exportedInterfaces, Key.exportedConfigs].contains k

/-- The properties of a new endpoint: those of the service, over them those of the transport. -/
def endpointProperties (service connection : Properties) (configurationType : String) :
    Properties :=
  ((carriedProperties service).merge connection).set Key.importedConfigs configurationType

namespace Registry

def isExported (r : Registry O) (serviceId : ServiceId) (interface : String) : Bool :=
  r.exports.any fun e => e.serviceId == serviceId && e.interface == interface

def addExport (r : Registry O) (serviceId : ServiceId) (service : O.Service)
    (description : Endpoint) (handler : O.Handler) (factory : Factory) : Registry O :=
  emit
    { r with
      exports := r.exports ++ [⟨r.nextExportId, serviceId, service, description, handler, factory⟩]
      nextExportId := r.nextExportId + 1 }
    (.publish description)

def dropExport (r : Registry O) (e : Export O) : Registry O :=
  emit { r with exports := r.exports.filter (·.exportId != e.exportId) } (.retract e.description)

def queueService (r : Registry O) (serviceId : ServiceId) : Registry O :=
  { r with toBeExported := r.toBeExported ++ [serviceId] }

end Registry

namespace Session

def exportInterface (env : Environment O) (serviceId : ServiceId) (service : TrackedService O)
    (interface : String) (s : Session O) : Except RemoteError Unit × Session O :=
  match s.registry.exportFactories.get? interface with
  | none => (.error (.factoryUnavailable interface), s)
  | some factory =>
    let connection := env.connection s.journal serviceId interface
    let s := s.record (.connection serviceId interface)
    match connection with
    | .error e => (.error e, s)
    | .ok connection =>
      let description := Endpoint.make (env.freshId s.journal) serviceId s.registry.frameworkUuid
        interface (endpointProperties service.properties connection env.configurationType)
      match env.wrap s.journal factory service.object description with
      | .error cause =>
        (.error (.exportFailed interface cause),
          s.record (.createEndpoint factory description false))
      | .ok handler =>
        (.ok (), (s.record (.createEndpoint factory description true)).modify
          (·.addExport serviceId service.object description handler factory))

/-- What became of an attempt to export a service. -/
structure Outcome where
  /-- Some interface still waits for a factory or failed. -/
  waiting : Bool
  failure : Option RemoteError

namespace Outcome

def complete : Outcome := ⟨false, none⟩

def cons (first : Except RemoteError Unit) (others : Outcome) : Outcome :=
  match first with
  | .ok _ => others
  | .error (.factoryUnavailable _) => { others with waiting := true }
  | .error e => ⟨true, some e⟩

end Outcome

/-- Exports those of the given interfaces that are not exported yet.  The failure of one keeps none
of the others from being tried. -/
def exportInterfaces (env : Environment O) (serviceId : ServiceId) (service : TrackedService O) :
    List String → Session O → Outcome × Session O
  | [], s => (.complete, s)
  | interface :: interfaces, s =>
    if s.registry.isExported serviceId interface then
      exportInterfaces env serviceId service interfaces s
    else
      let (first, s) := exportInterface env serviceId service interface s
      let (others, s) := exportInterfaces env serviceId service interfaces s
      (.cons first others, s)

def exportService (env : Environment O) (serviceId : ServiceId) (s : Session O) :
    Outcome × Session O :=
  match s.registry.services.get? serviceId with
  | none =>
    (⟨true, some (.illegalArgument ("service " ++ Text.int64Text serviceId ++ " is not tracked"))⟩,
      s)
  | some service =>
    match selectInterfaces service.properties with
    | .error e => (⟨true, some e⟩, s)
    | .ok interfaces => exportInterfaces env serviceId service interfaces s

/-- Tries to export a service that waits.  One that is not done queues again, unless its properties
cannot be used: such a service is forgotten, and what is exported of it stays. -/
def tryService (env : Environment O) (serviceId : ServiceId) (s : Session O) : Session O :=
  let (outcome, s) := exportService env serviceId s
  match outcome.failure with
  | some (.illegalArgument _) => s.modify fun r => { r with services := r.services.erase serviceId }
  | some _ => s.modify (·.queueService serviceId)
  | none => if outcome.waiting then s.modify (·.queueService serviceId) else s

def exportAll (env : Environment O) : List ServiceId → Session O → Session O
  | [], s => s
  | serviceId :: queue, s => exportAll env queue (tryService env serviceId s)

def tearDown (s : Session O) (exportId : Nat) : Session O :=
  match s.registry.exportOf? exportId with
  | none => s
  | some e => (s.record (.removeEndpoint e.factory e.description)).modify (·.dropExport e)

/-- Takes down the exports that satisfy `p`, the oldest first. -/
def tearDownAll (p : Export O → Bool) (s : Session O) : Session O :=
  ((s.registry.exports.filter p).map Export.exportId).foldl tearDown s

end Session

end RemoteServices
