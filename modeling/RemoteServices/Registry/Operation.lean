import RemoteServices.Registry.Export
import RemoteServices.Registry.Import

/-!
# Operations of a registry

What a registry is told, and how it takes it.  Telling it something changes only the tables and the
queues and takes down what no longer has a ground; `reconcile` then exports and imports all that it
can.
-/
namespace RemoteServices

variable (O : Objects)

inductive Operation
  | addService (object : O.Service) (properties : Properties)
  | removeService (properties : Properties)
  | addExportFactory (factory : Factory) (properties : Properties)
  | removeExportFactory (factory : Factory) (properties : Properties)
  | addImportFactory (factory : Factory) (properties : Properties)
  | removeImportFactory (factory : Factory) (properties : Properties)
  | addEndpoint (description : Endpoint)
  | removeEndpoint (description : Endpoint)
  | reconcile
  | clear

variable {O : Objects}

namespace Registry

/-- The number of a service that asks to be exported and can be: it is local, numbered and
advertises interfaces. -/
def exportableId? (p : Properties) : Option ServiceId :=
  if p.hasText Key.exportedInterfaces && ! p.contains Key.imported &&
      ! (p.list Key.objectClass).isEmpty then p.int64? Key.serviceId
  else none

def addService (r : Registry O) (object : O.Service) (p : Properties) : Registry O :=
  match exportableId? p with
  | none => r
  | some serviceId =>
    if r.services.contains serviceId then r
    else queueService { r with services := r.services.insert serviceId ⟨object, p⟩ } serviceId

/-- Queues a tracked service, unless it waits already. -/
def requeueService (r : Registry O) (serviceId : ServiceId) : Registry O :=
  if r.services.contains serviceId && ! r.toBeExported.contains serviceId then
    r.queueService serviceId
  else r

def addEndpoint (r : Registry O) (d : Endpoint) : Registry O :=
  if ! r.importLocalEndpoints && d.frameworkUuid == r.frameworkUuid then r
  else if (r.known? d.id).isSome then r
  else (r.book d).queueEndpoint d

end Registry

namespace Session

def removeService (p : Properties) (s : Session O) : Session O :=
  match p.int64? Key.serviceId with
  | none => s
  | some serviceId =>
    (s.modify fun r =>
      { r with
        services := r.services.erase serviceId
        toBeExported := r.toBeExported.filter (· != serviceId) }).tearDownAll
          (·.serviceId == serviceId)

/-- Takes down an export whose factory goes, and queues its service again. -/
def revoke (s : Session O) (e : Export O) : Session O :=
  (s.tearDown e.exportId).modify (·.requeueService e.serviceId)

/-- Unbinds an export factory.  What it made is taken down, and the services that this concerns
queue again. -/
def detachExportFactory (name : String) (factory : Factory) (s : Session O) : Session O :=
  let s := s.modify fun r => { r with exportFactories := r.exportFactories.erase name }
  (s.registry.exports.filter (·.factory == factory)).foldl revoke s

def addExportFactory (factory : Factory) (p : Properties) (s : Session O) : Session O :=
  let name := factory.boundName p
  let bind (s : Session O) := s.modify fun r =>
    { r with exportFactories := r.exportFactories.insert name factory }
  match s.registry.exportFactories.get? name with
  | none => bind s
  | some bound => if bound = factory then s else bind (s.detachExportFactory name bound)

def removeExportFactory (factory : Factory) (p : Properties) (s : Session O) : Session O :=
  let name := factory.boundName p
  if s.registry.exportFactories.get? name = some factory then
    s.detachExportFactory name factory else s

/-- Takes down an import whose factory goes, and queues its endpoint again. -/
def release (s : Session O) (i : Import O) : Session O :=
  (s.removeImport i.description).modify (·.queueEndpoint i.description)

/-- Unbinds an import factory.  The imports of the interface are taken down, and their endpoints
queue again. -/
def detachImportFactory (env : Environment O) (interface : String) (s : Session O) : Session O :=
  let s := s.modify fun r => { r with importFactories := r.importFactories.erase interface }
  ((env.order s.journal (s.registry.imports.filter (·.interface == interface))).foldl
    release s).modify
    fun r =>
      { r with bookkeeping := r.bookkeeping.update interface fun b => { b with factory := none } }

def addImportFactory (env : Environment O) (factory : Factory) (p : Properties) (s : Session O) :
    Session O :=
  let name := factory.boundName p
  let bind (s : Session O) := s.modify fun r =>
    { r with
      bookkeeping := r.bookkeeping.update name fun b => { b with factory := some factory }
      importFactories := r.importFactories.insert name factory }
  match s.registry.importFactories.get? name with
  | none => bind s
  | some bound => if bound = factory then s else bind (s.detachImportFactory env name)

def removeImportFactory (env : Environment O) (factory : Factory) (p : Properties) (s : Session O) :
    Session O :=
  let name := factory.boundName p
  if s.registry.importFactories.get? name = some factory then s.detachImportFactory env name else s

/-- Takes an endpoint out of the queue and takes down its import; the books are left alone. -/
def withdraw (known : Endpoint) (s : Session O) : Session O :=
  (s.modify fun r =>
    { r with toBeImported := r.toBeImported.filter (·.id != known.id) }).removeImport known

/-- Forgets an endpoint.  It is told by its id; its interface is the one that it was announced
with. -/
def removeEndpoint (d : Endpoint) (s : Session O) : Session O :=
  match s.registry.known? d.id with
  | none => s
  | some known => (s.withdraw known).modify (·.unbook known)

/-- Tries all that waits, services before endpoints. -/
def reconcile (env : Environment O) (s : Session O) : Session O :=
  let s := exportAll env s.registry.toBeExported (s.modify fun r => { r with toBeExported := [] })
  importAll env s.registry.toBeImported (s.modify fun r => { r with toBeImported := [] })

/-- Takes everything down; only the factories stay bound. -/
def clear (env : Environment O) (s : Session O) : Session O :=
  let s := s.tearDownAll fun _ => true
  ((env.order s.journal s.registry.imports).foldl
    (fun s i => s.removeImport i.description) s).modify fun r =>
    { r with services := ∅, toBeExported := [], toBeImported := [], bookkeeping := ∅ }

def apply (env : Environment O) (op : Operation O) (s : Session O) : Session O :=
  match op with
  | .addService object p => s.modify (·.addService object p)
  | .removeService p => s.removeService p
  | .addExportFactory f p => s.addExportFactory f p
  | .removeExportFactory f p => s.removeExportFactory f p
  | .addImportFactory f p => s.addImportFactory env f p
  | .removeImportFactory f p => s.removeImportFactory env f p
  | .addEndpoint d => s.modify (·.addEndpoint d)
  | .removeEndpoint d => s.removeEndpoint d
  | .reconcile => s.reconcile env
  | .clear => s.clear env

def run (env : Environment O) (ops : List (Operation O)) (s : Session O) : Session O :=
  ops.foldl (fun s op => s.apply env op) s

/-- Tells a registry something, and has it do all that it can. -/
def perform (env : Environment O) (op : Operation O) (s : Session O) : Session O :=
  (s.apply env op).reconcile env

end Session

end RemoteServices
