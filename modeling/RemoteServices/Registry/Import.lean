import RemoteServices.Registry.Environment

/-!
# Importing endpoints

A known endpoint is imported by the factory that is bound under the name of its interface, and waits
as long as there is none.  The bookkeeping of an interface lives as long as any endpoint of it is
known.
-/
namespace RemoteServices

variable {O : Objects}

namespace Registry

/-- The bookkeeping of an interface, new if there is none. -/
def bookkeepingOf (r : Registry O) (interface : String) : Bookkeeping :=
  (r.bookkeeping.get? interface).getD (.ofFactory (r.importFactories.get? interface))

def book (r : Registry O) (d : Endpoint) : Registry O :=
  { r with
    bookkeeping :=
      r.bookkeeping.insert d.interface ((r.bookkeepingOf d.interface).addEndpoint d.id) }

def queueEndpoint (r : Registry O) (d : Endpoint) : Registry O :=
  { r with toBeImported := r.toBeImported ++ [d] }

def addImport (r : Registry O) (d : Endpoint) (proxy : O.Proxy) (factory : Factory) : Registry O :=
  emit
    { r with
      imports := r.imports ++ [⟨d, proxy, factory⟩]
      bookkeeping := r.bookkeeping.update d.interface (·.addRegistration d.id) }
    (.register d proxy)

def dropImport (r : Registry O) (d : Endpoint) : Registry O :=
  emit
    { r with
      imports := r.imports.filter (·.endpointId != d.id)
      bookkeeping := r.bookkeeping.update d.interface (·.removeRegistration d.id) }
    (.unregister d.id)

/-- Strikes an endpoint from the books; books without endpoints are closed. -/
def unbook (r : Registry O) (d : Endpoint) : Registry O :=
  match r.bookkeeping.get? d.interface with
  | none => r
  | some b =>
    let b := b.removeEndpoint d.id
    if b.endpoints.isEmpty then { r with bookkeeping := r.bookkeeping.erase d.interface }
    else { r with bookkeeping := r.bookkeeping.insert d.interface b }

end Registry

namespace Session

def importEndpoint (env : Environment O) (d : Endpoint) (s : Session O) : Session O :=
  if (s.registry.importOf? d.id).isSome then s
  else
    let s := s.modify (·.book d)
    match (s.registry.bookkeepingOf d.interface).factory with
    | none => s.modify (·.queueEndpoint d)
    | some factory =>
      match env.proxy s.journal factory d with
      | .error _ => (s.record (.createProxy factory d false)).modify (·.queueEndpoint d)
      | .ok proxy => (s.record (.createProxy factory d true)).modify (·.addImport d proxy factory)

def importAll (env : Environment O) : List Endpoint → Session O → Session O
  | [], s => s
  | d :: queue, s => importAll env queue (importEndpoint env d s)

def removeImport (s : Session O) (d : Endpoint) : Session O :=
  match s.registry.importOf? d.id with
  | none => s
  | some i => (s.record (.removeProxy i.factory i.description)).modify (·.dropImport d)

end Session

end RemoteServices
