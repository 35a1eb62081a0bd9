import RemoteServices.Registry.Operation
import RemoteServices.ServiceSpace

/-!
# Processes that discover each other

Several processes, each with an administrator and a service space, share one directory of published
endpoints.  An administrator takes what it is told, does all that its registry can, and then tells
the outside what came of it, one effect after the other.  Publishing and retracting an endpoint
tells every attached administrator, and a space may bridge: it turns each new proxy into a service
of its own process.  So one thing told leads to others, told before it is done with; an
administrator that is in the middle of its effects only queues those that such nested calls add.

What is under way is a stack of tasks; `Federation.step` takes the topmost one step further.
-/
namespace RemoteServices

variable (O : Objects)

def bridgedProperties (interface : String) (serviceId : ServiceId) (proxyInterface : String) :
    Properties :=
  .ofList [(Key.serviceId, Text.int64Text serviceId), (Key.objectClass, interface),
    (Key.exportedInterfaces, Key.everything), ("bridged", proxyInterface)]

/-- What a space does with a new proxy: it announces a service for it, numbered upwards. -/
structure Bridge where
  interface : String
  service : O.Service
  nextId : ServiceId
  announced : Table String Properties
  /-- The service for the proxy of an endpoint, under a number; without a rule of its own a space
  announces `service` for every proxy of another interface. -/
  rule : ServiceId → Endpoint → Option (O.Service × Properties) := fun number d =>
    if d.interface = interface then none
    else some (service, bridgedProperties interface number d.interface)

/-- Who looks after the registry of a process. -/
inductive Administration
  /-- Nobody: the registry is operated by hand, and nobody outside knows of it. -/
  | bare
  | present
  /-- An administrator that went away; what is known of the process outside stays known. -/
  | gone
deriving DecidableEq

structure Node where
  registry : Registry O
  dispatching : Bool
  /-- Whether it publishes to the shared directory, or nowhere. -/
  shares : Bool
  space : ServiceSpace O.Proxy
  bridge : Option (Bridge O)
  administration : Administration

/-- What happened: a registry called a factory or the transport, or the outside was told
something. -/
inductive Event
  | call (node : Nat) (c : Call)
  | effect (node : Nat) (e : Effect O)

structure Federation where
  nodes : List (Node O)
  /-- Who is attached to the directory, in order; who attached twice is told twice. -/
  peers : List Nat
  /-- The directory, in ascending order of the ids. -/
  published : List Endpoint
  /-- What happened so far, the latest first. -/
  log : List (Event O)

inductive Task
  | tell (node : Nat) (op : Operation O)
  | dispatch (node : Nat)

variable {O : Objects}

namespace Node

def isPresent (node : Node O) : Bool := node.administration == .present

def ofRegistry (r : Registry O) (administration : Administration) (shares : Bool)
    (bridge : Option (Bridge O)) : Node O where
  registry := r
  dispatching := false
  shares := shares
  space := ∅
  bridge := bridge
  administration := administration

/-- The bridge after a new proxy, and what it tells the administrator. -/
def bridgeProxy (node : Node O) (d : Endpoint) : Node O × List (Operation O) :=
  match node.bridge with
  | none => (node, [])
  | some b =>
    match b.rule b.nextId d with
    | none => (node, [])
    | some (service, p) =>
      let b := { b with nextId := b.nextId + 1, announced := b.announced.insert d.id p }
      ({ node with bridge := some b }, [.addService service p])

def unbridgeProxy (node : Node O) (endpointId : String) : Node O × List (Operation O) :=
  match node.bridge with
  | none => (node, [])
  | some b =>
    match b.announced.get? endpointId with
    | none => (node, [])
    | some p =>
      ({ node with bridge := some { b with announced := b.announced.erase endpointId } },
        [.removeService p])

end Node

/-- The endpoints, with `d` in its place among them. -/
def insertEndpoint (d : Endpoint) : List Endpoint → List Endpoint
  | [] => [d]
  | e :: es =>
    if d.id < e.id then d :: e :: es
    else if d.id = e.id then d :: es
    else e :: insertEndpoint d es

namespace Federation

def empty : Federation O := ⟨[], [], [], []⟩

instance : EmptyCollection (Federation O) := ⟨empty⟩
instance : Inhabited (Federation O) := ⟨empty⟩

def modifyNode (w : Federation O) (n : Nat) (f : Node O → Node O) : Federation O :=
  { w with nodes := w.nodes.modify n f }

def livePeers (w : Federation O) : List Nat :=
  w.peers.filter fun n => (w.nodes[n]?).any Node.isPresent

def onRegistry (envs : Nat → List (Event O) → Environment O)
    (act : Environment O → Session O → Session O) (n : Nat) (w : Federation O) : Federation O :=
  match w.nodes[n]? with
  | none => w
  | some node =>
    let s := act (envs n w.log) (.ofRegistry node.registry)
    { w.modifyNode n fun node => { node with registry := s.registry } with
      log := s.journal.map (.call n) ++ w.log }

def publish (w : Federation O) (n : Nat) (d : Endpoint) : List (Task O) × Federation O :=
  if (w.nodes[n]?).any Node.shares then
    (w.livePeers.map (.tell · (.addEndpoint d)),
      { w with published := insertEndpoint d w.published })
  else ([], w)

def retract (w : Federation O) (n : Nat) (d : Endpoint) : List (Task O) × Federation O :=
  if (w.nodes[n]?).any Node.shares then
    (w.livePeers.map (.tell · (.removeEndpoint d)),
      { w with published := w.published.filter (·.id != d.id) })
  else ([], w)

/-- Tells the outside of node `n` of an effect, and finds what this leads to. -/
def deliver (w : Federation O) (n : Nat) (e : Effect O) : List (Task O) × Federation O :=
  let w := { w with log := .effect n e :: w.log }
  match e with
  | .publish d => w.publish n d
  | .retract d => w.retract n d
  | .register d proxy =>
    match w.nodes[n]? with
    | none => ([], w)
    | some node =>
      let (node, ops) := { node with
        space := node.space.register d.id d.interface proxy d.properties }.bridgeProxy d
      (ops.map (.tell n), w.modifyNode n fun _ => node)
  | .unregister endpointId =>
    match w.nodes[n]? with
    | none => ([], w)
    | some node =>
      let (node, ops) :=
        { node with space := node.space.unregister endpointId }.unbridgeProxy endpointId
      (ops.map (.tell n), w.modifyNode n fun _ => node)

/-- Takes the topmost task one step further. -/
def step (envs : Nat → List (Event O) → Environment O) :
    List (Task O) × Federation O → List (Task O) × Federation O
  | ([], w) => ([], w)
  | (.tell n op :: tasks, w) =>
    let w' := w.onRegistry envs (Session.perform · op) n
    match w.nodes[n]? with
    | none => (tasks, w)
    | some node =>
      if node.dispatching then (tasks, w')
      else (.dispatch n :: tasks, w'.modifyNode n fun node => { node with dispatching := true })
  | (.dispatch n :: tasks, w) =>
    match (w.nodes[n]?).bind (·.registry.takeEffect) with
    | none => (tasks, w.modifyNode n fun node => { node with dispatching := false })
    | some (e, r) =>
      let (next, w) := (w.modifyNode n fun node => { node with registry := r }).deliver n e
      (next ++ .dispatch n :: tasks, w)

def run (envs : Nat → List (Event O) → Environment O) :
    Nat → List (Task O) × Federation O → Option (Federation O)
  | _, ([], w) => some w
  | 0, _ => none
  | fuel + 1, c => run envs fuel (step envs c)

/-- The administrator of a node, if there is one, begins to be told of changes of the directory, and
is told all that it holds now. -/
def attach (w : Federation O) (n : Nat) : List (Task O) × Federation O :=
  if (w.nodes[n]?).any Node.isPresent then
    (w.published.map (.tell n <| .addEndpoint ·), { w with peers := w.livePeers ++ [n] })
  else ([], w)

def join (w : Federation O) (node : Node O) : Federation O := { w with nodes := w.nodes ++ [node] }

/-- The administrator of a node goes away; its space stays. -/
def drop (w : Federation O) (n : Nat) : Federation O :=
  w.modifyNode n fun node => if node.isPresent then { node with administration := .gone } else node

/-- The node that answers for a framework id: the latest whose administrator came with that id, and
no other if that one has gone. -/
def find? (w : Federation O) (frameworkUuid : String) : Option (Node O) :=
  (w.nodes.reverse.find? fun node =>
    node.administration != .bare && node.registry.frameworkUuid ==
      frameworkUuid).filter Node.isPresent

end Federation

end RemoteServices
