import RemoteServices.Filter
import RemoteServices.Key

/-!
# Service spaces

The place where imported proxies become visible to the process.  Each registration gets a number of
its own, never given again, and look-ups answer in the order of these numbers.
-/
namespace RemoteServices

structure RegisteredProxy (Proxy : Type) where
  endpointId : String
  proxy : Proxy
  properties : Properties

namespace RegisteredProxy

variable {Proxy : Type}

def number (r : RegisteredProxy Proxy) : Int64 := (r.properties.int64? Key.serviceId).getD 0

end RegisteredProxy

/-- The proxies registered in one process, at most one for each endpoint. -/
structure ServiceSpace (Proxy : Type) where
  proxies : List (RegisteredProxy Proxy)
  nextNumber : Int64

namespace ServiceSpace

variable {Proxy : Type}

def empty : ServiceSpace Proxy := ⟨[], 1⟩

instance : EmptyCollection (ServiceSpace Proxy) := ⟨empty⟩
instance : Inhabited (ServiceSpace Proxy) := ⟨empty⟩

def size (s : ServiceSpace Proxy) : Nat := s.proxies.length

def isEmpty (s : ServiceSpace Proxy) : Bool := s.proxies.isEmpty

def registration (number : Int64) (interface : String) (p : Properties) : Properties :=
  ((p.set Key.serviceId (Text.int64Text number)).set Key.objectClass interface).set
    Key.imported "true"

def unregister (s : ServiceSpace Proxy) (endpointId : String) : ServiceSpace Proxy :=
  { s with proxies := s.proxies.filter (·.endpointId != endpointId) }

/-- Registers a proxy, in the place of the one that the endpoint had. -/
def register (s : ServiceSpace Proxy) (endpointId interface : String) (proxy : Proxy)
    (p : Properties) : ServiceSpace Proxy where
  proxies := (s.unregister endpointId).proxies ++
    [⟨endpointId, proxy, registration s.nextNumber interface p⟩]
  nextNumber := s.nextNumber + 1

/-- The proxies whose properties satisfy the filter, in the order of their numbers. -/
def find (s : ServiceSpace Proxy) (f : Filter) : List (RegisteredProxy Proxy) :=
  (s.proxies.filter fun r => f.matches r.properties).mergeSort fun a b => a.number ≤ b.number

def firstOf (s : ServiceSpace Proxy) (interface : String) : Option (RegisteredProxy Proxy) :=
  (s.find (.exactly Key.objectClass interface)).head?

def get? (s : ServiceSpace Proxy) (interface : String) : Option Proxy :=
  (s.firstOf interface).map RegisteredProxy.proxy

end ServiceSpace

end RemoteServices
