import RemoteServices.Http.Location
import RemoteServices.Http.Message
import RemoteServices.Registry.Operation

/-!
# The echo service

A service whose answer to a call is what the call carried, and a process that exports it over HTTP.
-/
namespace RemoteServices.Echo

/-- Services and handlers that have nothing to remember, and no proxies. -/
def objects : Objects := ⟨Unit, Unit, Empty⟩

def interface : String := "tether.Echo"

def properties : Properties :=
  .ofList [(Key.serviceId, "1"), (Key.objectClass, interface),
    (Key.exportedInterfaces, Key.everything)]

def factory : Factory := ⟨"echo", interface⟩

def handle (payload : Http.Payload) : Option Http.Payload := some payload

def environment (l : Http.Location) (freshId : Nat → String) : Environment objects where
  configurationType := Key.httpConfigurationType
  freshId j := freshId j.newIds.length
  connection _ serviceId interface := l.connection serviceId interface
  wrap _ _ _ _ := .ok ()
  proxy _ _ _ := .error "no proxies"

def session (frameworkUuid : String) (l : Http.Location) (freshId : Nat → String) :
    Session objects :=
  let env := environment l freshId
  ((Session.ofRegistry (.empty frameworkUuid false)).perform env
    (.addExportFactory factory ∅)).perform env
    (.addService () properties)

end RemoteServices.Echo
