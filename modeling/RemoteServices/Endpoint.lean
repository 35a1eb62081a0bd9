import RemoteServices.Key
import RemoteServices.Error
import RemoteServices.Properties

/-!
# Endpoint descriptions

A description identifies one remotely reachable pair of a service and an interface.  What travels is
its property map alone; the typed fields are always kept inside it, so they can be read back.
-/
namespace RemoteServices

abbrev ServiceId := Int64

/-- One exported pair of a service and an interface. -/
structure Endpoint where
  id : String
  serviceId : ServiceId
  frameworkUuid : String
  interface : String
  properties : Properties
  id_eq : properties.get? Key.endpointId = some id
  serviceId_eq : properties.get? Key.endpointServiceId = some (Text.int64Text serviceId)
  frameworkUuid_eq : properties.get? Key.frameworkUuid = some frameworkUuid
  interface_eq : properties.get? Key.objectClass = some interface
  imported_eq : properties.get? Key.imported = some "true"
deriving DecidableEq

namespace Endpoint

/-- The properties that identify an endpoint, over the given ones. -/
def identify (id : String) (serviceId : ServiceId) (frameworkUuid interface : String)
    (p : Properties) : Properties :=
  ((((p.set Key.endpointId id).set Key.endpointServiceId (Text.int64Text serviceId)).set
    Key.frameworkUuid frameworkUuid).set Key.objectClass interface).set Key.imported "true"

/-- The endpoint with these fields, described by `p` and the identifying properties. -/
def make (id : String) (serviceId : ServiceId) (frameworkUuid interface : String)
    (p : Properties) : Endpoint where
  id := id
  serviceId := serviceId
  frameworkUuid := frameworkUuid
  interface := interface
  properties := identify id serviceId frameworkUuid interface p
  id_eq := by simp [identify, Properties.get?_set, Key.endpointId, Key.imported, Key.objectClass,
    Key.frameworkUuid, Key.endpointServiceId]
  serviceId_eq := by simp [identify, Properties.get?_set, Key.endpointServiceId, Key.imported,
    Key.objectClass, Key.frameworkUuid]
  frameworkUuid_eq := by simp [identify, Properties.get?_set, Key.imported, Key.objectClass,
    Key.frameworkUuid]
  interface_eq := by simp [identify, Properties.get?_set, Key.imported, Key.objectClass]
  imported_eq := by simp [identify]

inductive Fault
  | missing (key : String)
  | serviceIdNotANumber (fault : Text.DecimalFault)
  | noInterface (id : String)
  | manyInterfaces (id : String)
deriving DecidableEq, Repr

namespace Fault

def message : Fault → String
  | .missing key => "missing required property '" ++ key ++ "'"
  | .serviceIdNotANumber fault =>
    Key.endpointServiceId ++ " is not a number: " ++ fault.message
  | .noInterface id => "endpoint " ++ id ++ " has no " ++ Key.objectClass
  | .manyInterfaces id => "endpoint " ++ id ++ " names more than one interface"

end Fault

/-- The value of a property that must hold more than white space. -/
def required (p : Properties) (key : String) : Except Fault String :=
  match p.get? key with
  | some v => if Text.isBlankText v then .error (.missing key) else .ok v
  | none => .error (.missing key)

def ofProperties (p : Properties) : Except Fault Endpoint := do
  let id ← required p Key.endpointId
  let number ← required p Key.endpointServiceId
  let serviceId ←
    match Text.readInt64 (Text.trimmed number.toList) with
    | .ok n => pure n
    | .error fault => throw (.serviceIdNotANumber fault)
  let frameworkUuid ← required p Key.frameworkUuid
  match p.list Key.objectClass with
  | [interface] => return make id serviceId frameworkUuid interface p
  | [] => throw (.noInterface id)
  | _ => throw (.manyInterfaces id)

def property? (e : Endpoint) (key : String) : Option String := e.properties.get? key

end Endpoint

end RemoteServices
