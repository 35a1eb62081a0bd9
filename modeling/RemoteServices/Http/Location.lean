import RemoteServices.Key
import RemoteServices.Properties
import RemoteServices.Settings
import RemoteServices.Url

/-!
# Where endpoints are served over HTTP

Every endpoint of a process has a URL of its own, `http://host:port/service/number/interface`.  The
host comes from the settings; its text is spliced into a URL that is then read, so a text that means
more than a host in a URL means it here too.
-/
namespace RemoteServices.Http

structure Location where
  settings : HttpSettings
  port : UInt16
deriving DecidableEq

namespace Location

/-- The location that the settings alone tell. -/
def ofSettings (s : HttpSettings) : Location := ⟨s, s.port⟩

/-- The location once the process listens, where `bind` listens at an address and tells the port. -/
def listen (bind : Ip → UInt16 → Option UInt16) (s : HttpSettings) :
    Except RemoteError Location := do
  let ip ← s.listenAddress
  match bind ip s.port with
  | some port => return ⟨s, port⟩
  | none => throw (.transport ("failed to bind " ++ ip.renderSocket s.port))

/-- The text after `http:` of the URL below which all endpoints are. -/
def baseText (l : Location) : List Char :=
  let host := l.settings.advertisedHost.toList
  let host := if (Ip6.ofChars? host).isSome then '[' :: (host ++ [']']) else host
  '/' :: '/' :: (host ++ ':' :: ((toString l.port.toNat).toList ++ ['/']))

def base (l : Location) : Except RemoteError Url :=
  (Url.read l.baseText).mapError fun fault =>
    .config ("invalid endpoint base 'http:" ++ .ofList l.baseText ++ "': " ++ fault.message)

def endpointUrl (l : Location) (serviceId : Int64) (interface : String) :
    Except RemoteError Url := do
  return (← l.base).withPath
    ["service".toList, (Text.int64Text serviceId).toList, interface.toList]

/-- What an endpoint's description says on how to reach it. -/
def connection (l : Location) (serviceId : Int64) (interface : String) :
    Except RemoteError Properties := do
  return (∅ : Properties).set Key.httpUrl (← l.endpointUrl serviceId interface).render

end Location

end RemoteServices.Http
