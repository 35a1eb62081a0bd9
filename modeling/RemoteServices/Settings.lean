import RemoteServices.Error
import RemoteServices.Ip.Reader

/-!
# Settings

What an administrator of remote services is started with.  Every setting has a default, so the empty
settings are usable.
-/
namespace RemoteServices

structure HttpSettings where
  /-- The port to listen on; with 0 the system picks one. -/
  port : UInt16 := 8888
  bindAddress : String := "0.0.0.0"
  /-- The host named in published URLs, in place of the address to listen on. -/
  advertiseHost : Option String := none
  /-- How long to wait for an answer, in seconds. -/
  requestTimeout : UInt64 := 30
deriving DecidableEq

structure Settings where
  /-- The id of this process; without it one is made up. -/
  frameworkUuid : Option String := none
  /-- Whether endpoints that this process published itself are imported again. -/
  importLocalEndpoints : Bool := false
  http : HttpSettings := {}
deriving DecidableEq

namespace HttpSettings

def listenAddress (s : HttpSettings) : Except RemoteError Ip :=
  match Ip.ofChars? s.bindAddress.toList with
  | some ip => .ok ip
  | none =>
    .error (.config ("invalid bind_address '" ++ s.bindAddress ++ "': invalid IP address syntax"))

/-- The host that published URLs name: the one that is set, or the address to listen on, where
the loopback address stands in for an address that is no particular one. -/
def advertisedHost (s : HttpSettings) : String :=
  match s.advertiseHost with
  | some host => if host.isEmpty then fromAddress else host
  | none => fromAddress
where
  fromAddress : String :=
    match Ip.ofChars? s.bindAddress.toList with
    | some ip => if ip.isUnspecified then "127.0.0.1" else s.bindAddress
    | none => s.bindAddress

def timeoutSeconds (s : HttpSettings) : UInt64 := max s.requestTimeout 1

end HttpSettings

namespace Settings

/-- The id of the process: the one that is set, or a fresh one if that is blank. -/
def uuidOr (s : Settings) (fresh : String) : String :=
  match s.frameworkUuid with
  | some uuid => if Text.isBlankText uuid then fresh else uuid
  | none => fresh

/-- The settings with the port that the environment asks for; a text that is no port asks for
nothing. -/
def withPortText (s : Settings) : Option String → Settings
  | none => s
  | some text =>
    match Text.readUInt16 (Text.trimmed text.toList) with
    | .ok port => { s with http := { s.http with port := port } }
    | .error _ => s

end Settings

end RemoteServices
