import RemoteServices.Cli.Arguments
import RemoteServices.Echo
import RemoteServices.Http.Client
import RemoteServices.Json.Printer
import RemoteServices.Settings.Toml

/-!
# The program

The program exports the echo service, calls an endpoint, or shows its settings.  What it finds
around it, from the settings to the network, is a parameter, so that a run is a function of it.
-/
namespace RemoteServices.Cli

/-- What the program finds around it. -/
structure Surroundings where
  /-- What is at the path of the settings, or at their usual place. -/
  source : Option String → Settings.Source
  /-- The port that the environment asks for. -/
  portText : Option String
  network : Http.Network
  /-- Listens at an address, and tells the port. -/
  bind : Ip → UInt16 → Option UInt16
  /-- Ids, no two alike. -/
  freshId : Nat → String

structure Outcome where
  exitCode : UInt8
  output : String
  messages : List String
deriving DecidableEq

namespace Outcome

def success (output : String) : Outcome := ⟨0, output, []⟩

def failure (message : String) : Outcome := ⟨1, "", ["Error: " ++ message]⟩

end Outcome

def programVersion : String := "0.1.0"

def usage : String := "Usage: tether [OPTIONS] <COMMAND>\n"

def Stop.outcome : Stop → Outcome
  | .fault f => ⟨2, "", ["error: " ++ f.message]⟩
  | .help true => .success usage
  | .help false => ⟨2, "", [usage]⟩
  | .version => .success ("tether " ++ programVersion ++ "\n")

def serve (around : Surroundings) (s : Settings) : Except RemoteError (Session Echo.objects) := do
  let l ← Http.Location.listen around.bind s.http
  return Echo.session (s.uuidOr (around.freshId 0)) l fun n => around.freshId (n + 1)

def statusLine (status : UInt16) : String :=
  let phrase := Http.reasonPhrase status
  toString status.toNat ++ " " ++ if phrase.isEmpty then "<unknown status code>" else phrase

def call (around : Surroundings) (url data : String) : Outcome :=
  match around.network ⟨"POST", url, data.toUTF8⟩ with
  | .error _ => .failure ("POST " ++ url ++ " failed")
  | .ok response =>
    let body := Text.lossy response.body
    if response.isSuccess then .success (body ++ "\n")
    else .failure (url ++ " answered " ++ statusLine response.status ++ ": " ++ body)

/-- Carries out a command under the given settings; a server runs until it is interrupted. -/
def execute (around : Surroundings) (s : Settings) : Command → Outcome
  | .serve port =>
    let s := match port with
      | some port => { s with http := { s.http with port := port } }
      | none => s
    match serve around s with
    | .error _ => .failure "failed to start HTTP listener"
    | .ok session =>
      .success (String.join (session.registry.exports.map fun e =>
        .ofList (Json.pretty e.description.properties) ++ "\n"))
  | .call url data _ => call around url data
  | .config =>
    match s.toToml? with
    | some text => .success text
    | none => .failure "the settings cannot be written"

def run (around : Surroundings) (arguments : List String) : Outcome :=
  match readArguments arguments with
  | .error stop => stop.outcome
  | .ok invocation =>
    execute around (.load (around.source invocation.configPath) around.portText) invocation.command

end RemoteServices.Cli
