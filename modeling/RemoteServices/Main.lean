import RemoteServices.Cli
import RemoteServices.Uuid

/-!
# The program's contact with the system

Arguments, environment, files and the standard streams.  There is no network here, so nothing can be
listened on and no endpoint is reached.
-/
namespace RemoteServices.Cli

def findSource (path : String) : IO Settings.Source := do
  try
    return .ofBytes (← IO.FS.readBinFile path)
  catch _ => return .unreadable

def randomId : IO String := do
  return Uuid.ofRandom (.ofNat (← IO.rand 0 (UInt64.size - 1)))
    (.ofNat (← IO.rand 0 (UInt64.size - 1)))

def usualPath (home : Option String) : String := home.getD "/tmp" ++ "/.tether/config.toml"

def start (arguments : List String) : IO UInt32 := do
  let path := match readArguments arguments with
    | .ok invocation => invocation.configPath
    | .error _ => none
  let source ← findSource (path.getD (usualPath (← IO.getEnv "HOME")))
  let ids := #[← randomId, ← randomId]
  let outcome := run
    { source := fun _ => source
      portText := ← IO.getEnv "RSA_PORT"
      network := fun _ => .error (.connectionFailed "no network")
      bind := fun _ _ => none
      freshId := fun n => ids[n % 2]?.getD "" } arguments
  (← IO.getStdout).putStr outcome.output
  for line in outcome.messages do
    (← IO.getStderr).putStrLn line
  return outcome.exitCode.toUInt32

end RemoteServices.Cli

def main (arguments : List String) : IO UInt32 := RemoteServices.Cli.start arguments
