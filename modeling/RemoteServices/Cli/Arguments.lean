import RemoteServices.Text.Decimal

/-!
# The command line

A command line is a command and its options, each of which takes a value.  The value follows the
option's name as the next argument or after an equals sign; a value of its own never starts with a
dash.  What an option was given is checked when the next option comes or the line ends, unless that
option is at fault itself.

The commands and their options are the program's own; how a line is taken apart and what is said of
it restates the library `clap`.
-/
namespace RemoteServices.Cli

inductive Command
  | serve (port : Option UInt16)
  | call (url data : String) (timeout : Option UInt64)
  | config
deriving DecidableEq

structure Invocation where
  configPath : Option String
  command : Command
deriving DecidableEq

inductive Fault
  | unrecognizedSubcommand (name : String)
  | unexpectedArgument (argument : String)
  | unexpectedValue (value option : String)
  | invalidValue (value option reason : String)
  | valueRequired (option : String)
  | repeated (option : String)
  | missingArguments (options : List String)
  | missingSubcommand
deriving DecidableEq, Repr

namespace Fault

def message : Fault → String
  | .unrecognizedSubcommand name => "unrecognized subcommand '" ++ name ++ "'"
  | .unexpectedArgument argument => "unexpected argument '" ++ argument ++ "' found"
  | .unexpectedValue value option =>
    "unexpected value '" ++ value ++ "' for '" ++ option ++ "' found; no more were expected"
  | .invalidValue value option reason =>
    "invalid value '" ++ value ++ "' for '" ++ option ++ "': " ++ reason
  | .valueRequired option => "a value is required for '" ++ option ++ "' but none was supplied"
  | .repeated option => "the argument '" ++ option ++ "' cannot be used multiple times"
  | .missingArguments options =>
    "the following required arguments were not provided:" ++ String.join (options.map ("\n  " ++ ·))
  | .missingSubcommand => "'tether' requires a subcommand but one was not provided"

end Fault

inductive Stop
  | fault (f : Fault)
  /-- Help is shown, because it was asked for or because there is nothing else on the line. -/
  | help (asked : Bool)
  | version
deriving DecidableEq, Repr

structure Flag where
  name : String
  short : Option Char
  placeholder : String
  /-- What is wrong with a value, if anything is. -/
  check : String → Option Fault

namespace Flag

def label (name placeholder : String) : String := "--" ++ name ++ " <" ++ placeholder ++ ">"

def shown (f : Flag) : String := label f.name f.placeholder

def config : Flag where
  name := "config"
  short := none
  placeholder := "CONFIG"
  check v := if v.isEmpty then some (.valueRequired (label "config" "CONFIG")) else none

def maxPort : Int := 65535

def readPort (v : String) : Except Fault UInt16 :=
  match Text.readInt64 v.toList with
  | .error e => .error (.invalidValue v (label "port" "PORT") e.message)
  | .ok n =>
    if 0 ≤ n.toInt ∧ n.toInt ≤ maxPort then .ok (.ofNat n.toInt.toNat)
    else .error (.invalidValue v (label "port" "PORT") (Text.int64Text n ++ " is not in 0..=65535"))

def readTimeout (v : String) : Except Fault UInt64 :=
  (Text.readUInt64 v.toList).mapError fun e => .invalidValue v (label "timeout" "TIMEOUT") e.message

def faultOf {α : Type} : Except Fault α → Option Fault
  | .error f => some f
  | .ok _ => none

def port : Flag := ⟨"port", some 'p', "PORT", fun v => faultOf (readPort v)⟩

def url : Flag := ⟨"url", none, "URL", fun _ => none⟩

def data : Flag := ⟨"data", none, "DATA", fun _ => none⟩

def timeout : Flag := ⟨"timeout", none, "TIMEOUT", fun v => faultOf (readTimeout v)⟩

end Flag

/-- One level of the command line: before the command, or after it. -/
structure Level where
  flags : List Flag
  commands : List String
  /-- Whether the version may be asked for. -/
  versioned : Bool

structure Reading where
  values : List (String × String)
  /-- The option that is not checked yet, and its value if that was there. -/
  pending : Option (Flag × Option String)
  afterDashes : Bool

namespace Reading

def start : Reading := ⟨[], none, false⟩

def value? (r : Reading) (f : Flag) : Option String := r.values.lookup f.name

def give (r : Reading) (f : Flag) (v : String) : Except Stop Reading :=
  if (r.value? f).isSome then .error (.fault (.repeated f.shown))
  else
    match f.check v with
    | some fault => .error (.fault fault)
    | none => .ok { r with values := r.values ++ [(f.name, v)] }

def settle (r : Reading) : Except Stop Reading :=
  match r.pending with
  | none => .ok r
  | some (f, none) => .error (.fault (.valueRequired f.shown))
  | some (f, some v) => { r with pending := none }.give f v

def awaitsValue (r : Reading) : Bool := r.pending.any (·.2.isNone)

def option (r : Reading) (f : Flag) (attached : Option String) : Except Stop Reading := do
  let r ← r.settle
  match attached with
  | some v => r.give f v
  | none => return { r with pending := some (f, none) }

end Reading

def splitAttached (cs : List Char) : String × Option String :=
  (.ofList (cs.takeWhile (· != '=')),
    match cs.dropWhile (· != '=') with
    | [] => none
    | _ :: v => some (.ofList v))

def takeLong (level : Level) (r : Reading) (cs : List Char) : Except Stop Reading :=
  let (name, attached) := splitAttached cs
  match level.flags.find? (·.name == name) with
  | some f => r.option f attached
  | none =>
    if name = "help" ∨ (name = "version" ∧ level.versioned) then
      match attached with
      | some v => .error (.fault (.unexpectedValue v ("--" ++ name)))
      | none => do
        let _ ← r.settle
        throw (if name = "help" then .help true else .version)
    else .error (.fault (.unexpectedArgument ("--" ++ name)))

def takeShort (level : Level) (r : Reading) (c : Char) (cs : List Char) : Except Stop Reading :=
  match level.flags.find? (·.short == some c) with
  | some f =>
    r.option f <|
      match cs with
      | [] => none
      | '=' :: v => some (.ofList v)
      | v => some (.ofList v)
  | none =>
    if c = 'h' ∨ (c = 'V' ∧ level.versioned) then do
      let _ ← r.settle
      throw (if c = 'h' then .help true else .version)
    else .error (.fault (.unexpectedArgument (.ofList ['-', c])))

/-- An argument that is neither an option nor a value. -/
def stray (level : Level) (r : Reading) (argument : String) : Fault :=
  if level.commands.isEmpty ∨ (r.afterDashes ∧ level.commands.contains argument) then
    .unexpectedArgument argument
  else .unrecognizedSubcommand argument

def takeArgument (level : Level) (r : Reading) (argument : String) : Except Stop Reading :=
  if r.afterDashes then .error (.fault (stray level r argument))
  else
    match argument.toList with
    | ['-', '-'] => .ok { r with afterDashes := true }
    | '-' :: '-' :: cs => takeLong level r cs
    | '-' :: c :: cs => takeShort level r c cs
    | _ =>
      match r.pending with
      | some (f, none) => .ok { r with pending := some (f, some argument) }
      | _ => .error (.fault (stray level r argument))

def readLevel (level : Level) (r : Reading) :
    List String → Except Stop (Reading × Option (String × List String))
  | [] => .ok (r, none)
  | argument :: arguments =>
    if ! r.afterDashes && ! r.awaitsValue && level.commands.contains argument then
      .ok (r, some (argument, arguments))
    else do readLevel level (← takeArgument level r argument) arguments

def topLevel : Level := ⟨[.config], ["serve", "call", "config", "help"], true⟩

def levelOf (command : String) : Level :=
  match command with
  | "serve" => ⟨[.config, .port], [], false⟩
  | "call" => ⟨[.config, .url, .data, .timeout], [], false⟩
  | _ => ⟨[.config], [], false⟩

def commandOf (command : String) (r : Reading) : Except Stop Command :=
  match command with
  | "serve" => .ok (.serve ((r.value? .port).bind fun v => (Flag.readPort v).toOption))
  | "call" =>
    match r.value? .url with
    | none => .error (.fault (.missingArguments [Flag.url.shown]))
    | some url =>
      .ok (.call url ((r.value? .data).getD "\x7b\x7d")
        ((r.value? .timeout).bind fun v => (Flag.readTimeout v).toOption))
  | _ => .ok .config

/-- The answer to `help` and the names after it. -/
def readHelp : List String → Stop
  | [] => .help true
  | name :: names =>
    if topLevel.commands.contains name then
      match names with
      | [] => .help true
      | other :: _ => .fault (.unrecognizedSubcommand other)
    else .fault (.unrecognizedSubcommand name)

def readArguments (arguments : List String) : Except Stop Invocation := do
  match ← readLevel topLevel .start arguments with
  | (top, none) =>
    let top ← top.settle
    throw (if top.values.isEmpty then .help false else .fault .missingSubcommand)
  | (_, some ("help", names)) => throw (readHelp names)
  | (top, some (name, arguments)) =>
    let (own, _) ← readLevel (levelOf name) .start arguments
    let own ← own.settle
    let command ← commandOf name own
    let top ← top.settle
    return ⟨(own.value? .config).or (top.value? .config), command⟩

end RemoteServices.Cli
