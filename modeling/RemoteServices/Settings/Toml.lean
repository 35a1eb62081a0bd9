import RemoteServices.Settings
import RemoteServices.Toml.Printer
import RemoteServices.Toml.Reader

/-!
# Settings in TOML

The settings are the entries of a document, those of the HTTP transport the entries of its table
`http`.  Entries of other names do not count.  A document of which anything cannot be used leaves
all settings at their defaults.

The names, the defaults and what is loaded are the program's own; that an array stands for a record,
and what it takes to read a field, restates the library `toml`.
-/
namespace RemoteServices

namespace Toml

/-- A field of a record: its name, and how a value of it is put into the record. -/
structure RecordField (α : Type) where
  name : String
  put : α → Toml → Option α

def readNamed {α : Type} (fields : List (RecordField α)) (a : α) : List (Key × Toml) → Option α
  | [] => some a
  | (key, value) :: entries =>
    match fields.find? (·.name == .ofList key) with
    | some field => do readNamed fields (← field.put a value) entries
    | none => readNamed fields a entries

def readOrdered {α : Type} (a : α) : List (RecordField α) → List Toml → Option α
  | field :: fields, value :: values => do readOrdered (← field.put a value) fields values
  | _, _ => some a

/-- The record that a value describes, over a default; a date or a time has no fields that count. -/
def readRecord {α : Type} (fields : List (RecordField α)) (default : α) : Toml → Option α
  | .table _ entries => readNamed fields default entries
  | .array items => readOrdered default fields items
  | .elements items => readOrdered default fields items
  | .moment => some default
  | _ => none

def asText? : Toml → Option String
  | .text s => some (.ofList s)
  | _ => none

def asBool? : Toml → Option Bool
  | .boolean b => some b
  | _ => none

def asNat? (bound : Nat) : Toml → Option Nat
  | .integer n => if 0 ≤ n ∧ n.toInt.toNat < bound then some n.toInt.toNat else none
  | _ => none

end Toml

def HttpSettings.tomlFields : List (Toml.RecordField HttpSettings) := [
  ⟨"port", fun s v => return { s with port := .ofNat (← v.asNat? UInt16.size) }⟩,
  ⟨"bind_address", fun s v => return { s with bindAddress := ← v.asText? }⟩,
  ⟨"advertise_host", fun s v => return { s with advertiseHost := some (← v.asText?) }⟩,
  ⟨"request_timeout_secs", fun s v =>
    return { s with requestTimeout := .ofNat (← v.asNat? UInt64.size) }⟩]

def HttpSettings.ofToml : Toml → Option HttpSettings := Toml.readRecord tomlFields {}

namespace Settings

def tomlFields : List (Toml.RecordField Settings) := [
  ⟨"framework_uuid", fun s v => return { s with frameworkUuid := some (← v.asText?) }⟩,
  ⟨"import_local_endpoints", fun s v => return { s with importLocalEndpoints := ← v.asBool? }⟩,
  ⟨"http", fun s v => return { s with http := ← HttpSettings.ofToml v }⟩]

def ofToml : Toml → Option Settings := Toml.readRecord tomlFields {}

def parseToml (s : String) : Option Settings := (Toml.read s.toList).bind ofToml

inductive Source
  | absent
  /-- Something that is no file, or a file that is no text. -/
  | unreadable
  | text (s : String)

def Source.ofBytes (bytes : ByteArray) : Source :=
  match String.fromUTF8? bytes with
  | some s => .text s
  | none => .unreadable

def ofSource : Source → Settings
  | .text s => (parseToml s).getD {}
  | _ => {}

/-- The settings to start with, from what is found and the port that the environment asks for. -/
def load (source : Source) (portText : Option String) : Settings :=
  (ofSource source).withPortText portText

def entryLine (name : String) (value : List Char) : List Char :=
  name.toList ++ " = ".toList ++ value ++ ['\n']

def textLine (name : String) : Option String → List Char
  | some s => entryLine name (Toml.quote s.toList)
  | none => []

/-- The settings as a document; a time to wait that no signed integer of 64 bits holds cannot be
written. -/
def toToml? (s : Settings) : Option String :=
  if s.http.requestTimeout.toNat ≤ Text.maxInt64 then
    some (.ofList (textLine "framework_uuid" s.frameworkUuid ++
      entryLine "import_local_endpoints" (toString s.importLocalEndpoints).toList ++
      "\n[http]\n".toList ++
      entryLine "port" (toString s.http.port.toNat).toList ++
      textLine "bind_address" (some s.http.bindAddress) ++
      textLine "advertise_host" s.http.advertiseHost ++
      entryLine "request_timeout_secs" (toString s.http.requestTimeout.toNat).toList))
  else none

end Settings

end RemoteServices
