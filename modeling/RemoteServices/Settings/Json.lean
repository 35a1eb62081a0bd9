import RemoteServices.Json.Reader
import RemoteServices.Settings

/-!
# Settings out of JSON

Settings are an object whose fields are all optional; fields of other names do not count, and no
field may be there twice.  An array stands for the fields in their order, the last ones left out at
will.

The names, the ranges and the defaults are the program's own; how fields are met, and which fault
comes first, restates the library `serde_json`.
-/
namespace RemoteServices

namespace Json

structure RecordField (α : Type) where
  name : String
  put : α → Json → Except Fault α

/-- Reads the fields of an object into a record; `seen` are the names of those read before. -/
def readNamed {α : Type} (fields : List (RecordField α)) (closed : Bool)
    (seen : List String) (a : α) :
    List (Option String × Json) → Except Fault α
  | [] => if closed then .ok a else .error .malformed
  | (none, _) :: _ => .error .malformed
  | (some name, value) :: rest =>
    match fields.find? (·.name == name) with
    | some field => do
      if seen.contains name then throw .mismatched
      readNamed fields closed (name :: seen) (← field.put a value) rest
    | none =>
      match value with
      | .broken => .error .malformed
      | _ => readNamed fields closed seen a rest

/-- Reads the items of an array into a record, in the order of the fields. -/
def readOrdered {α : Type} (closed : Bool) (a : α) :
    List (RecordField α) → List Json → Except Fault α
  | _, [] => if closed then .ok a else .error .malformed
  | [], _ :: _ => .error .malformed
  | field :: fields, value :: values => do readOrdered closed (← field.put a value) fields values

/-- The record that a value describes, over a default. -/
def readRecord {α : Type} (fields : List (RecordField α)) (default : α) : Json → Except Fault α
  | .object entries closed => readNamed fields closed [] default entries
  | .array items closed => readOrdered closed default fields items
  | value => .error value.misfit

def asText : Json → Except Fault String
  | .text (some s) => .ok s
  | value => .error value.misfit

def asOptionalText : Json → Except Fault (Option String)
  | .null => .ok none
  | value => value.asText.map some

def asBool : Json → Except Fault Bool
  | .boolean b => .ok b
  | value => .error value.misfit

def asUInt64 : Json → Except Fault UInt64
  | .number (.natural n) => .ok n
  | value => .error value.misfit

def asUInt16 (value : Json) : Except Fault UInt16 := do
  let n ← value.asUInt64
  if n.toNat < UInt16.size then return n.toUInt16 else throw .mismatched

end Json

def HttpSettings.jsonFields : List (Json.RecordField HttpSettings) := [
  ⟨"port", fun s v => return { s with port := ← v.asUInt16 }⟩,
  ⟨"bind_address", fun s v => return { s with bindAddress := ← v.asText }⟩,
  ⟨"advertise_host", fun s v => return { s with advertiseHost := ← v.asOptionalText }⟩,
  ⟨"request_timeout_secs", fun s v => return { s with requestTimeout := ← v.asUInt64 }⟩]

def HttpSettings.ofJson : Json → Except Json.Fault HttpSettings := Json.readRecord jsonFields {}

def Settings.jsonFields : List (Json.RecordField Settings) := [
  ⟨"framework_uuid", fun s v => return { s with frameworkUuid := ← v.asOptionalText }⟩,
  ⟨"import_local_endpoints", fun s v => return { s with importLocalEndpoints := ← v.asBool }⟩,
  ⟨"http", fun s v => return { s with http := ← HttpSettings.ofJson v }⟩]

def Settings.ofJson : Json → Except Json.Fault Settings := Json.readRecord jsonFields {}

def Settings.parseJson (s : String) : Except Json.Fault Settings := (Json.read s).decode ofJson

end RemoteServices
