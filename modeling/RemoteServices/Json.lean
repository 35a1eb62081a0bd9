/-!
# JSON documents, possibly broken

A reader of a JSON document meets its parts in order and stops at the first thing that it cannot
use: a value of another shape than it wants, or a place where the text is no JSON.  A `Json` value
keeps what precedes such a place, and marks it, so that which of the two comes first can be told
later.

The program leaves JSON to the library `serde_json`; this module, `Json.Magnitude`, `Json.Reader`
and `Json.Printer` restate what that library does, and nothing in them is the program's own.
-/
namespace RemoteServices

inductive Json.Number
  | natural (n : UInt64)
  | negative (n : Int64)
  /-- A number that no integer of 64 bits equals, or that is written with a fraction or an
  exponent. -/
  | other
  /-- A number beyond the range of double precision. -/
  | beyond
deriving DecidableEq

/-- A JSON value, up to the place where the text breaks off. -/
inductive Json
  | null
  | boolean (b : Bool)
  | number (n : Json.Number)
  /-- A string; `none` when its escapes name no characters. -/
  | text (s : Option String)
  /-- The items, and whether the closing bracket was reached. -/
  | array (items : List Json) (closed : Bool)
  /-- The fields in order, and whether the closing brace was reached. -/
  | object (fields : List (Option String × Json)) (closed : Bool)
  | broken

namespace Json

inductive Fault
  /-- It is not JSON, or breaks off. -/
  | malformed
  /-- It is JSON up to a value of the wrong shape or range. -/
  | mismatched
deriving DecidableEq, Repr

/-- The fault of a value that another kind of value was wanted for. -/
def misfit : Json → Fault
  | .broken => .malformed
  | .text none => .malformed
  | .number .beyond => .malformed
  | _ => .mismatched

structure Document where
  value : Json
  complete : Bool

/-- What `decode` makes of the document's value; anything after the value is a fault found last. -/
def Document.decode {α : Type} (d : Document) (decode : Json → Except Fault α) : Except Fault α :=
  match decode d.value with
  | .error fault => .error fault
  | .ok a => if d.complete then .ok a else .error .malformed

end Json

end RemoteServices
