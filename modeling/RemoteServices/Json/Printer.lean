import RemoteServices.Properties
import RemoteServices.Text.Hex

/-!
# Property maps as JSON

A property map is written as an object of strings, its keys in ascending order.  Inside a string
only the quote, the backslash and the control characters below U+0020 are escaped.

All of this restates the library `serde_json`.
-/
namespace RemoteServices.Json

def escapeChar (c : Char) : List Char :=
  if c = '"' then ['\\', '"']
  else if c = '\\' then ['\\', '\\']
  else if c = '\n' then ['\\', 'n']
  else if c = '\r' then ['\\', 'r']
  else if c = '\t' then ['\\', 't']
  else if c = '\x08' then ['\\', 'b']
  else if c = '\x0c' then ['\\', 'f']
  else if c.toNat < 0x20 then
    ['\\', 'u', '0', '0', Text.lowerHex (c.toNat / 16), Text.lowerHex (c.toNat % 16)]
  else [c]

def quote (s : String) : List Char := '"' :: (s.toList.flatMap escapeChar ++ ['"'])

def field (separator : List Char) (e : String × String) : List Char :=
  quote e.1 ++ separator ++ quote e.2

/-- The fields with a comma and `gap` between each two. -/
def joinFields (separator gap : List Char) : List (String × String) → List Char
  | [] => []
  | [e] => field separator e
  | e :: es => field separator e ++ ',' :: gap ++ joinFields separator gap es

def compact (p : Properties) : List Char :=
  '\x7b' :: (joinFields [':'] [] p.entries ++ ['\x7d'])

/-- The map with one field a line, indented by two spaces. -/
def pretty (p : Properties) : List Char :=
  if p.isEmpty then ['\x7b', '\x7d']
  else
    '\x7b' :: '\n' :: ' ' :: ' ' ::
      (joinFields [':', ' '] ['\n', ' ', ' '] p.entries ++ ['\n', '\x7d'])

end RemoteServices.Json
