import RemoteServices.Text.Unprintable

/-!
# Quoted texts

How a text is shown inside a message: between quotes, with the quote, the backslash and the
characters that do not print escaped.
-/
namespace RemoteServices.Text

def quoteChar (c : Char) : List Char :=
  if c = '"' then ['\\', '"']
  else if c = '\\' then ['\\', '\\']
  else if c = '\n' then ['\\', 'n']
  else if c = '\x0d' then ['\\', 'r']
  else if c = '\t' then ['\\', 't']
  else if c = '\x00' then ['\\', '0']
  else if isUnprintable c then
    '\\' :: 'u' :: '\x7b' :: (Nat.toDigits 16 c.toNat ++ ['\x7d'])
  else [c]

def quoted (s : String) : String := .ofList ('"' :: (s.toList.flatMap quoteChar ++ ['"']))

/-- Texts between quotes, in brackets. -/
def quotedList (ss : List String) : String := "[" ++ ", ".intercalate (ss.map quoted) ++ "]"

end RemoteServices.Text
