/-!
# Finding a text in another

A search goes from the left and stops at the first occurrence.
-/
namespace RemoteServices.Text

/-- What follows the leftmost occurrence of `part`. -/
def afterFirst (part : List Char) : List Char → Option (List Char)
  | [] => if part.isEmpty then some [] else none
  | c :: cs =>
    if part.isPrefixOf (c :: cs) then some ((c :: cs).drop part.length) else afterFirst part cs

end RemoteServices.Text
