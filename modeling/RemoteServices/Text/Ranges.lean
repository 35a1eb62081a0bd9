/-!
# Ranges of characters

Unicode gives a property to whole ranges of characters; a property is written here as the list of
its ranges, each with its first and its last code.
-/
namespace RemoteServices.Text

def isAscii (c : Char) : Bool := c.toNat < 0x80

abbrev Ranges := List (Nat × Nat)

def Ranges.has (ranges : Ranges) (c : Char) : Bool :=
  ranges.any fun (first, last) => first ≤ c.toNat && c.toNat ≤ last

end RemoteServices.Text
