/-!
# White space, trimming and comma-separated lists

White space is Unicode's property `White_Space`.  A list-valued text holds items separated by
commas; the items count without the white space around them, and empty items do not count.
-/
namespace RemoteServices.Text

/-- The characters with the property `White_Space`. -/
def isBlank (c : Char) : Bool :=
  let n := c.toNat
  (9 ≤ n && n ≤ 13) || n == 0x20 || n == 0x85 || n == 0xA0 || n == 0x1680 ||
    (0x2000 ≤ n && n ≤ 0x200A) || n == 0x2028 || n == 0x2029 || n == 0x202F || n == 0x205F ||
    n == 0x3000

def trimmed (cs : List Char) : List Char :=
  ((cs.dropWhile isBlank).reverse.dropWhile isBlank).reverse

def trim (s : String) : String := .ofList (trimmed s.toList)

def isBlankText (s : String) : Bool := (trimmed s.toList).isEmpty

/-- The pieces between the occurrences of `sep`; a text without it is one piece. -/
def pieces (sep : Char) : List Char → List (List Char)
  | [] => [[]]
  | c :: cs =>
    if c = sep then [] :: pieces sep cs
    else match pieces sep cs with
      | [] => [[c]]
      | p :: ps => (c :: p) :: ps

def commaItems (s : String) : List String :=
  (((pieces ',' s.toList).map trimmed).filter (! ·.isEmpty)).map .ofList

theorem pieces_ne_nil (sep : Char) (cs : List Char) : pieces sep cs ≠ [] := by
  cases cs with
  | nil => simp [pieces]
  | cons c cs =>
    rw [pieces]
    split
    · simp
    · split <;> simp

end RemoteServices.Text
