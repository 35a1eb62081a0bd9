import RemoteServices.Filter

/-!
# The text of a filter

A filter is written in prefix form, every part in parentheses: `(&..)`, `(|..)`, `(!..)`, `(key=*)`
for presence and `(key=value)` for equality, with a star between two chunks.  Inside a value a
backslash precedes each parenthesis, star and backslash that stands for itself.
-/
namespace RemoteServices.Filter

/-- The characters that stand for themselves only after a backslash. -/
def isSpecial (c : Char) : Bool := c == '(' || c == ')' || c == '*' || c == '\\'

def escape : List Char → List Char
  | [] => []
  | c :: cs => if isSpecial c then '\\' :: c :: escape cs else c :: escape cs

def renderChunks : List (List Char) → List Char
  | [] => []
  | [chunk] => escape chunk
  | chunk :: chunks => escape chunk ++ '*' :: renderChunks chunks

mutual

def render : Filter → List Char
  | .all parts => '(' :: '&' :: (renderParts parts ++ [')'])
  | .any parts => '(' :: '|' :: (renderParts parts ++ [')'])
  | .negation part => '(' :: '!' :: (render part ++ [')'])
  | .present key => '(' :: (key.toList ++ ['=', '*', ')'])
  | .equal key chunks =>
    '(' :: (key.toList ++ '=' :: (renderChunks (chunks.map String.toList) ++ [')']))

def renderParts : List Filter → List Char
  | [] => []
  | f :: fs => render f ++ renderParts fs

end

def toText (f : Filter) : String := .ofList f.render

end RemoteServices.Filter
