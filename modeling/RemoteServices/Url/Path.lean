import RemoteServices.Url.Percent

/-!
# Paths of URLs

A path is a list of segments, each preceded by a slash.  A segment of one dot stands for the place
that it is in, and one of two dots for the place above, so both vanish when a path is resolved.  The
place below a segment such as `c:` is never left.

All of this restates the library `url`.
-/
namespace RemoteServices.Url

abbrev Segment := List Char

namespace Segment

/-- A dot, plain or percent-encoded, and what follows it. -/
def afterDot : Segment → Option Segment
  | '.' :: cs => some cs
  | '%' :: '2' :: 'e' :: cs => some cs
  | '%' :: '2' :: 'E' :: cs => some cs
  | _ => none

def isHere (s : Segment) : Bool := afterDot s == some []

def isAbove (s : Segment) : Bool := (afterDot s).bind afterDot == some []

def isDrive : Segment → Bool
  | [c, d] => c.isAlpha && (d == ':' || d == '|')
  | _ => false

end Segment

/-- The place above the one that is reached by the segments `down`, the last of them first. -/
def climb : List Segment → List Segment
  | [] => []
  | s :: down => if s.isDrive then s :: down else down

/-- Follows segments from the place reached by `down`. -/
def follow (down : List Segment) : List Segment → List Segment
  | [] => down.reverse
  | [s] =>
    if s.isAbove then ([] :: climb down).reverse
    else if s.isHere then ([] :: down).reverse
    else (s :: down).reverse
  | s :: path =>
    if s.isAbove then follow (climb down) path
    else if s.isHere then follow down path
    else follow (s :: down) path

def resolve (path : List Segment) : List Segment := follow [] path

/-- The segments of a path with one more at the end, made of an arbitrary text.  The texts `.` and
`..` are left out; tabs and line ends in a text are. -/
def push (path : List Segment) (text : List Char) : List Segment :=
  if text = ['.'] ∨ text = ['.', '.'] then path
  else follow path.reverse [encode reservedInSegment (text.filter fun c => ! "\t\n\x0d".contains c)]

def renderPath (path : List Segment) : List Char := path.flatMap ('/' :: ·)

end RemoteServices.Url
