import RemoteServices.Text.CombiningClass
import RemoteServices.Text.Composition

/-!
# The canonical form of a text

Texts that differ only in which of their characters are composed, and in the order of marks that do
not meet, are one text.  Its canonical form has the marks in the order of their classes and is
composed as far as it can be.

The library `url` brings the names of hosts into this form; this restates it.
-/
namespace RemoteServices.Text

abbrev Classed := Nat × Char

def classed (c : Char) : Classed := (combiningClass c, c)

/-- Puts a mark before the marks of its own class and above, and after those of lower classes. -/
def putMark (c : Classed) : List Classed → List Classed
  | [] => [c]
  | d :: ds => if 0 < d.1 ∧ d.1 < c.1 then d :: putMark c ds else c :: d :: ds

def sortMarks : List Classed → List Classed
  | [] => []
  | c :: cs => putMark c (sortMarks cs)

/-- Composes a text that starts with the character `c` and the marks `held`, the last of them first,
which are not composed with it.  A character that stands right after `c`, or after marks of lower
classes only, may be composed with `c`. -/
def composeAfter (c : Char) (held : List Classed) : List Classed → List Char
  | [] => c :: held.reverse.map (·.2)
  | d :: ds =>
    match if held.all (·.1 < d.1) then compose? c d.2 else none with
    | some e => composeAfter e held ds
    | none =>
      if d.1 = 0 then c :: (held.reverse.map (·.2) ++ composeAfter d.2 [] ds) else
        composeAfter c (d :: held) ds

def composed : List Classed → List Char
  | [] => []
  | c :: cs => if c.1 = 0 then composeAfter c.2 [] cs else c.2 :: composed cs

def canonical (cs : List Char) : List Char := composed (sortMarks ((cs.flatMap parts).map classed))

end RemoteServices.Text
