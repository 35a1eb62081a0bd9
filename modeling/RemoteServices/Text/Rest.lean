/-!
# What a reader leaves

A reader that calls itself on what it left ends because it left less than it was given.
-/
namespace RemoteServices.Text

/-- What follows a part of the text `cs`, when the part could be read. -/
abbrev Rest (cs : List Char) := Option { r : List Char // r.length < cs.length }

/-- Keeps a rest that is indeed shorter than the text it is left from. -/
def shorten (cs : List Char) (r : List Char) : Rest cs :=
  if h : r.length < cs.length then some ⟨r, h⟩ else none

theorem shorten_of_lt {cs rest : List Char} (h : rest.length < cs.length) :
    shorten cs rest = some ⟨rest, h⟩ :=
  dif_pos h

end RemoteServices.Text
