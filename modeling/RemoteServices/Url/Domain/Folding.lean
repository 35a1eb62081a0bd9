import RemoteServices.Text.Canonical
import RemoteServices.Text.Unprintable
import RemoteServices.Url.Domain.Compounds
import RemoteServices.Url.Domain.Letters

/-!
# Folding of names

Names of hosts that differ only in the case, the width or the style of their characters, or in how
characters are composed, are one name.  Folding takes every character to those that stand for all
its forms, leaves out the characters that do not count, and refuses those that no name has.

All of this restates the library `url`.
-/
namespace RemoteServices.Url.Domain

def ignoredRanges : Text.Ranges :=
  [(0xad, 0xad), (0x34f, 0x34f), (0x115f, 0x1160), (0x17b4, 0x17b5),
    (0x180b, 0x180f), (0x200b, 0x200b),
   (0x2060, 0x2064), (0x206a, 0x206f), (0x3164, 0x3164), (0xfe00, 0xfe0f),
   (0xfeff, 0xfeff), (0xffa0, 0xffa0), (0x1bca0, 0x1bca3), (0x1d173, 0x1d17a), (0xe0100, 0xe01ef)]

/-- Characters that show something but are in no name: signs that contain a space or a full stop,
and those that describe or replace other characters. -/
def refusedRanges : Text.Ranges :=
  [(0xa8, 0xa8), (0xaf, 0xaf), (0xb4, 0xb4), (0xb8, 0xb8), (0x2d8, 0x2dd),
    (0x37a, 0x37a), (0x384, 0x384),
   (0x1fbd, 0x1fbd), (0x1fbf, 0x1fc0), (0x1fee, 0x1fee), (0x1ffd, 0x1ffe),
   (0x2017, 0x2017), (0x2024, 0x2026), (0x203e, 0x203e), (0x2488, 0x249b), (0x2ff0, 0x2fff),
   (0x309b, 0x309c), (0x31ef, 0x31ef), (0x33c2, 0x33c2), (0x33c7, 0x33c7), (0x33d8, 0x33d8),
   (0xfc5e, 0xfc63), (0xfdfa, 0xfdfb), (0xfe12, 0xfe12), (0xfe19, 0xfe19), (0xfe30, 0xfe30),
   (0xfe49, 0xfe4c), (0xfe52, 0xfe52), (0xfe70, 0xfe70), (0xfe72, 0xfe72), (0xfe74, 0xfe74),
   (0xfe76, 0xfe76), (0xfe78, 0xfe78), (0xfe7a, 0xfe7a), (0xfe7c, 0xfe7c),
   (0xfe7e, 0xfe7e), (0xffe3, 0xffe3), (0xfffc, 0xfffd), (0x1f100, 0x1f100)]

def isJoiner (c : Char) : Bool := c == '\u200c' || c == '\u200d'

def foldChar (c : Char) : Option (List Char) :=
  if Text.isAscii c then some [c.toLower]
  else if ignoredRanges.has c then some []
  else if isJoiner c then some [c]
  else if Text.isInvisible c || Text.isUnassigned c || refusedRanges.has c then none
  else some (((letter? c).map ([·])).or (compound? c) |>.getD [c])

/-- The folded text, if every character of it may be in a name.  In an ASCII text only the case
changes. -/
def fold (cs : List Char) : Option (List Char) :=
  if cs.all Text.isAscii then some (cs.map Char.toLower)
  else ((cs.flatMap Text.parts).mapM foldChar).map fun folded => Text.canonical folded.flatten

end RemoteServices.Url.Domain
