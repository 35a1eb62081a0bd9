import RemoteServices.Text.Joining
import RemoteServices.Text.Punycode
import RemoteServices.Url.Domain.Folding
import RemoteServices.Url.Domain.Order

/-!
# Names of hosts

A name is a list of labels with dots between them.  It is folded, and a label beyond ASCII is then
written in ASCII: after a marker, in Punycode.  A label that has the marker already must stand for
one beyond ASCII.

All of this restates the library `url`.
-/
namespace RemoteServices.Url.Domain

def isForbidden (c : Char) : Bool :=
  c.toNat ≤ 0x20 || c.toNat == 0x7f || "%#/:<>?@[\\]^|".contains c

/-- What a label beyond ASCII begins with in ASCII. -/
def marker : List Char := "xn--".toList

/-- The greatest number of characters that a label beyond ASCII has, and of those after the marker
in its ASCII form. -/
def maxWide : Nat := 1000

def maxEncoded : Nat := 2000

/-- A joiner after the characters `before`, the last of them first, and before `after` stands where
it matters: after a mark that takes the vowel from a consonant, or, if it keeps letters apart,
between two that would join. -/
def joinerFits (before : List Char) (c : Char) (after : List Char) : Bool :=
  before.head?.any fun d =>
    Text.combiningClass d == Text.viramaClass ||
      (c == '\u200c' &&
        (before.find? (! Text.Joining.isTransparent ·)).any Text.Joining.joinsNext &&
        (after.find? (! Text.Joining.isTransparent ·)).any Text.Joining.joinsPrevious)

def joinersFit (before : List Char) : List Char → Bool
  | [] => true
  | c :: cs => (! isJoiner c || joinerFits before c cs) && joinersFit (c :: before) cs

def isWide (label : List Char) : Bool :=
  ! label.all Text.isAscii && label.length ≤ maxWide && ! label.head?.any Text.isMark &&
    joinersFit [] label

def readLabel (label : List Char) : Option (List Char) :=
  if marker.isPrefixOf label then
    let encoded := label.drop marker.length
    match if encoded.length ≤ maxEncoded then Text.Punycode.decode encoded else none with
    | some wide => if isWide wide ∧ fold wide = some wide then some wide else none
    | none => none
  else if label.all Text.isAscii || isWide label then some label
  else none

def asciiLabel (label : List Char) : List Char :=
  if label.all Text.isAscii then label else marker ++ Text.Punycode.encode label

def ofChars? (cs : List Char) : Option (List Char) := do
  let labels ← (Text.pieces '.' (← fold cs)).mapM readLabel
  let name := ['.'].intercalate (labels.map asciiLabel)
  if name.any isForbidden || ! keepPlaces labels then none else some name

end RemoteServices.Url.Domain
