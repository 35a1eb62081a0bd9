import RemoteServices.Text.Hex

/-!
# Percent-encoding

A reserved ASCII character, and every character beyond ASCII, is written as its bytes in UTF-8, each
a percent sign and two hexadecimal digits.  Which characters are reserved depends on the place in
the URL.

All of this restates the library `url`.
-/
namespace RemoteServices.Url

def encodeByte (b : UInt8) : List Char :=
  ['%', Text.upperHex (b.toNat / 16), Text.upperHex (b.toNat % 16)]

def encodeChar (reserved : Char → Bool) (c : Char) : List Char :=
  if c.toNat < 0x80 ∧ ¬ reserved c then [c] else (String.utf8EncodeChar c).flatMap encodeByte

def encode (reserved : Char → Bool) (cs : List Char) : List Char := cs.flatMap (encodeChar reserved)

/-- The bytes that a text stands for; a percent sign without two digits stands for itself. -/
def decode : List Char → List UInt8
  | '%' :: a :: b :: cs =>
    match Text.hexValue? [a, b] with
    | some n => .ofNat n :: decode cs
    | none => '%'.toNat.toUInt8 :: decode (a :: b :: cs)
  | c :: cs => String.utf8EncodeChar c ++ decode cs
  | [] => []

def textOf? (bytes : List UInt8) : Option String := String.fromUTF8? ⟨bytes.toArray⟩

def isControl (c : Char) : Bool := c.toNat < 0x20 || c.toNat == 0x7f

def reservedInFragment (c : Char) : Bool := isControl c || " \"<>`".contains c

def reservedInPath (c : Char) : Bool := reservedInFragment c || "#?\x7b\x7d".contains c

/-- In a text that becomes one segment, whatever it holds. -/
def reservedInSegment (c : Char) : Bool := reservedInPath c || "/%\\".contains c

def reservedInUserinfo (c : Char) : Bool := reservedInPath c || "/:;=@[\\]^|".contains c

def reservedInQuery (c : Char) : Bool := isControl c || " \"#<>'".contains c

end RemoteServices.Url
