/-!
# Reading bytes as text, whatever they are

Bytes in UTF-8 are read as the text that they write; each longest run of bytes that begins a
character and does not finish it, and each byte that begins none, is read as the replacement
character.
-/
namespace RemoteServices.Text

def replacement : Char := '\uFFFD'

/-- How the first byte of a character of several bytes goes on: the bits of the character in it, the
range of the second byte, and how many bytes follow that one. -/
def leadByte (b : UInt8) : Option (Nat × UInt8 × UInt8 × Nat) :=
  if 0xC2 ≤ b ∧ b ≤ 0xDF then some (b.toNat - 0xC0, 0x80, 0xBF, 0)
  else if b = 0xE0 then some (0, 0xA0, 0xBF, 1)
  else if b = 0xED then some (0xD, 0x80, 0x9F, 1)
  else if 0xE1 ≤ b ∧ b ≤ 0xEF then some (b.toNat - 0xE0, 0x80, 0xBF, 1)
  else if b = 0xF0 then some (0, 0x90, 0xBF, 2)
  else if 0xF1 ≤ b ∧ b ≤ 0xF3 then some (b.toNat - 0xF0, 0x80, 0xBF, 2)
  else if b = 0xF4 then some (4, 0x80, 0x8F, 2)
  else none

/-- Reads on inside a character: its bits so far, the range of the next byte, and how many bytes
follow that one. -/
inductive Pending
  | none
  | inside (bits : Nat) (low high : UInt8) (more : Nat)

def startChar (b : UInt8) : List Char × Pending :=
  if b < 0x80 then ([.ofNat b.toNat], .none)
  else
    match leadByte b with
    | some (bits, low, high, more) => ([], .inside bits low high more)
    | none => ([replacement], .none)

def stepChar (pending : Pending) (b : UInt8) : List Char × Pending :=
  match pending with
  | .none => startChar b
  | .inside bits low high more =>
    if low ≤ b ∧ b ≤ high then
      let bits := bits * 64 + (b.toNat - 0x80)
      match more with
      | 0 => ([.ofNat bits], .none)
      | more + 1 => ([], .inside bits 0x80 0xBF more)
    else
      let (cs, pending) := startChar b
      (replacement :: cs, pending)

def lossyChars : Pending → List UInt8 → List Char
  | .none, [] => []
  | .inside .., [] => [replacement]
  | pending, b :: bs => (stepChar pending b).1 ++ lossyChars (stepChar pending b).2 bs

def lossy (bytes : ByteArray) : String := .ofList (lossyChars .none bytes.toList)

end RemoteServices.Text
