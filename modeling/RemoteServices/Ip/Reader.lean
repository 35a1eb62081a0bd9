import RemoteServices.Ip
import RemoteServices.Text.Blank
import RemoteServices.Text.Decimal
import RemoteServices.Text.Hex

/-!
# Reading internet addresses

The strict texts of addresses: four decimal octets without leading zeros; or eight groups of one to
four hexadecimal digits, the last two possibly written as a version 4 address, one run of groups
possibly contracted to `::`.
-/
namespace RemoteServices

namespace Ip4

def octet? (cs : List Char) : Option UInt8 :=
  match cs with
  | ['0'] => some 0
  | '0' :: _ => none
  | _ =>
    match cs.mapM Text.digit? with
    | some [a] => some (.ofNat a)
    | some [a, b] => some (.ofNat (10 * a + b))
    | some [a, b, c] =>
      let n := 100 * a + 10 * b + c
      if n < 256 then some (.ofNat n) else none
    | _ => none

def ofChars? (cs : List Char) : Option Ip4 :=
  match Text.pieces '.' cs with
  | [a, b, c, d] => do return ⟨← octet? a, ← octet? b, ← octet? c, ← octet? d⟩
  | _ => none

end Ip4

namespace Ip6

def group? (cs : List Char) : Option UInt16 :=
  if cs.isEmpty ∨ 4 < cs.length then none
  else (Text.hexValue? cs).map .ofNat

/-- Groups, of which the last may be a version 4 address in the place of two. -/
def tailGroups? : List (List Char) → Option (List UInt16)
  | [] => some []
  | [p] =>
    match group? p with
    | some g => some [g]
    | none => (Ip4.ofChars? p).map Ip4.groups
  | p :: ps => do return (← group? p) :: (← tailGroups? ps)

def splitContraction : List Char → Option (List Char × List Char)
  | ':' :: ':' :: cs => some ([], cs)
  | c :: cs => (splitContraction cs).map fun (front, back) => (c :: front, back)
  | [] => none

/-- The texts of the groups; an empty text has none. -/
def groupTexts (cs : List Char) : List (List Char) :=
  if cs.isEmpty then [] else Text.pieces ':' cs

def ofChars? (cs : List Char) : Option Ip6 :=
  match splitContraction cs with
  | none => do ofGroups? (← tailGroups? (groupTexts cs))
  | some (front, back) => do
    let front ← (groupTexts front).mapM group?
    let back ← tailGroups? (groupTexts back)
    if front.length + back.length < 8 then
      ofGroups? (front ++ List.replicate (8 - (front.length + back.length)) 0 ++ back)
    else none

end Ip6

namespace Ip

def ofChars? (cs : List Char) : Option Ip :=
  match Ip4.ofChars? cs with
  | some x => some (.v4 x)
  | none => (Ip6.ofChars? cs).map .v6

end Ip

end RemoteServices
