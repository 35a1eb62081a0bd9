import RemoteServices.Text.Decimal
import RemoteServices.Text.DoubleRange

/-!
# Numbers out of range

A number with a fraction or an exponent is read in double precision: those of its leading digits
that fit a word of 64 bits are rounded, and then multiplied by the rounded power of ten.  It is out
of range if the product is.

All of this restates the library `serde_json`.
-/
namespace RemoteServices.Json

/-- Continues a number by digits as long as it fits a word, and counts the digits that were left. -/
def gather (n : Nat) : List Char → Nat × Nat
  | [] => (n, 0)
  | c :: cs =>
    let m := 10 * n + Text.digitsValue [c]
    if m ≤ Text.maxUInt64 then gather m cs else (n, cs.length + 1)

def maxPower : Nat := 308

/-- The number with these digits before and after the point, and this exponent, is out of range. -/
def isOutOfRange (whole places : List Char) (exponent : Int) : Bool :=
  let (n, left) := gather 0 whole
  let (m, dropped) := gather n places
  let power := exponent + left + dropped - places.length
  if m = 0 ∨ power < 0 then false
  else
    maxPower < power.toNat || Text.doubleBound ≤ Text.roundToDouble m * Text.roundToDouble
      (Nat.pow 10 power.toNat)

end RemoteServices.Json
