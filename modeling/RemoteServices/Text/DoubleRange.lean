/-!
# The range of double precision

A decimal number is within the range unless rounding to double precision takes it to infinity.
-/
namespace RemoteServices.Text

/-- The smallest integer that rounds beyond double precision. -/
def doubleBound : Nat := Nat.pow 2 1024 - Nat.pow 2 970

/-- `digits · 10 ^ exponent` is beyond double precision.  The number of digits decides, save near
the bound. -/
def isBeyondDouble (digits : Nat) (exponent : Int) : Bool :=
  let width := (Nat.toDigits 10 digits).length + exponent
  if digits = 0 then false
  else if width < 308 then false
  else if width > 310 then true
  else if 0 ≤ exponent then doubleBound ≤ digits * Nat.pow 10 exponent.toNat
  else doubleBound * Nat.pow 10 (-exponent).toNat ≤ digits

def doubleBits : Nat := 53

/-- The number rounded to the bits that double precision keeps; a half goes to the even
neighbour. -/
def roundToDouble (n : Nat) : Nat :=
  let unit := Nat.pow 2 (n.log2 + 1 - doubleBits)
  let whole := n / unit
  let up := unit < 2 * (n % unit) || (unit == 2 * (n % unit) && whole % 2 == 1)
  (if up then whole + 1 else whole) * unit

def digitsValue (ds : List Char) : Nat := ds.foldl (fun n c => 10 * n + (c.toNat - '0'.toNat)) 0

end RemoteServices.Text
