import RemoteServices.Text.Hex

/-!
# Random ids

An id of 128 bits, of which all but the six that mark a random id may be anything, in hexadecimal
digits in groups of 8, 4, 4, 4 and 12.
-/
namespace RemoteServices.Uuid

/-- The `n` lowest hexadecimal digits of a number. -/
def digits : Nat → Nat → List Char
  | 0, _ => []
  | n + 1, k => digits n (k / 16) ++ [Text.lowerHex (k % 16)]

def ofRandom (high low : UInt64) : String :=
  let high := high.toNat / 0x10000 * 0x10000 + 0x4000 + high.toNat % 0x1000
  let low := 0x8000000000000000 + low.toNat % 0x4000000000000000
  .ofList (digits 8 (high / 0x100000000) ++ '-' :: digits 4 (high / 0x10000) ++
    '-' :: digits 4 high ++
    '-' :: digits 4 (low / 0x1000000000000) ++ '-' :: digits 12 low)

end RemoteServices.Uuid
