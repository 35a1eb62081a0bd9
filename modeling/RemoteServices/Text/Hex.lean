/-!
# Hexadecimal digits

Digits are read in either case and written in one.
-/
namespace RemoteServices.Text

def hexDigit? (c : Char) : Option Nat :=
  if '0' ≤ c ∧ c ≤ '9' then some (c.toNat - '0'.toNat)
  else if 'a' ≤ c ∧ c ≤ 'f' then some (c.toNat - 'a'.toNat + 10)
  else if 'A' ≤ c ∧ c ≤ 'F' then some (c.toNat - 'A'.toNat + 10)
  else none

def hexValue? (cs : List Char) : Option Nat :=
  (cs.mapM hexDigit?).map fun ds => ds.foldl (fun n d => 16 * n + d) 0

def lowerHex (n : Nat) : Char :=
  if n < 10 then .ofNat ('0'.toNat + n) else .ofNat ('a'.toNat + (n - 10))

def upperHex (n : Nat) : Char :=
  if n < 10 then .ofNat ('0'.toNat + n) else .ofNat ('A'.toNat + (n - 10))

theorem hexDigit?_lowerHex {n : Nat} (h : n < 16) : hexDigit? (lowerHex n) = some n :=
  (by decide : ∀ n : Fin 16, hexDigit? (lowerHex n) = some n.val) ⟨n, h⟩

theorem hexDigit?_upperHex {n : Nat} (h : n < 16) : hexDigit? (upperHex n) = some n :=
  (by decide : ∀ n : Fin 16, hexDigit? (upperHex n) = some n.val) ⟨n, h⟩

end RemoteServices.Text
