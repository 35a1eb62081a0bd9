/-!
# Decimal integers of a fixed width

An integer is written as an optional sign and ASCII digits.  Reading goes from the left and reports
the first fault it meets: a character that is no digit, or the digit that leaves the range.
-/
namespace RemoteServices.Text

inductive DecimalFault
  | empty
  | invalidDigit
  | tooLarge
  | tooSmall
deriving DecidableEq, Repr

namespace DecimalFault

def message : DecimalFault → String
  | .empty => "cannot parse integer from empty string"
  | .invalidDigit => "invalid digit found in string"
  | .tooLarge => "number too large to fit in target type"
  | .tooSmall => "number too small to fit in target type"

end DecimalFault

def digit? (c : Char) : Option Nat :=
  if '0' ≤ c ∧ c ≤ '9' then some (c.toNat - '0'.toNat) else none

/-- Continues a number `n` by the digits `cs`, as long as it stays within `limit`. -/
def readDigits (limit : Nat) (beyond : DecimalFault) : Nat → List Char → Except DecimalFault Nat
  | n, [] => .ok n
  | n, c :: cs =>
    match digit? c with
    | none => .error .invalidDigit
    | some d =>
      if 10 * n + d ≤ limit then readDigits limit beyond (10 * n + d) cs else .error beyond

def maxInt64 : Nat := 0x7fffffffffffffff

def maxUInt64 : Nat := 0xffffffffffffffff

/-- An unsigned integer of at most `limit`; a plus sign may precede it. -/
def readUnsigned (limit : Nat) : List Char → Except DecimalFault Nat
  | [] => .error .empty
  | ['+'] => .error .invalidDigit
  | '+' :: cs => readDigits limit .tooLarge 0 cs
  | cs => readDigits limit .tooLarge 0 cs

def readInt64 : List Char → Except DecimalFault Int64
  | [] => .error .empty
  | ['+'] => .error .invalidDigit
  | ['-'] => .error .invalidDigit
  | '+' :: cs => (readDigits maxInt64 .tooLarge 0 cs).map fun n => .ofInt n
  | '-' :: cs => (readDigits (maxInt64 + 1) .tooSmall 0 cs).map fun n => .ofInt (-n)
  | cs => (readDigits maxInt64 .tooLarge 0 cs).map fun n => .ofInt n

def readUInt16 (cs : List Char) : Except DecimalFault UInt16 :=
  (readUnsigned 65535 cs).map fun n => .ofNat n

def readUInt64 (cs : List Char) : Except DecimalFault UInt64 :=
  (readUnsigned maxUInt64 cs).map fun n => .ofNat n

/-- The decimal text of a signed integer: no sign unless it is negative, no leading zeros. -/
def int64Text (n : Int64) : String := toString n.toInt

end RemoteServices.Text
