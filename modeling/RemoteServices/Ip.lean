/-!
# Internet addresses

Addresses of version 4 and 6, and their canonical texts.  In the text of a version 6 address the
first of the longest runs of at least two zero groups is written `::`.
-/
namespace RemoteServices

structure Ip4 where
  a : UInt8
  b : UInt8
  c : UInt8
  d : UInt8
deriving DecidableEq, Repr

/-- An address of version 6, its eight groups from left to right. -/
structure Ip6 where
  groups : List UInt16
  length_eq : groups.length = 8
deriving DecidableEq, Repr

inductive Ip
  | v4 (address : Ip4)
  | v6 (address : Ip6)
deriving DecidableEq, Repr

namespace Ip4

def ofNat (n : Nat) : Ip4 :=
  ⟨.ofNat (n / 0x1000000), .ofNat (n / 0x10000), .ofNat (n / 0x100), .ofNat n⟩

def render (x : Ip4) : String :=
  ".".intercalate ([x.a, x.b, x.c, x.d].map fun o => toString o.toNat)

def isUnspecified (x : Ip4) : Bool := x == ⟨0, 0, 0, 0⟩

def groups (x : Ip4) : List UInt16 :=
  [x.a.toUInt16 * 256 + x.b.toUInt16, x.c.toUInt16 * 256 + x.d.toUInt16]

end Ip4

namespace Ip6

def ofGroups? (gs : List UInt16) : Option Ip6 :=
  if h : gs.length = 8 then some ⟨gs, h⟩ else none

def isUnspecified (x : Ip6) : Bool := x.groups.all (· == 0)

def leadingZeros (gs : List UInt16) : Nat := (gs.takeWhile (· == 0)).length

/-- The start and the length of the first of the longest runs of zeros. -/
def longestZeros : List UInt16 → Nat × Nat
  | [] => (0, 0)
  | g :: gs =>
    let here := leadingZeros (g :: gs)
    let (start, length) := longestZeros gs
    if length ≤ here then (0, here) else (start + 1, length)

def hexDigits (n : Nat) : String := .ofList (Nat.toDigits 16 n)

def renderGroups (gs : List UInt16) : String :=
  ":".intercalate (gs.map fun g => hexDigits g.toNat)

def render (x : Ip6) : String :=
  let (start, length) := longestZeros x.groups
  if length < 2 then renderGroups x.groups
  else renderGroups (x.groups.take start) ++ "::" ++ renderGroups (x.groups.drop (start + length))

/-- The version 4 address that the text of `x` shows, if it stands for one. -/
def mapped? (x : Ip6) : Option Ip4 :=
  match x.groups with
  | [0, 0, 0, 0, 0, 0xffff, g, h] => some (.ofNat (g.toNat * 0x10000 + h.toNat))
  | _ => none

/-- The text, a mapped version 4 address shown in its own form. -/
def renderMapped (x : Ip6) : String :=
  match x.mapped? with
  | some y => "::ffff:" ++ y.render
  | none => x.render

end Ip6

namespace Ip

def isUnspecified : Ip → Bool
  | .v4 x => x.isUnspecified
  | .v6 x => x.isUnspecified

def renderSocket (x : Ip) (port : UInt16) : String :=
  match x with
  | .v4 x => x.render ++ ":" ++ toString port.toNat
  | .v6 x => "[" ++ x.renderMapped ++ "]:" ++ toString port.toNat

end Ip

end RemoteServices
