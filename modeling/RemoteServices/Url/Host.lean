import RemoteServices.Ip.Reader
import RemoteServices.Text.Rest
import RemoteServices.Url.Domain
import RemoteServices.Url.Percent

/-!
# Hosts of URLs

The host of a URL is an address in brackets, or a name.  A name is percent-decoded and brought into
its ASCII form; one that ends in a number is then read as an address of version 4, in one to four
parts, each decimal, octal or hexadecimal.

All of this restates the library `url`.
-/
namespace RemoteServices.Url

inductive Host
  | domain (name : List Char)
  | address (ip : Ip)
deriving DecidableEq

inductive Fault
  | emptyHost
  | invalidPort
  | invalidIp4
  | invalidIp6
  | invalidDomain
deriving DecidableEq, Repr

namespace Fault

def message : Fault → String
  | .emptyHost => "empty host"
  | .invalidPort => "invalid port number"
  | .invalidIp4 => "invalid IPv4 address"
  | .invalidIp6 => "invalid IPv6 address"
  | .invalidDomain => "invalid international domain name"

end Fault

namespace Host

def inBase (base : Nat) (cs : List Char) : Option Nat :=
  (cs.mapM Text.hexDigit?).bind fun ds =>
    if ds.all (· < base) then some (ds.foldl (fun n d => base * n + d) 0) else none

/-- One part of an address: hexadecimal after `0x`, octal after `0`, else decimal. -/
def part? : List Char → Option Nat
  | [] => none
  | '0' :: 'x' :: cs => inBase 16 cs
  | '0' :: 'X' :: cs => inBase 16 cs
  | '0' :: c :: cs => inBase 8 (c :: cs)
  | cs => inBase 10 cs

def parts (name : List Char) : List (List Char) :=
  let ps := Text.pieces '.' name
  if ps.getLast? = some [] then ps.dropLast else ps

def endsInNumber (name : List Char) : Bool :=
  match (parts name).getLast? with
  | some p => (! p.isEmpty && p.all fun c => (Text.digit? c).isSome) || (part? p).isSome
  | none => false

/-- The address with the given parts: each but the last an octet, the last filling what is left. -/
def assemble : Nat → List Nat → Option Nat
  | _, [] => none
  | room, [n] => if n < Nat.pow 256 room then some n else none
  | room, n :: ns =>
    if n < 256 ∧ 1 < room then (assemble (room - 1) ns).map
      (n * Nat.pow 256 (room - 1) + ·) else none

def readIp4 (name : List Char) : Option Ip4 := do
  return .ofNat (← assemble 4 (← (parts name).mapM part?))

def spanHex : Nat → List Char → List Char × List Char
  | n + 1, c :: cs =>
    if (Text.hexDigit? c).isSome then ((spanHex n cs).1.cons c, (spanHex n cs).2) else ([], c :: cs)
  | _, cs => ([], cs)

/-- All eight groups: those read, with zeros in the `gap`. -/
def fill (groups : List UInt16) (gap : Option Nat) : Option Ip6 :=
  match gap with
  | none => Ip6.ofGroups? groups
  | some i =>
    Ip6.ofGroups? (groups.take i ++ List.replicate (8 - groups.length) 0 ++ groups.drop i)

/-- How many of the eight groups are taken; the gap takes one at least. -/
def taken (groups : List UInt16) (gap : Option Nat) : Nat :=
  groups.length + if gap.isSome then 1 else 0

def scanGroups (groups : List UInt16) (gap : Option Nat) (cs : List Char) : Option Ip6 :=
  match cs with
  | [] => fill groups gap
  | ':' :: cs =>
    if taken groups gap < 8 ∧ gap.isNone then scanGroups groups (some groups.length) cs else none
  | c :: cs =>
    let (ds, rest) := spanHex 4 (c :: cs)
    match (if ds.isEmpty then none else Text.hexValue? ds).map UInt16.ofNat with
    | none => none
    | some g =>
      if 8 ≤ taken groups gap then none
      else
        match rest with
        | [] => fill (groups ++ [g]) gap
        | [':'] => none
        | ':' :: rest =>
          match Text.shorten (c :: cs) rest with
          | some ⟨rest, _⟩ => scanGroups (groups ++ [g]) gap rest
          | none => none
        | '.' :: _ =>
          if 6 < taken groups gap then none
          else
            match Ip4.ofChars? (c :: cs) with
            | some x => fill (groups ++ x.groups) gap
            | none => none
        | _ => none
termination_by cs.length
decreasing_by
  · exact Nat.lt_succ_self _
  · assumption

def readIp6 : List Char → Option Ip6
  | ':' :: ':' :: cs => scanGroups [] (some 0) cs
  | ':' :: _ => none
  | cs => scanGroups [] none cs

def ofChars (cs : List Char) : Except Fault Host :=
  match cs with
  | [] => .error .emptyHost
  | '[' :: cs =>
    if cs.getLast? = some ']' then
      match readIp6 cs.dropLast with
      | some x => .ok (.address (.v6 x))
      | none => .error .invalidIp6
    else .error .invalidIp6
  | cs =>
    match (textOf? (decode cs)).bind fun name => Domain.ofChars? name.toList with
    | none => .error .invalidDomain
    | some [] => .error .emptyHost
    | some name =>
      if endsInNumber name then
        match readIp4 name with
        | some x => .ok (.address (.v4 x))
        | none => .error .invalidIp4
      else .ok (.domain name)

def render : Host → List Char
  | .domain name => name
  | .address (.v4 x) => x.render.toList
  | .address (.v6 x) => '[' :: (x.render.toList ++ [']'])

end Host

end RemoteServices.Url
