import RemoteServices.Text.Decimal
import RemoteServices.Text.DoubleRange
import RemoteServices.Text.Hex
import RemoteServices.Toml

/-!
# Numbers, truth values, dates and times of TOML

Each is a word without white space, save that a space may stand between a date and a time.

All of this restates the library `toml`.
-/
namespace RemoteServices.Toml

def isWordChar (c : Char) : Bool :=
  c.isAlphanum || c == '_' || c == '.' || c == '+' || c == '-' || c == ':'

def isDecimal (c : Char) : Bool := (Text.digit? c).isSome

def isGrouped (isDigit : Char → Bool) : List Char → Bool
  | [] => false
  | [c] => isDigit c
  | c :: '_' :: cs => isDigit c && isGrouped isDigit cs
  | c :: cs => isDigit c && isGrouped isDigit cs

def withoutGroups (cs : List Char) : List Char := cs.filter (· != '_')

def splitSign : List Char → Bool × List Char
  | '-' :: cs => (true, cs)
  | '+' :: cs => (false, cs)
  | cs => (false, cs)

/-- A decimal integer without leading zeros. -/
def isWhole (cs : List Char) : Bool :=
  isGrouped isDecimal cs && (cs.head? != some '0' || cs.length == 1)

def basedInteger? (base : Nat) (cs : List Char) : Option Int64 :=
  if isGrouped (fun c => (Text.hexDigit? c).any (· < base)) cs then
    ((withoutGroups cs).mapM Text.hexDigit?).bind fun ds =>
      let n := ds.foldl (fun n d => base * n + d) 0
      if n ≤ Text.maxInt64 then some (.ofInt n) else none
  else none

def integer? : List Char → Option Int64
  | '0' :: 'x' :: cs => basedInteger? 16 cs
  | '0' :: 'o' :: cs => basedInteger? 8 cs
  | '0' :: 'b' :: cs => basedInteger? 2 cs
  | cs => if isWhole (splitSign cs).2 then (Text.readInt64 (withoutGroups cs)).toOption else none

/-- An exponent without its mark: a sign perhaps, and digits. -/
def exponent? (cs : List Char) : Option Int :=
  let (negative, ds) := splitSign cs
  if isGrouped isDecimal ds then
    let n := Text.digitsValue (withoutGroups ds)
    some (if negative then -(n : Int) else n)
  else none

def isExponentMark (c : Char) : Bool := c == 'e' || c == 'E'

/-- A number with a fraction or an exponent that is not beyond the range above. -/
def isReal (cs : List Char) : Bool :=
  let (negative, cs) := splitSign cs
  if cs = "inf".toList ∨ cs = "nan".toList then true
  else
    let mantissa := cs.takeWhile (! isExponentMark ·)
    let whole := mantissa.takeWhile (· != '.')
    let fraction := (mantissa.dropWhile (· != '.')).drop 1
    let exponent := match cs.dropWhile (! isExponentMark ·) with
      | [] => some 0
      | _ :: ds => exponent? ds
    let places := withoutGroups fraction
    isWhole whole && (mantissa.length == whole.length || isGrouped isDecimal fraction) &&
      (cs.length != whole.length) &&
      match exponent with
      | none => false
      | some e =>
        negative ||
          ! Text.isBeyondDouble (Text.digitsValue (withoutGroups whole ++ places))
            (e - places.length)

def decimal? (cs : List Char) : Option Nat :=
  (cs.mapM Text.digit?).map fun ds => ds.foldl (fun n d => 10 * n + d) 0

def isWithin (low high : Nat) (cs : List Char) : Bool :=
  match decimal? cs with
  | some n => low ≤ n && n ≤ high
  | none => false

def daysInMonth (year month : Nat) : Nat :=
  if month = 2 then if year % 4 = 0 ∧ (year % 100 ≠ 0 ∨ year % 400 = 0) then 29 else 28
  else if month = 4 ∨ month = 6 ∨ month = 9 ∨ month = 11 then 30
  else 31

def isDate : List Char → Bool
  | [y₁, y₂, y₃, y₄, '-', m₁, m₂, '-', d₁, d₂] =>
    match decimal? [y₁, y₂, y₃, y₄], decimal? [m₁, m₂] with
    | some year, some month =>
      1 ≤ month && month ≤ 12 && isWithin 1 (daysInMonth year month) [d₁, d₂]
    | _, _ => false
  | _ => false

def isOffset : List Char → Bool
  | [c] => c == 'Z' || c == 'z'
  | [s, h₁, h₂, ':', m₁, m₂] =>
    (s == '+' || s == '-') && isWithin 0 23 [h₁, h₂] && isWithin 0 59 [m₁, m₂]
  | _ => false

/-- A time of day, with an offset if `zoned` allows one. -/
def isTime (zoned : Bool) : List Char → Bool
  | h₁ :: h₂ :: ':' :: m₁ :: m₂ :: ':' :: s₁ :: s₂ :: cs =>
    let rest := match cs with
      | '.' :: ds =>
        if (ds.takeWhile isDecimal).isEmpty then none else some (ds.dropWhile isDecimal)
      | cs => some cs
    isWithin 0 23 [h₁, h₂] && isWithin 0 59 [m₁, m₂] && isWithin 0 60 [s₁, s₂] &&
      match rest with
      | none => false
      | some [] => true
      | some cs => zoned && isOffset cs
  | _ => false

/-- A date, a time, or a date and a time joined by a letter. -/
def isMoment (cs : List Char) : Bool :=
  isDate cs || isTime false cs ||
    (isDate (cs.take 10) &&
      match cs.drop 10 with
      | c :: time => (c == 'T' || c == 't') && isTime true time
      | [] => false)

def word? (cs : List Char) : Option Toml :=
  if cs = "true".toList then some (.boolean true)
  else if cs = "false".toList then some (.boolean false)
  else
    match integer? cs with
    | some n => some (.integer n)
    | none => if isReal cs then some .real else if isMoment cs then some .moment else none

/-- Reads a word, or a date and the time after a space. -/
def readWord (cs : List Char) : Option (Toml × List Char) :=
  let first := cs.takeWhile isWordChar
  let rest := cs.dropWhile isWordChar
  match rest with
  | ' ' :: more =>
    if isDate first && isTime true (more.takeWhile isWordChar) then
      some (.moment, more.dropWhile isWordChar)
    else (word? first).map (·, rest)
  | _ => (word? first).map (·, rest)

end RemoteServices.Toml
