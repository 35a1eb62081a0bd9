import RemoteServices.Text.Ranges

/-!
# Punycode

A text beyond ASCII written with ASCII letters and digits: first its ASCII characters, then the
others in ascending order of their codes, each as a number that tells how far its code and its place
are from those of the one before.

The library `url` writes the names of hosts so; this restates it.
-/
namespace RemoteServices.Text.Punycode

def digit (n : Nat) : Char :=
  if n < 26 then .ofNat ('a'.toNat + n) else .ofNat ('0'.toNat + (n - 26))

def value? (c : Char) : Option Nat :=
  if 'a' ≤ c ∧ c ≤ 'z' then some (c.toNat - 'a'.toNat)
  else if 'A' ≤ c ∧ c ≤ 'Z' then some (c.toNat - 'A'.toNat)
  else if '0' ≤ c ∧ c ≤ '9' then some (c.toNat - '0'.toNat + 26)
  else none

/-- A digit below the threshold of its place is the last one of a number. -/
def threshold (bias place : Nat) : Nat := max 1 (min 26 (place - bias))

theorem threshold_pos (bias place : Nat) : 0 < threshold bias place := by
  unfold threshold
  omega

def writeNumber (bias place n : Nat) : List Char :=
  let t := threshold bias place
  if n < t then [digit n]
  else digit (t + (n - t) % (36 - t)) :: writeNumber bias (place + 36) ((n - t) / (36 - t))
termination_by n
decreasing_by
  have := threshold_pos bias place
  exact Nat.lt_of_le_of_lt (Nat.div_le_self _ _) (by omega)

/-- Reads a number that is multiplied by `weight`. -/
def readNumber (bias place weight : Nat) : List Char → Option (Nat × List Char)
  | [] => none
  | c :: cs =>
    match value? c with
    | none => none
    | some d =>
      if d < threshold bias place then some (d * weight, cs)
      else
        (readNumber bias (place + 36) (weight * (36 - threshold bias place)) cs).map
          fun (n, rest) =>
          (d * weight + n, rest)

theorem length_readNumber_lt {bias place weight n : Nat} {cs rest : List Char}
    (h : readNumber bias place weight cs = some (n, rest)) : rest.length < cs.length := by
  induction cs generalizing place weight n with
  | nil => cases h
  | cons c cs ih =>
    rw [readNumber] at h
    split at h
    · cases h
    · split at h
      · cases h
        exact Nat.lt_succ_self _
      · obtain ⟨⟨m, r⟩, hm, he⟩ := Option.map_eq_some_iff.1 h
        cases he
        exact Nat.lt_succ_of_lt (ih hm)

def firstBias : Nat := 72

def settle (n bias : Nat) : Nat :=
  if n ≤ 455 then bias + 36 * n / (n + 38) else settle (n / 35) (bias + 36)
termination_by n
decreasing_by omega

/-- The bias after the number `n`, when `count` characters are there; the first number counts
less. -/
def nextBias (first : Bool) (n count : Nat) : Nat :=
  let n := if first then n / 700 else n / 2
  settle (n + n / count) 0

/-- The characters beyond ASCII after the text `before`, the last character of that first: for each
its code, and its place among the characters of no greater code. -/
def places (before : List Char) : List Char → List (Nat × Nat)
  | [] => []
  | c :: cs =>
    if isAscii c then places (c :: before) cs
    else (c.toNat, before.countP (·.toNat ≤ c.toNat)) :: places (c :: before) cs

/-- Writes characters that join a text of `count` characters, the last to join of which had the code
`n` and stands just before the place `i`. -/
def writePlaces (first : Bool) (bias n i count : Nat) : List (Nat × Nat) → List Char
  | [] => []
  | (code, place) :: ps =>
    let distance := (code - n) * (count + 1) + place - i
    writeNumber bias 36 distance ++
      writePlaces false (nextBias first distance (count + 1)) code (place + 1) (count + 1) ps

def encode (cs : List Char) : List Char :=
  let ascii := cs.filter isAscii
  (if ascii.isEmpty then [] else ascii ++ ['-']) ++
    writePlaces true firstBias 0x80 0 ascii.length ((places [] cs).mergeSort fun a b => a.1 ≤ b.1)

def readPlaces (first : Bool) (bias n i : Nat) (cs digits : List Char) : Option (List Char) :=
  match digits with
  | [] => some cs
  | d :: ds =>
    match _h : readNumber bias 36 1 (d :: ds) with
    | none => none
    | some (distance, rest) =>
      let count := cs.length + 1
      let code := n + (i + distance) / count
      let place := (i + distance) % count
      if code.isValidChar then
        readPlaces false (nextBias first distance count) code (place + 1)
          (cs.take place ++ .ofNat code :: cs.drop place) rest
      else none
termination_by digits.length
decreasing_by exact length_readNumber_lt _h

/-- The text that an ASCII text encodes; what stands before its last dash is copied, and if nothing
does the dash is no digit. -/
def decode (cs : List Char) : Option (List Char) :=
  let back := cs.reverse
  let ascii := ((back.dropWhile (· != '-')).drop 1).reverse
  let digits := if ascii.isEmpty then cs else (back.takeWhile (· != '-')).reverse
  if ascii.all isAscii then readPlaces true firstBias 0x80 0 ascii digits else none

end RemoteServices.Text.Punycode
