import RemoteServices.Json
import RemoteServices.Json.Magnitude
import RemoteServices.Text.Hex
import RemoteServices.Text.Rest

/-!
# Reading JSON

Strings are first delimited and then decoded; a surrogate without its partner
makes a string that names no characters, yet leaves the text around it readable.

All of this restates the library `serde_json`.
-/
namespace RemoteServices.Json

def isBlank (c : Char) : Bool := c == ' ' || c == '\n' || c == '\t' || c == '\r'

def skipBlanks (cs : List Char) : List Char := cs.dropWhile isBlank

theorem length_skipBlanks_le (cs : List Char) : (skipBlanks cs).length ≤ cs.length :=
  (List.dropWhile_sublist _).length_le

/-- Splits after the opening quote: the raw text up to the closing quote, and what follows it. -/
def delimited : List Char → Option (List Char × List Char)
  | [] => none
  | '"' :: cs => some ([], cs)
  | ['\\'] => none
  | '\\' :: c :: cs => (delimited cs).map fun (raw, rest) => ('\\' :: c :: raw, rest)
  | c :: cs => (delimited cs).map fun (raw, rest) => (c :: raw, rest)

theorem length_delimited_lt {cs raw rest : List Char} (h : delimited cs = some (raw, rest)) :
    rest.length < cs.length := by
  fun_induction delimited cs generalizing raw with
  | case1 => simp at h
  | case2 cs => cases h; simp
  | case3 => simp at h
  | case4 c cs ih =>
    obtain ⟨⟨a, b⟩, hv, he⟩ := Option.map_eq_some_iff.1 h
    cases he
    have := ih hv
    simp only [List.length_cons]; omega
  | case5 c cs _ _ _ ih =>
    obtain ⟨⟨a, b⟩, hv, he⟩ := Option.map_eq_some_iff.1 h
    cases he
    have := ih hv
    simp only [List.length_cons]; omega

def unit? (a b c d : Char) : Option Nat := Text.hexValue? [a, b, c, d]

def shortEscape? (c : Char) : Option Char :=
  match c with
  | '"' => some '"'
  | '\\' => some '\\'
  | '/' => some '/'
  | 'b' => some '\x08'
  | 'f' => some '\x0c'
  | 'n' => some '\n'
  | 'r' => some '\r'
  | 't' => some '\t'
  | _ => none

/-- A character or, where an escape names half a surrogate pair, a gap. -/
abbrev Piece := Option Char

def joinSurrogates (high low : Nat) : Char :=
  .ofNat (0x10000 + (high - 0xD800) * 0x400 + (low - 0xDC00))

/-- The characters of a raw string, in pieces; `none` when it is no JSON string. -/
def decodePieces : List Char → Option (List Piece)
  | [] => some []
  | '\\' :: 'u' :: a :: b :: c :: d :: '\\' :: 'u' :: e :: f :: g :: h :: cs =>
    match unit? a b c d, unit? e f g h with
    | some m, some n =>
      if 0xD800 ≤ m ∧ m < 0xDC00 ∧ 0xDC00 ≤ n ∧ n < 0xE000 then
        (decodePieces cs).map (some (joinSurrogates m n) :: ·)
      else
        (decodePieces ('\\' :: 'u' :: e :: f :: g :: h :: cs)).map
          ((if 0xD800 ≤ m ∧ m < 0xE000 then none else some (.ofNat m)) :: ·)
    | _, _ => none
  | '\\' :: 'u' :: a :: b :: c :: d :: cs =>
    match unit? a b c d with
    | some m =>
      (decodePieces cs).map ((if 0xD800 ≤ m ∧ m < 0xE000 then none else some (.ofNat m)) :: ·)
    | none => none
  | '\\' :: c :: cs =>
    match shortEscape? c with
    | some d => (decodePieces cs).map (some d :: ·)
    | none => none
  | c :: cs => if c.toNat < 0x20 ∨ c = '\\' then none else (decodePieces cs).map (some c :: ·)

def decodeString (raw : List Char) : Json :=
  match decodePieces raw with
  | none => .broken
  | some pieces => .text ((pieces.mapM id).map .ofList)

def isDigit (c : Char) : Bool := '0' ≤ c && c ≤ '9'

def spanDigits (cs : List Char) : List Char × List Char :=
  (cs.takeWhile isDigit, cs.dropWhile isDigit)

def readFraction : List Char → Option (Option (List Char) × List Char)
  | '.' :: cs =>
    let (ds, rest) := spanDigits cs
    if ds.isEmpty then none else some (some ds, rest)
  | cs => some (none, cs)

def readExponent : List Char → Option (Option Int × List Char)
  | [] => some (none, [])
  | e :: cs =>
    if e = 'e' ∨ e = 'E' then
      let (negative, cs) := match cs with
        | '-' :: cs => (true, cs)
        | '+' :: cs => (false, cs)
        | cs => (false, cs)
      let (ds, rest) := spanDigits cs
      if ds.isEmpty then none
      else
        some (some (if negative then -(Text.digitsValue ds : Int) else Text.digitsValue ds), rest)
    else some (none, e :: cs)

def makeNumber (negative : Bool) (whole : List Char) (fraction : Option (List Char))
    (exponent : Option Int) : Number :=
  let n := Text.digitsValue whole
  if isOutOfRange whole (fraction.getD []) (exponent.getD 0) then .beyond
  else if fraction.isSome || exponent.isSome then .other
  else if negative then if 0 < n ∧ n ≤ Text.maxInt64 + 1 then .negative (.ofInt (-n)) else .other
  else if n ≤ Text.maxUInt64 then .natural (.ofNat n) else .other

def readNumber (cs : List Char) : Option (Number × List Char) :=
  let (negative, cs) := match cs with
    | '-' :: cs => (true, cs)
    | cs => (false, cs)
  let (whole, rest) := spanDigits cs
  if whole.isEmpty || (whole.head? == some '0' && whole.length > 1) then none
  else do
    let (fraction, rest) ← readFraction rest
    let (exponent, rest) ← readExponent rest
    return (makeNumber negative whole fraction exponent, rest)

def afterWord (word cs : List Char) : Option (List Char) :=
  if word.isPrefixOf cs then some (cs.drop word.length) else none

mutual

def readValue (cs : List Char) : Json × Text.Rest cs :=
  have hlen := length_skipBlanks_le cs
  match h : skipBlanks cs with
  | [] => (.broken, none)
  | '"' :: r =>
    match hd : delimited r with
    | none => (.broken, none)
    | some (raw, rest) =>
      have := length_delimited_lt hd
      match decodeString raw with
      | .broken => (.broken, none)
      | value => (value, some ⟨rest, by simp [h] at hlen; omega⟩)
  | '[' :: r =>
    have : r.length < cs.length := by simp [h] at hlen; omega
    match skipBlanks r with
    | ']' :: rest => (.array [] true, Text.shorten cs rest)
    | _ =>
      let (items, rest) := readItems r
      (.array items rest.isSome, rest.map fun ⟨r, h⟩ => ⟨r, by omega⟩)
  | '\x7b' :: r =>
    have : r.length < cs.length := by simp [h] at hlen; omega
    match skipBlanks r with
    | '\x7d' :: rest => (.object [] true, Text.shorten cs rest)
    | _ =>
      let (fields, rest) := readFields r
      (.object fields rest.isSome, rest.map fun ⟨r, h⟩ => ⟨r, by omega⟩)
  | c :: r =>
    match afterWord "null".toList (c :: r) with
    | some rest => (.null, Text.shorten cs rest)
    | none =>
    match afterWord "true".toList (c :: r) with
    | some rest => (.boolean true, Text.shorten cs rest)
    | none =>
    match afterWord "false".toList (c :: r) with
    | some rest => (.boolean false, Text.shorten cs rest)
    | none =>
    match readNumber (c :: r) with
    | some (n, rest) => (.number n, Text.shorten cs rest)
    | none => (.broken, none)
termination_by 3 * cs.length

def readItems (cs : List Char) : List Json × Text.Rest cs :=
  match readValue cs with
  | (item, none) => ([item], none)
  | (item, some ⟨rest, hrest⟩) =>
    have hlen := length_skipBlanks_le rest
    match h : skipBlanks rest with
    | ']' :: rest' => ([item], Text.shorten cs rest')
    | ',' :: rest' =>
      have : rest'.length < cs.length := by simp [h] at hlen; omega
      let (items, rest) := readItems rest'
      (item :: items, rest.map fun ⟨r, h⟩ => ⟨r, by omega⟩)
    | _ => ([item], none)
termination_by 3 * cs.length + 1

def readFields (cs : List Char) : List (Option String × Json) × Text.Rest cs :=
  have hlen := length_skipBlanks_le cs
  match h : skipBlanks cs with
  | '"' :: r =>
    match hd : delimited r with
    | none => ([], none)
    | some (raw, rest) =>
      have := length_delimited_lt hd
      match decodeString raw with
      | .text key =>
        have hlen' := length_skipBlanks_le rest
        match h' : skipBlanks rest with
        | ':' :: rest' =>
          have : rest'.length < cs.length := by simp [h] at hlen; simp [h'] at hlen'; omega
          match readValue rest' with
          | (value, none) => ([(key, value)], none)
          | (value, some ⟨rest, hrest⟩) =>
            have hlen := length_skipBlanks_le rest
            match h : skipBlanks rest with
            | '\x7d' :: rest => ([(key, value)], Text.shorten cs rest)
            | ',' :: rest =>
              have : rest.length < cs.length := by simp [h] at hlen; omega
              let (fields, rest) := readFields rest
              ((key, value) :: fields, rest.map fun ⟨r, h⟩ => ⟨r, by omega⟩)
            | _ => ([(key, value)], none)
        | _ => ([(key, .broken)], none)
      | _ => ([], none)
  | _ => ([], none)
termination_by 3 * cs.length + 2

end

def read (s : String) : Document :=
  match readValue s.toList with
  | (value, none) => ⟨value, false⟩
  | (value, some rest) => ⟨value, (skipBlanks rest.1).isEmpty⟩

end RemoteServices.Json
