import RemoteServices.Error
import RemoteServices.Filter

/-!
# Reading filters

The grammar, white space allowed before every parenthesis and after the opening ones:

* a filter is `(&` filters `)`, `(|` filters `)`, `(!` filter `)` or `(` key `=` value `)`; * a key
is a run of characters other than `=`, parentheses and stars, not blank, stored trimmed; * a value
extends to the first parenthesis that no backslash precedes; a star separates two chunks and a
backslash makes the next character a literal one.

A text that does not start with a parenthesis is read as if it stood in a pair of them.  A fault is
reported with the number of characters before it.
-/
namespace RemoteServices.Filter

inductive Fault
  | expected (c : Char)
  | unexpectedEnd
  | emptyList
  | invalidKeyCharacter
  | missingKey
  | unterminatedValue
  | unescapedParenthesis
  | danglingEscape
  | trailingCharacters
deriving DecidableEq, Repr

namespace Fault

def message : Fault → String
  | .expected c => "expected '" ++ c.toString ++ "'"
  | .unexpectedEnd => "unexpected end"
  | .emptyList => "empty filter list"
  | .invalidKeyCharacter => "invalid character in key"
  | .missingKey => "missing key"
  | .unterminatedValue => "unterminated value"
  | .unescapedParenthesis => "unescaped '(' in value"
  | .danglingEscape => "dangling escape"
  | .trailingCharacters => "trailing characters"

end Fault

structure Stop where
  fault : Fault
  rest : List Char

def skipBlanks (cs : List Char) : List Char := cs.dropWhile Text.isBlank

theorem length_skipBlanks_le (cs : List Char) : (skipBlanks cs).length ≤ cs.length :=
  (List.dropWhile_sublist _).length_le

def expect (c : Char) (cs : List Char) : Except Stop { r : List Char // r.length < cs.length } :=
  match h : skipBlanks cs with
  | [] => .error ⟨.expected c, []⟩
  | d :: ds =>
    if d = c then .ok ⟨ds, by have := length_skipBlanks_le cs; simp [h] at this; omega⟩
    else .error ⟨.expected c, d :: ds⟩

def endsKey (c : Char) : Bool := c == '=' || c == '(' || c == ')' || c == '*'

/-- The text before the first equals sign, and what is left from there on. -/
def readKey (cs : List Char) : Except Stop (List Char × List Char) :=
  let key := cs.takeWhile (! endsKey ·)
  match cs.dropWhile (! endsKey ·) with
  | [] => .ok (key, [])
  | c :: cs => if c = '=' then .ok (key, c :: cs) else .error ⟨.invalidKeyCharacter, c :: cs⟩

def consChunk (c : Char) : List (List Char) → List (List Char)
  | [] => [[c]]
  | chunk :: chunks => (c :: chunk) :: chunks

/-- The chunks of a value, and what is left from its closing parenthesis on. -/
def readValue : List Char → Except Stop (List (List Char) × List Char)
  | [] => .error ⟨.unterminatedValue, []⟩
  | ')' :: cs => .ok ([[]], ')' :: cs)
  | '(' :: cs => .error ⟨.unescapedParenthesis, '(' :: cs⟩
  | '*' :: cs => do
    let (chunks, rest) ← readValue cs
    return ([] :: chunks, rest)
  | ['\\'] => .error ⟨.danglingEscape, []⟩
  | '\\' :: c :: cs => do
    let (chunks, rest) ← readValue cs
    return (consChunk c chunks, rest)
  | c :: cs => do
    let (chunks, rest) ← readValue cs
    return (consChunk c chunks, rest)

/-- The condition on `key` that a value stands for: a single star asks for presence only. -/
def ofChunks (key : List Char) : List (List Char) → Filter
  | [[], []] => .present (.ofList key)
  | chunks => .equal (.ofList key) (chunks.map .ofList)

def readItem (cs : List Char) : Except Stop (Filter × List Char) := do
  let (key, rest) ← readKey cs
  let key := Text.trimmed key
  if key.isEmpty then throw ⟨.missingKey, rest⟩
  let ⟨rest, _⟩ ← expect '=' rest
  let (chunks, rest) ← readValue rest
  return (ofChunks key chunks, rest)

theorem length_readKey_le {cs key rest : List Char} (h : readKey cs = .ok (key, rest)) :
    rest.length ≤ cs.length := by
  have hd : (cs.dropWhile (! endsKey ·)).length ≤ cs.length := (List.dropWhile_sublist _).length_le
  unfold readKey at h
  split at h
  · cases h; simp
  · rename_i c ds hcs
    split at h
    · cases h; rwa [hcs] at hd
    · cases h

theorem length_readValue_le {cs rest : List Char} {chunks : List (List Char)}
    (h : readValue cs = .ok (chunks, rest)) : rest.length ≤ cs.length := by
  fun_induction readValue cs generalizing chunks with
  | case1 => cases h
  | case2 cs => cases h; exact Nat.le_refl _
  | case3 => cases h
  | case4 cs ih =>
    cases hv : readValue cs with
    | error e => simp [hv, bind, Except.bind] at h
    | ok v =>
      simp only [hv, bind, Except.bind, pure, Except.pure, Except.ok.injEq, Prod.mk.injEq] at h
      have := @ih v.1 (by rw [hv, ← h.2])
      simp only [List.length_cons]; omega
  | case5 => cases h
  | case6 c cs ih =>
    cases hv : readValue cs with
    | error e => simp [hv, bind, Except.bind] at h
    | ok v =>
      simp only [hv, bind, Except.bind, pure, Except.pure, Except.ok.injEq, Prod.mk.injEq] at h
      have := @ih v.1 (by rw [hv, ← h.2])
      simp only [List.length_cons]; omega
  | case7 c cs _ _ _ _ _ ih =>
    cases hv : readValue cs with
    | error e => simp [hv, bind, Except.bind] at h
    | ok v =>
      simp only [hv, bind, Except.bind, pure, Except.pure, Except.ok.injEq, Prod.mk.injEq] at h
      have := @ih v.1 (by rw [hv, ← h.2])
      simp only [List.length_cons]; omega

theorem length_readItem_le {cs rest : List Char} {f : Filter} (h : readItem cs = .ok (f, rest)) :
    rest.length ≤ cs.length := by
  unfold readItem at h
  cases hk : readKey cs with
  | error e => simp [hk, bind, Except.bind] at h
  | ok k =>
    obtain ⟨key, r⟩ := k
    have := length_readKey_le hk
    simp only [hk, bind, Except.bind] at h
    split at h
    · cases h
    · simp only [pure, Except.pure] at h
      split at h
      · cases h
      · rename_i r' _
        split at h
        · cases h
        · rename_i v hv
          have : v.2.length ≤ r'.1.length := length_readValue_le hv
          have := r'.2
          cases h
          omega

mutual

def readFilter (cs : List Char) :
    Except Stop (Filter × { r : List Char // r.length < cs.length }) := do
  let ⟨body, hbody⟩ ← expect '(' cs
  let ⟨filter, rest, hrest⟩ ← readBody body
  let ⟨rest, hend⟩ ← expect ')' rest
  return (filter, ⟨rest, by omega⟩)
termination_by 3 * cs.length

def readBody (cs : List Char) : Except Stop (Filter × { r : List Char // r.length ≤ cs.length }) :=
  have hlen := length_skipBlanks_le cs
  match h : skipBlanks cs with
  | [] => .error ⟨.unexpectedEnd, []⟩
  | '&' :: r => do
    have : r.length < cs.length := by simp [h] at hlen; omega
    let ⟨parts, rest, hrest⟩ ← readParts r
    if parts.isEmpty then throw ⟨.emptyList, rest⟩
    return (.all parts, ⟨rest, by omega⟩)
  | '|' :: r => do
    have : r.length < cs.length := by simp [h] at hlen; omega
    let ⟨parts, rest, hrest⟩ ← readParts r
    if parts.isEmpty then throw ⟨.emptyList, rest⟩
    return (.any parts, ⟨rest, by omega⟩)
  | '!' :: r => do
    have : r.length < cs.length := by simp [h] at hlen; omega
    let ⟨part, rest, hrest⟩ ← readFilter r
    return (.negation part, ⟨rest, by omega⟩)
  | c :: r =>
    match hi : readItem (c :: r) with
    | .error stop => .error stop
    | .ok (filter, rest) =>
      .ok (filter, ⟨rest, by have := length_readItem_le hi; simp [h] at hlen this; omega⟩)
termination_by 3 * cs.length + 1

/-- Reads filters as long as a parenthesis opens; the white space before what follows is skipped. -/
def readParts (cs : List Char) :
    Except Stop (List Filter × { r : List Char // r.length ≤ cs.length }) :=
  have hlen := length_skipBlanks_le cs
  match h : skipBlanks cs with
  | '(' :: r => do
    have : r.length + 1 ≤ cs.length := by simpa [h] using hlen
    let ⟨part, rest, hrest⟩ ← readFilter ('(' :: r)
    have : rest.length < r.length + 1 := hrest
    let ⟨parts, rest', hrest'⟩ ← readParts rest
    return (part :: parts, ⟨rest', by omega⟩)
  | r => .ok ([], ⟨r, by rw [h] at hlen; exact hlen⟩)
termination_by 3 * cs.length + 2

end

inductive ReadError
  | empty
  | invalid (offset : Nat) (fault : Fault)
deriving DecidableEq, Repr

namespace ReadError

def message : ReadError → String
  | .empty => "empty filter"
  | .invalid offset fault =>
    "invalid filter at offset " ++ toString offset ++ ": " ++ fault.message

end ReadError

/-- The text that is read: trimmed, and between parentheses if it does not start with one. -/
def parenthesized (cs : List Char) : List Char :=
  if cs.head? = some '(' then cs else '(' :: (cs ++ [')'])

def readAll (cs : List Char) : Except Stop Filter := do
  let (filter, rest) ← readFilter cs
  let rest := skipBlanks rest
  if rest.isEmpty then return filter else throw ⟨.trailingCharacters, rest⟩

def ofChars (cs : List Char) : Except ReadError Filter :=
  let cs := Text.trimmed cs
  if cs.isEmpty then .error .empty
  else
    let cs := parenthesized cs
    match readAll cs with
    | .ok filter => .ok filter
    | .error stop => .error (.invalid (cs.length - stop.rest.length) stop.fault)

def ofText (s : String) : Except ReadError Filter := ofChars s.toList

/-- The filter of a text, and what a caller is told of a text that is none. -/
def parse (s : String) : Except RemoteError Filter :=
  (ofText s).mapError fun e => .illegalArgument e.message

end RemoteServices.Filter
