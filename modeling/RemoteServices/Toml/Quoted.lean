import RemoteServices.Text.Hex

/-!
# Strings of TOML

A string stands between quotation marks, where a backslash escapes, or between apostrophes, where
nothing does.  Three of either mark delimit a string that may hold line ends; a line end right after
the opening marks does not count, and one or two of the mark may stand before the closing ones.

All of this restates the library `toml`.
-/
namespace RemoteServices.Toml

def isPlain (c : Char) : Bool := c == '\t' || (0x20 ≤ c.toNat && c.toNat != 0x7f)

/-- The character with the code that the first `n` characters write in hexadecimal. -/
def readCode (n : Nat) (cs : List Char) : Option (Char × List Char) :=
  if (cs.take n).length = n then
    (Text.hexValue? (cs.take n)).bind fun code =>
      if code.isValidChar then some (.ofNat code, cs.drop n) else none
  else none

/-- The character that the text after a backslash stands for. -/
def unescape : List Char → Option (Char × List Char)
  | 'b' :: cs => some ('\x08', cs)
  | 't' :: cs => some ('\t', cs)
  | 'n' :: cs => some ('\n', cs)
  | 'f' :: cs => some ('\x0c', cs)
  | 'r' :: cs => some ('\x0d', cs)
  | '"' :: cs => some ('"', cs)
  | '\\' :: cs => some ('\\', cs)
  | 'u' :: cs => readCode 4 cs
  | 'U' :: cs => readCode 8 cs
  | _ => none

theorem length_readCode_le {n : Nat} {cs rest : List Char} {c : Char}
    (h : readCode n cs = some (c, rest)) : rest.length ≤ cs.length := by
  unfold readCode at h
  split at h
  · obtain ⟨code, _, h⟩ := Option.bind_eq_some_iff.1 h
    split at h
    · cases h
      simp
    · cases h
  · cases h

theorem length_unescape_le {cs rest : List Char} {c : Char} (h : unescape cs = some (c, rest)) :
    rest.length ≤ cs.length := by
  unfold unescape at h
  split at h
  case h_8 => exact Nat.le_succ_of_le (length_readCode_le h)
  case h_9 => exact Nat.le_succ_of_le (length_readCode_le h)
  case h_10 => cases h
  all_goals cases h; exact Nat.le_succ _

def readBasic (cs : List Char) : Option (List Char × List Char) :=
  match cs with
  | [] => none
  | '"' :: cs => some ([], cs)
  | '\\' :: cs =>
    match _h : unescape cs with
    | some (c, rest) =>
      have := length_unescape_le _h
      (readBasic rest).map fun (s, rest) => (c :: s, rest)
    | none => none
  | c :: cs => if isPlain c then (readBasic cs).map fun (s, rest) => (c :: s, rest) else none
termination_by cs.length

def readLiteral : List Char → Option (List Char × List Char)
  | [] => none
  | '\'' :: cs => some ([], cs)
  | c :: cs => if isPlain c then (readLiteral cs).map fun (s, rest) => (c :: s, rest) else none

/-- The text without the blanks and line ends that it starts with. -/
def skipLines : List Char → List Char
  | ' ' :: cs => skipLines cs
  | '\t' :: cs => skipLines cs
  | '\n' :: cs => skipLines cs
  | '\x0d' :: '\n' :: cs => skipLines cs
  | cs => cs

theorem length_skipLines_le (cs : List Char) : (skipLines cs).length ≤ cs.length := by
  fun_induction skipLines cs with
  | case5 => exact Nat.le_refl _
  | _ => simp only [List.length_cons]; omega

def skipBlanks (cs : List Char) : List Char := cs.dropWhile fun c => c == ' ' || c == '\t'

def afterLineEnd : List Char → Option (List Char)
  | '\n' :: cs => some cs
  | '\x0d' :: '\n' :: cs => some cs
  | _ => none

/-- The marks before the closing three, when the text starts with those, and what follows. -/
def closing (mark : Char) (cs : List Char) : Option (List Char × List Char) :=
  let marks := (cs.take 5).takeWhile (· == mark)
  if 3 ≤ marks.length then some (marks.drop 3, cs.drop marks.length) else none

def readLongBasic (cs : List Char) : Option (List Char × List Char) :=
  match closing '"' cs with
  | some (s, rest) => some (s, rest)
  | none =>
    match cs with
    | [] => none
    | '\x0d' :: '\n' :: cs => (readLongBasic cs).map fun (s, rest) => ('\n' :: s, rest)
    | '\\' :: cs =>
      match afterLineEnd (skipBlanks cs) with
      | some _ =>
        have := length_skipLines_le cs
        readLongBasic (skipLines cs)
      | none =>
        match _h : unescape cs with
        | some (c, rest) =>
          have := length_unescape_le _h
          (readLongBasic rest).map fun (s, rest) => (c :: s, rest)
        | none => none
    | c :: cs =>
      if isPlain c ∨ c = '\n' then (readLongBasic cs).map fun (s, rest) => (c :: s, rest) else none
termination_by cs.length

def readLongLiteral (cs : List Char) : Option (List Char × List Char) :=
  match closing '\'' cs with
  | some (s, rest) => some (s, rest)
  | none =>
    match cs with
    | [] => none
    | '\x0d' :: '\n' :: cs => (readLongLiteral cs).map fun (s, rest) => ('\n' :: s, rest)
    | c :: cs =>
      if isPlain c ∨ c = '\n' then (readLongLiteral cs).map fun (s, rest) =>
        (c :: s, rest) else none

def readShort : List Char → Option (List Char × List Char)
  | '"' :: cs => readBasic cs
  | '\'' :: cs => readLiteral cs
  | _ => none

def readString : List Char → Option (List Char × List Char)
  | '"' :: '"' :: '"' :: cs => readLongBasic ((afterLineEnd cs).getD cs)
  | '\'' :: '\'' :: '\'' :: cs => readLongLiteral ((afterLineEnd cs).getD cs)
  | cs => readShort cs

end RemoteServices.Toml
