import RemoteServices.Text.Rest
import RemoteServices.Toml.Quoted
import RemoteServices.Toml.Scalar

/-!
# Reading TOML

The text is read into lines, and these are built into a tree.  Arrays and inline tables nest at most
to a fixed depth, and a dotted key has at most as many parts.

All of this, the limits included, restates the library `toml`.
-/
namespace RemoteServices.Toml

/-- How deep values nest, and how many parts a key has. -/
def maxDepth : Nat := 79

def isKeyChar (c : Char) : Bool := c.isAlphanum || c == '_' || c == '-'

/-- One part of a key: bare, or a string on one line. -/
def readKey (cs : List Char) : Option (Key × List Char) :=
  match readShort cs with
  | some (key, rest) => some (key, rest)
  | none =>
    let key := cs.takeWhile isKeyChar
    if key.isEmpty then none else some (key, cs.dropWhile isKeyChar)

def readPath (cs : List Char) : Option (Path × List Char) :=
  match readKey (skipBlanks cs) with
  | none => none
  | some (key, rest) =>
    match skipBlanks rest with
    | '.' :: more =>
      match Text.shorten cs more with
      | some ⟨more, _⟩ => (readPath more).map fun (path, rest) => (key :: path, rest)
      | none => none
    | rest => some ([key], rest)
termination_by cs.length

/-- A dotted key that is not too long. -/
def readKeyPath (cs : List Char) : Option (Path × List Char) :=
  (readPath cs).filter fun p => p.1.length ≤ maxDepth

/-- The text after a comment, if it starts with one; no control character may stand in it. -/
def afterComment : List Char → List Char
  | '#' :: cs => cs.dropWhile isPlain
  | cs => cs

/-- The text without the blanks, line ends and comments that it starts with. -/
def skipSpace (cs : List Char) : List Char :=
  match skipLines cs with
  | '#' :: cs' =>
    match Text.shorten cs (cs'.dropWhile isPlain) with
    | some ⟨rest, _⟩ => skipSpace rest
    | none => []
  | rest => rest
termination_by cs.length

theorem length_skipSpace_le (cs : List Char) : (skipSpace cs).length ≤ cs.length := by
  fun_induction skipSpace cs with
  | case1 cs _ _ rest h _ ih => omega
  | case2 => simp
  | case3 cs => exact length_skipLines_le cs

mutual

def readValue (depth : Nat) (cs : List Char) : Option (Toml × List Char) :=
  match cs, depth with
  | '[' :: cs, depth + 1 => (readItems depth cs).map fun (items, rest) => (.array items, rest)
  | '\x7b' :: cs, depth + 1 =>
    match skipBlanks cs with
    | '\x7d' :: rest => some (.table .inline [], rest)
    | _ => (readEntries depth cs).bind fun (entries, rest) => (inlineTable entries).map (·, rest)
  | c :: cs, _ =>
    if c = '"' ∨ c = '\'' then (readString (c :: cs)).map fun (s, rest) => (.text s, rest)
    else readWord (c :: cs)
  | [], _ => none
termination_by 2 * cs.length

def readItems (depth : Nat) (cs : List Char) : Option (List Toml × List Char) :=
  have := length_skipSpace_le cs
  match skipSpace cs, readValue depth (skipSpace cs) with
  | ']' :: rest, _ => some ([], rest)
  | _, none => none
  | _, some (item, rest) =>
    match skipSpace rest with
    | ']' :: rest => some ([item], rest)
    | ',' :: rest =>
      match Text.shorten cs rest with
      | some ⟨rest, _⟩ => (readItems depth rest).map fun (items, rest) => (item :: items, rest)
      | none => none
    | _ => none
termination_by 2 * cs.length + 1

def readEntries (depth : Nat) (cs : List Char) : Option (List (Path × Toml) × List Char) :=
  match readKeyPath cs with
  | some (path, '=' :: rest) =>
    match Text.shorten cs (skipBlanks rest) with
    | none => none
    | some ⟨start, _⟩ =>
      match readValue depth start with
      | none => none
      | some (value, rest) =>
        match skipBlanks rest with
        | '\x7d' :: rest => some ([(path, value)], rest)
        | ',' :: rest =>
          match Text.shorten cs rest with
          | some ⟨rest, _⟩ =>
            (readEntries depth rest).map fun (entries, rest) => ((path, value) :: entries, rest)
          | none => none
        | _ => none
  | _ => none
termination_by 2 * cs.length + 1

end

def endLine (cs : List Char) : Option (List Char) :=
  match afterComment (skipBlanks cs) with
  | [] => some []
  | rest => afterLineEnd rest

def readLine : List Char → Option (Line × List Char)
  | '[' :: '[' :: cs =>
    match readKeyPath cs with
    | some (path, ']' :: ']' :: rest) => some (.element path, rest)
    | _ => none
  | '[' :: cs =>
    match readKeyPath cs with
    | some (path, ']' :: rest) => some (.header path, rest)
    | _ => none
  | cs =>
    match readKeyPath cs with
    | some (path, '=' :: rest) =>
      (readValue maxDepth (skipBlanks rest)).map fun (value, rest) => (.entry path value, rest)
    | _ => none

def readLines (cs : List Char) : Option (List Line) :=
  match skipBlanks cs with
  | [] => some []
  | c :: start =>
    if c = '\n' ∨ c = '\x0d' ∨ c = '#' then
      match (endLine (c :: start)).bind (Text.shorten cs) with
      | some ⟨rest, _⟩ => readLines rest
      | none => none
    else
      match readLine (c :: start) with
      | none => none
      | some (line, rest) =>
        match (endLine rest).bind (Text.shorten cs) with
        | some ⟨rest, _⟩ => (readLines rest).map (line :: ·)
        | none => none
termination_by cs.length

/-- The tree of a document; a byte order mark may precede it. -/
def read (cs : List Char) : Option Toml :=
  (readLines (if cs.head? = some '\uFEFF' then cs.drop 1 else cs)).bind build

end RemoteServices.Toml
