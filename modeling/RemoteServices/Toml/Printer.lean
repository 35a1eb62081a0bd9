import RemoteServices.Text.Hex
import RemoteServices.Toml

/-!
# Writing strings of TOML

A string is written in the first of these forms that shows its text as it is: between quotation
marks, between apostrophes, between three quotation marks, between three apostrophes.  If none does,
it is escaped between quotation marks, three of them if it has line ends.

All of this restates the library `toml`.
-/
namespace RemoteServices.Toml

def isHidden (c : Char) : Bool :=
  (c.toNat < 0x20 && c != '\t' && c != '\n') || c.toNat == 0x7f

/-- The greatest number of `mark`s in a row, after `n` of them and with `most` seen before. -/
def longestRun (mark : Char) (n most : Nat) : List Char → Nat
  | [] => most
  | c :: cs =>
    if c = mark then longestRun mark (n + 1) (max most (n + 1)) cs else longestRun mark 0 most cs

def runOf (mark : Char) (s : List Char) : Nat := longestRun mark 0 0 s

inductive Form
  | basic
  | literal
  | longBasic
  | longLiteral
deriving DecidableEq, Repr

def formOf (s : List Char) : Form :=
  let hidden := s.any isHidden
  let escapes := s.contains '\\'
  let lines := s.contains '\n'
  if !hidden && !escapes && runOf '"' s = 0 && !lines then .basic
  else if !hidden && runOf '\'' s = 0 && !lines then .literal
  else if !hidden && !escapes && runOf '"' s ≤ 2 then .longBasic
  else if !hidden && runOf '\'' s ≤ 2 then .longLiteral
  else if lines then .longBasic
  else .basic

def escapeHidden (c : Char) : List Char :=
  if c = '\x08' then ['\\', 'b']
  else if c = '\t' then ['\\', 't']
  else if c = '\n' then ['\\', 'n']
  else if c = '\x0c' then ['\\', 'f']
  else if c = '\x0d' then ['\\', 'r']
  else ['\\', 'u', '0', '0', Text.upperHex (c.toNat / 16), Text.upperHex (c.toNat % 16)]

/-- The text escaped for quotation marks.  At most `free` of them in a row stay as they are, and `n`
precede; line ends stay if `lines` are allowed. -/
def escape (lines : Bool) (free n : Nat) : List Char → List Char
  | [] => []
  | c :: cs =>
    if c = '"' then
      if n < free then c :: escape lines free (n + 1) cs else '\\' :: c :: escape lines free 0 cs
    else if c = '\\' then '\\' :: '\\' :: escape lines free 0 cs
    else if c = '\n' ∧ lines then c :: escape lines free 0 cs
    else if isHidden c ∨ c = '\t' ∨ c = '\n' then escapeHidden c ++ escape lines free 0 cs
    else c :: escape lines free 0 cs

/-- The line end that shows where a text of several lines begins. -/
def opening (s : List Char) : List Char := if s.contains '\n' then ['\n'] else []

def quoteBasic (s : List Char) : List Char := '"' :: (escape false 0 0 s ++ ['"'])

def quoteLiteral (s : List Char) : List Char := '\'' :: (s ++ ['\''])

def quoteLongBasic (s : List Char) : List Char :=
  '"' :: '"' :: '"' :: (opening s ++ escape true 2 0 s ++ ['"', '"', '"'])

def quoteLongLiteral (s : List Char) : List Char :=
  '\'' :: '\'' :: '\'' :: (opening s ++ s ++ ['\'', '\'', '\''])

def quote (s : List Char) : List Char :=
  match formOf s with
  | .basic => quoteBasic s
  | .literal => quoteLiteral s
  | .longBasic => quoteLongBasic s
  | .longLiteral => quoteLongLiteral s

end RemoteServices.Toml
