import RemoteServices.Properties
import RemoteServices.Text.Search

/-!
# Filters on property maps

A filter is a condition on a property map: the presence of a key, equality of its value with a
pattern, and the logical connectives.  A pattern is a list of literal chunks with arbitrary text
between them.  Equality holds of a value when the pattern matches the whole value or one item of its
comma-separated list.
-/
namespace RemoteServices

inductive Filter
  | all (parts : List Filter)
  | any (parts : List Filter)
  | negation (part : Filter)
  /-- The value of `key` is the chunks in this order, with any text between each two. -/
  | equal (key : String) (chunks : List String)
  | present (key : String)
deriving Inhabited

namespace Filter

/-- The key has exactly this value, or has it as a list item. -/
def exactly (key value : String) : Filter := .equal key [value]

mutual

def same : Filter → Filter → Bool
  | .all ps, .all qs => sameParts ps qs
  | .any ps, .any qs => sameParts ps qs
  | .negation p, .negation q => same p q
  | .equal k cs, .equal l ds => k == l && cs == ds
  | .present k, .present l => k == l
  | _, _ => false

def sameParts : List Filter → List Filter → Bool
  | [], [] => true
  | p :: ps, q :: qs => same p q && sameParts ps qs
  | _, _ => false

end

instance : BEq Filter := ⟨same⟩

/-- The text ends with the last chunk, after leftmost occurrences of the others in turn. -/
def tailMatches : List (List Char) → List Char → Bool
  | [], rest => rest.isEmpty
  | [last], rest => last.isSuffixOf rest
  | chunk :: chunks, rest =>
    match Text.afterFirst chunk rest with
    | some rest => tailMatches chunks rest
    | none => false

def chunksMatch (first : List Char) (others : List (List Char)) (value : List Char) : Bool :=
  first.isPrefixOf value && tailMatches others (value.drop first.length)

/-- Whether the pattern matches the value or, if it has a comma, one of its items.  There is no
answer for a pattern without chunks: it has no first one to look for. -/
def valueMatches? (chunks : List String) (value : String) : Option Bool :=
  let value := value.toList
  match chunks.map String.toList with
  | [] => none
  | first :: others => some <|
    chunksMatch first others value ||
      (value.contains ',' && (Text.pieces ',' value).any fun item =>
        chunksMatch first others (Text.trimmed item))

mutual

/-- Whether the map satisfies the filter, as long as there is an answer for each pattern that is
looked at on the way. -/
def holds? (p : Properties) : Filter → Option Bool
  | .all parts => allHold? p parts
  | .any parts => anyHolds? p parts
  | .negation part => (holds? p part).map (! ·)
  | .present key => some (p.contains key)
  | .equal key chunks =>
    match p.get? key with
    | some value => valueMatches? chunks value
    | none => some false

def allHold? (p : Properties) : List Filter → Option Bool
  | [] => some true
  | f :: fs => (holds? p f).bind fun holds => if holds then allHold? p fs else some false

def anyHolds? (p : Properties) : List Filter → Option Bool
  | [] => some false
  | f :: fs => (holds? p f).bind fun holds => if holds then some true else anyHolds? p fs

end

def «matches» (f : Filter) (p : Properties) : Bool := (holds? p f).getD false

end Filter

end RemoteServices
