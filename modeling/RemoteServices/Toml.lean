/-!
# TOML documents

A document is a list of lines: headers, which name the table that the next entries go into, and
entries.  Building the tree applies the lines in order.  A table is defined once: by its header, by
dotted keys inside one table, or inline; a table that a longer header merely passes through may
still get a header of its own.

The program leaves TOML to the library `toml`; this module, `Toml.Scalar`, `Toml.Quoted`,
`Toml.Reader` and `Toml.Printer` restate what that library does, and nothing in them is the
program's own.
-/
namespace RemoteServices

inductive Toml.Origin
  | header
  /-- On the way of a longer header. -/
  | implied
  | dotted
  | inline
deriving DecidableEq, Repr

inductive Toml
  | text (s : List Char)
  | integer (n : Int64)
  | boolean (b : Bool)
  | real
  /-- A date, a time, or both. -/
  | moment
  | array (items : List Toml)
  /-- A table, its entries in order. -/
  | table (origin : Toml.Origin) (entries : List (List Char × Toml))
  /-- The elements of an array that headers extend. -/
  | elements (tables : List Toml)
deriving Inhabited

namespace Toml

abbrev Key := List Char

abbrev Path := List Key

inductive Line
  | header (path : Path)
  | element (path : Path)
  | entry (path : Path) (value : Toml)

def replace (key : Key) (value : Toml) : List (Key × Toml) → List (Key × Toml)
  | [] => [(key, value)]
  | (k, v) :: es => if k = key then (k, value) :: es else (k, v) :: replace key value es

/-- Changes the table that `path` leads to.  Tables on the way are made where there are none; of an
array of tables the last one is entered.  No path enters an inline table, and a dotted key none that
has a header. -/
def within (dotted : Bool) (change : Toml → Option Toml) : Path → Toml → Option Toml
  | [], t => change t
  | key :: path, .table origin entries =>
    match entries.lookup key with
    | none =>
      (within dotted change path (.table (if dotted then .dotted else .implied) [])).map fun t =>
        .table origin (entries ++ [(key, t)])
    | some (.table o es) =>
      if o == .inline || (dotted && o == .header) then none
      else (within dotted change path (.table o es)).map fun t =>
        .table origin (replace key t entries)
    | some (.elements ts) =>
      match ts.getLast? with
      | some last =>
        (within dotted change path last).map fun t =>
          .table origin (replace key (.elements (ts.dropLast ++ [t])) entries)
      | none => none
    | some _ => none
  | _ :: _, _ => none

/-- Adds an entry; `viaDots` tells whether its key is dotted. -/
def addEntry (viaDots : Bool) (key : Key) (value : Toml) : Toml → Option Toml
  | .table origin entries =>
    if (origin == .dotted) != viaDots then none
    else if (entries.lookup key).isSome then none
    else some (.table origin (entries ++ [(key, value)]))
  | _ => none

def enter (path : Path) (value : Toml) (t : Toml) : Option Toml :=
  match path.getLast? with
  | none => none
  | some key => within true (addEntry (1 < path.length) key value) path.dropLast t

def openTable (key : Key) : Toml → Option Toml
  | .table origin entries =>
    match entries.lookup key with
    | none => some (.table origin (entries ++ [(key, .table .header [])]))
    | some (.table .implied es) => some (.table origin (replace key (.table .header es) entries))
    | some _ => none
  | _ => none

def openElement (key : Key) : Toml → Option Toml
  | .table origin entries =>
    match entries.lookup key with
    | none => some (.table origin (entries ++ [(key, .elements [.table .header []])]))
    | some (.elements ts) =>
      some (.table origin (replace key (.elements (ts ++ [.table .header []])) entries))
    | some _ => none
  | _ => none

/-- A document on the way: the tree, and the table that entries go into. -/
structure Draft where
  root : Toml
  current : Path

def Draft.apply (d : Draft) : Line → Option Draft
  | .header path => do
    return ⟨← within false (openTable (← path.getLast?)) path.dropLast d.root, path⟩
  | .element path => do
    return ⟨← within false (openElement (← path.getLast?)) path.dropLast d.root, path⟩
  | .entry path value =>
    do return { d with root := ← within false (enter path value) d.current d.root }

def build (lines : List Line) : Option Toml :=
  (lines.foldlM Draft.apply ⟨.table .header [], []⟩).map Draft.root

def inlineTable (entries : List (Path × Toml)) : Option Toml :=
  entries.foldlM (fun t e => enter e.1 e.2 t) (.table .inline [])

end Toml

end RemoteServices
