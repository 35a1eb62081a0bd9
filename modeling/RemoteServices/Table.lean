import RemoteServices.Lookup

/-!
# Tables

Finite maps as lists of entries, each key in one entry at most.  A table is known by what its
look-ups answer: `Table.get?_insert` and `Table.get?_erase`.
-/
namespace RemoteServices

structure Table (K V : Type) where
  entries : List (K × V)
deriving DecidableEq

namespace Table

variable {K V : Type} [DecidableEq K]

def empty : Table K V := ⟨[]⟩

instance : EmptyCollection (Table K V) := ⟨empty⟩
instance : Inhabited (Table K V) := ⟨empty⟩

def get? (t : Table K V) (key : K) : Option V := t.entries.lookup key

def contains (t : Table K V) (key : K) : Bool := (t.get? key).isSome

def erase (t : Table K V) (key : K) : Table K V := ⟨t.entries.filter fun e => e.1 != key⟩

def insert (t : Table K V) (key : K) (value : V) : Table K V :=
  ⟨(key, value) :: (t.erase key).entries⟩

def update (t : Table K V) (key : K) (change : V → V) : Table K V :=
  ⟨t.entries.map fun e => if e.1 = key then (e.1, change e.2) else e⟩

@[simp] theorem get?_empty (k : K) : (∅ : Table K V).get? k = none := rfl

theorem get?_erase (t : Table K V) (key k : K) :
    (t.erase key).get? k = if k = key then none else t.get? k := by
  rw [erase, get?, lookup_filter_key (· != key) t.entries k]
  by_cases h : k = key <;> simp [h, get?]

theorem get?_insert (t : Table K V) (key : K) (value : V) (k : K) :
    (t.insert key value).get? k = if k = key then some value else t.get? k := by
  rw [insert, get?, lookup_cons_ite, ← get?, get?_erase]
  by_cases h : k = key <;> simp [h]

theorem lookup_update (key : K) (change : V → V) (es : List (K × V)) (k : K) :
    (es.map fun e => if e.1 = key then (e.1, change e.2) else e).lookup k =
      if k = key then (es.lookup k).map change else es.lookup k := by
  induction es with
  | nil => simp
  | cons e es ih =>
    rw [List.map_cons, lookup_cons_ite, lookup_cons_ite, ih]
    by_cases he : e.1 = key
    · by_cases hk : k = key
      · simp [he, hk]
      · simp [he, hk]
    · by_cases hk : k = e.1
      · simp [hk, he]
      · simp [he, hk]

theorem get?_update (t : Table K V) (key : K) (change : V → V) (k : K) :
    (t.update key change).get? k = if k = key then (t.get? k).map change else t.get? k :=
  lookup_update key change t.entries k

end Table

end RemoteServices
