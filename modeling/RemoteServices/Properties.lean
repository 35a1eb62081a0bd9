import RemoteServices.Lookup
import RemoteServices.Text.Blank
import RemoteServices.Text.Decimal

/-!
# Property maps

The metadata of a service, a factory or an endpoint: a finite map from texts to texts.  The entries
are kept in ascending order of their keys, so two maps are equal exactly when they bind the same
keys to the same values (`Properties.ext_get?`).
-/
namespace RemoteServices

/-- A finite map from keys to values, both texts. -/
structure Properties where
  entries : List (String × String)
  ascending : entries.Pairwise fun a b => a.1 < b.1
deriving DecidableEq

namespace Properties

def insertEntry (key value : String) : List (String × String) → List (String × String)
  | [] => [(key, value)]
  | e :: es =>
    if key < e.1 then (key, value) :: e :: es
    else if key = e.1 then (key, value) :: es
    else e :: insertEntry key value es

theorem mem_insertEntry {key value : String} {es : List (String × String)} {e : String × String}
    (h : e ∈ insertEntry key value es) : e = (key, value) ∨ e ∈ es := by
  induction es with
  | nil => simpa [insertEntry] using h
  | cons a as ih =>
    rw [insertEntry] at h
    split at h
    · simpa using h
    · split at h
      · rcases List.mem_cons.1 h with h | h
        · exact .inl h
        · exact .inr (List.mem_cons_of_mem _ h)
      · rcases List.mem_cons.1 h with h | h
        · exact .inr (h ▸ List.mem_cons_self)
        · exact (ih h).imp id (List.mem_cons_of_mem _)

theorem ascending_insertEntry {key value : String} {es : List (String × String)}
    (h : es.Pairwise fun a b => a.1 < b.1) :
    (insertEntry key value es).Pairwise fun a b => a.1 < b.1 := by
  induction es with
  | nil => simp [insertEntry]
  | cons a as ih =>
    obtain ⟨ha, has⟩ := List.pairwise_cons.1 h
    rw [insertEntry]
    split
    · rename_i hlt
      refine List.pairwise_cons.2 ⟨fun b hb => ?_, h⟩
      rcases List.mem_cons.1 hb with rfl | hb
      · exact hlt
      · exact String.lt_trans hlt (ha b hb)
    · rename_i hlt
      split
      · rename_i heq
        exact List.pairwise_cons.2 ⟨fun b hb => heq ▸ ha b hb, has⟩
      · rename_i hne
        refine List.pairwise_cons.2 ⟨fun b hb => ?_, ih has⟩
        rcases mem_insertEntry hb with rfl | hb
        · exact Std.lt_of_le_of_ne (String.not_lt.1 hlt) (Ne.symm hne)
        · exact ha b hb

def empty : Properties := ⟨[], .nil⟩

instance : EmptyCollection Properties := ⟨empty⟩
instance : Inhabited Properties := ⟨empty⟩

def get? (p : Properties) (key : String) : Option String := p.entries.lookup key

def contains (p : Properties) (key : String) : Bool := (p.get? key).isSome

def size (p : Properties) : Nat := p.entries.length

def isEmpty (p : Properties) : Bool := p.entries.isEmpty

def set (p : Properties) (key value : String) : Properties :=
  ⟨insertEntry key value p.entries, ascending_insertEntry p.ascending⟩

def restrict (p : Properties) (keep : String → Bool) : Properties :=
  ⟨p.entries.filter fun e => keep e.1, p.ascending.filter _⟩

def erase (p : Properties) (key : String) : Properties := p.restrict (· != key)

/-- The map with the given entries; of two with the same key the later one counts. -/
def ofList (es : List (String × String)) : Properties := es.foldl (fun p e => p.set e.1 e.2) ∅

/-- All entries of `q`, and those of `p` whose keys `q` does not bind. -/
def merge (p q : Properties) : Properties := q.entries.foldl (fun p e => p.set e.1 e.2) p

/-- The items of a list-valued property; none when it is absent. -/
def list (p : Properties) (key : String) : List String :=
  match p.get? key with
  | some v => Text.commaItems v
  | none => []

/-- The property read as a signed integer, white space around it ignored. -/
def int64? (p : Properties) (key : String) : Option Int64 :=
  match p.get? key with
  | some v => (Text.readInt64 (Text.trimmed v.toList)).toOption
  | none => none

def hasText (p : Properties) (key : String) : Bool :=
  match p.get? key with
  | some v => ! Text.isBlankText v
  | none => false

def render (p : Properties) : String :=
  "\x7b" ++ ", ".intercalate (p.entries.map fun e => e.1 ++ "=" ++ e.2) ++ "\x7d"

theorem lookup_insertEntry (key value k : String) (es : List (String × String)) :
    (insertEntry key value es).lookup k = if k = key then some value else es.lookup k := by
  induction es with
  | nil => rw [insertEntry, lookup_cons_ite]
  | cons e es ih =>
    rw [insertEntry]
    split
    · rw [lookup_cons_ite]
    · split
      · rename_i heq
        rw [lookup_cons_ite, lookup_cons_ite, ← heq]
        by_cases h : k = key <;> simp [h]
      · rename_i hne
        rw [lookup_cons_ite, lookup_cons_ite, ih]
        by_cases h : k = key
        · simp [h, hne]
        · simp [h]

theorem lookup_eq_none_of_lt {k : String} {es : List (String × String)} (h : ∀ e ∈ es, k < e.1) :
    es.lookup k = none := by
  induction es with
  | nil => rfl
  | cons e es ih =>
    have hne : k ≠ e.1 := fun he => String.lt_irrefl _ (he ▸ h e List.mem_cons_self)
    rw [lookup_cons_ite, if_neg hne]
    exact ih fun a ha => h a (List.mem_cons_of_mem _ ha)

theorem not_lt_of_lookup_eq {e f : String × String} {es fs : List (String × String)}
    (hf : ∀ a ∈ fs, f.1 < a.1) (h : (e :: es).lookup e.1 = (f :: fs).lookup e.1) : ¬ e.1 < f.1 := by
  intro hlt
  have hnone : (f :: fs).lookup e.1 = none := lookup_eq_none_of_lt fun a ha => by
    rcases List.mem_cons.1 ha with rfl | ha
    · exact hlt
    · exact String.lt_trans hlt (hf a ha)
  rw [hnone, lookup_cons_ite, if_pos rfl] at h
  cases h

theorem eq_of_lookup_eq {es fs : List (String × String)}
    (hes : es.Pairwise fun a b => a.1 < b.1) (hfs : fs.Pairwise fun a b => a.1 < b.1)
    (h : ∀ k, es.lookup k = fs.lookup k) : es = fs := by
  induction es generalizing fs with
  | nil =>
    cases fs with
    | nil => rfl
    | cons f fs =>
      have := h f.1
      rw [lookup_cons_ite, if_pos rfl] at this
      cases this
  | cons e es ih =>
    obtain ⟨he, hes⟩ := List.pairwise_cons.1 hes
    cases fs with
    | nil =>
      have := h e.1
      rw [lookup_cons_ite, if_pos rfl] at this
      cases this
    | cons f fs =>
      obtain ⟨hf, hfs⟩ := List.pairwise_cons.1 hfs
      have key : e.1 = f.1 := by
        rcases Std.lt_trichotomy e.1 f.1 with hlt | heq | hlt
        · exact absurd hlt (not_lt_of_lookup_eq hf (h e.1))
        · exact heq
        · exact absurd hlt (not_lt_of_lookup_eq he (h f.1).symm)
      have value : e.2 = f.2 := by
        have := h e.1
        rw [lookup_cons_ite, lookup_cons_ite, if_pos rfl, if_pos key] at this
        exact Option.some.inj this
      have rest : es = fs := by
        refine ih hes hfs fun k => ?_
        by_cases hk : k = e.1
        · subst hk
          rw [lookup_eq_none_of_lt he, lookup_eq_none_of_lt (key ▸ hf)]
        · have := h k
          rwa [lookup_cons_ite, lookup_cons_ite, if_neg hk, if_neg (key ▸ hk)] at this
      rw [rest, Prod.ext key value]

@[simp] theorem get?_empty (k : String) : (∅ : Properties).get? k = none := rfl

theorem get?_set (p : Properties) (key value k : String) :
    (p.set key value).get? k = if k = key then some value else p.get? k :=
  lookup_insertEntry key value k p.entries

@[simp] theorem get?_set_self (p : Properties) (key value : String) :
    (p.set key value).get? key = some value := by simp [get?_set]

theorem ext_get? {p q : Properties} (h : ∀ k, p.get? k = q.get? k) : p = q := by
  obtain ⟨es, hes⟩ := p
  obtain ⟨fs, hfs⟩ := q
  congr
  exact eq_of_lookup_eq hes hfs h

@[simp] theorem get?_restrict (p : Properties) (keep : String → Bool) (k : String) :
    (p.restrict keep).get? k = if keep k then p.get? k else none :=
  lookup_filter_key keep p.entries k

theorem get?_erase (p : Properties) (key k : String) :
    (p.erase key).get? k = if k = key then none else p.get? k := by
  by_cases h : k = key <;> simp [erase, h]

end Properties

end RemoteServices
