import Mathlib.Data.List.Nodup

/-!
# Lists with distinct keys

Exports, imports and waiting endpoints are kept in lists in which no two entries have the same key.
Such a list is as good as a finite map: an entry is found by its key, and striking a key strikes
one entry.
-/
namespace RemoteServices

variable {α β : Type} [DecidableEq β] {key : α → β} {l : List α}

omit [DecidableEq β] in
theorem nodup_concat_key (h : (l.map key).Nodup) {a : α} (ha : key a ∉ l.map key) :
    ((l ++ [a]).map key).Nodup := by
  rw [List.map_append, List.map_singleton, ← List.concat_eq_append]
  exact h.concat ha

theorem find?_key (h : (l.map key).Nodup) {a : α} (ha : a ∈ l) :
    l.find? (key · == key a) = some a := by
  cases hf : l.find? (key · == key a) with
  | none => simpa using List.find?_eq_none.mp hf a ha
  | some b =>
    have hb : key b = key a := by simpa using List.find?_some hf
    rw [List.inj_on_of_nodup_map h (List.mem_of_find?_eq_some hf) ha hb]

theorem mem_of_find?_key {k : β} {a : α} (h : l.find? (key · == k) = some a) : a ∈ l ∧ key a = k :=
  ⟨List.mem_of_find?_eq_some h, by simpa using List.find?_some h⟩

theorem find?_key_eq_none {k : β} : l.find? (key · == k) = none ↔ ∀ a ∈ l, key a ≠ k := by
  simp [List.find?_eq_none]

theorem filter_key (h : (l.map key).Nodup) {a : α} (ha : a ∈ l) :
    l.filter (key · == key a) = [a] := by
  induction l with
  | nil => cases ha
  | cons b l ih =>
    obtain ⟨hb, hl⟩ := List.nodup_cons.mp h
    rcases List.mem_cons.mp ha with rfl | ha
    · rw [List.filter_cons_of_pos (by simp), List.filter_eq_nil_iff.mpr]
      intro c hc
      simpa using fun heq : key c = key a => hb (heq ▸ List.mem_map_of_mem hc)
    · have hne : key b ≠ key a := fun heq => hb (heq ▸ List.mem_map_of_mem ha)
      rw [List.filter_cons_of_neg (by simpa using hne), ih hl ha]

omit [DecidableEq β] in
theorem mem_map_key (h : (l.map key).Nodup) {part : List α} (hpart : ∀ a ∈ part, a ∈ l)
    {a : α} (ha : a ∈ l) :
    key a ∈ part.map key ↔ a ∈ part := by
  refine ⟨fun hmem => ?_, List.mem_map_of_mem⟩
  obtain ⟨b, hb, hba⟩ := List.mem_map.mp hmem
  rwa [← List.inj_on_of_nodup_map h (hpart b hb) ha hba]

/-- Striking the keys of the entries that satisfy `p` strikes just these entries. -/
theorem filter_keys_notMem (h : (l.map key).Nodup) (p : α → Bool) :
    l.filter (fun a => key a ∉ (l.filter p).map key) = l.filter fun a => ! p a := by
  refine List.filter_congr fun a ha => ?_
  cases hp : p a with
  | true =>
    have hmem : key a ∈ (l.filter p).map key := List.mem_map_of_mem (List.mem_filter.mpr ⟨ha, hp⟩)
    simp [hmem]
  | false =>
    simp only [List.mem_map, List.mem_filter, Bool.not_false,
      decide_eq_true_eq, not_exists, not_and]
    intro b hb hab
    rw [List.inj_on_of_nodup_map h hb.1 ha hab] at hb
    exact absurd hb.2 (by simp [hp])

end RemoteServices
