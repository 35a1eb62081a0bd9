import RemoteServices.Text.Blank
import Mathlib.Data.List.DropRight

/-!
# Trimmed texts

What is left of a text without the white space at its ends, and when nothing is taken away.
-/
namespace RemoteServices.Text

theorem trimmed_eq_rdropWhile (cs : List Char) :
    trimmed cs = (cs.dropWhile isBlank).rdropWhile isBlank :=
  rfl

theorem trimmed_dropWhile (cs : List Char) : trimmed (cs.dropWhile isBlank) = trimmed cs := by
  rw [trimmed_eq_rdropWhile, List.dropWhile_idempotent, trimmed_eq_rdropWhile]

theorem mem_of_mem_trimmed {cs : List Char} {c : Char} (h : c ∈ trimmed cs) : c ∈ cs :=
  (List.dropWhile_sublist _).subset ((List.rdropWhile_prefix _ _).subset h)

theorem trimmed_eq_nil_iff {cs : List Char} : trimmed cs = [] ↔ ∀ c ∈ cs, isBlank c := by
  rw [trimmed_eq_rdropWhile, List.rdropWhile_eq_nil_iff]
  constructor
  · intro h c hc
    rw [← List.takeWhile_append_dropWhile (p := isBlank) (l := cs), List.mem_append] at hc
    exact hc.elim List.mem_takeWhile_imp (h c)
  · exact fun h c hc => h c ((List.dropWhile_sublist _).subset hc)

theorem head?_trimmed {c : Char} (hc : ¬ isBlank c) (cs : List Char) :
    (trimmed (c :: cs)).head? = some c := by
  rw [trimmed_eq_rdropWhile, List.dropWhile_cons_of_neg hc]
  have hne : (c :: cs).rdropWhile isBlank ≠ [] := by
    rw [Ne, List.rdropWhile_eq_nil_iff]
    exact fun h => hc (h c List.mem_cons_self)
  obtain ⟨d, ds, hds⟩ := List.exists_cons_of_ne_nil hne
  have hprefix := List.rdropWhile_prefix isBlank (c :: cs)
  rw [hds, List.cons_prefix_cons] at hprefix
  rw [hds, hprefix.1]
  rfl

theorem not_isBlank_of_mem_head? {cs : List Char} {c : Char}
    (h : c ∈ (cs.dropWhile isBlank).head?) : ¬ isBlank c := by
  have hnot := List.head?_dropWhile_not isBlank cs
  rw [Option.mem_def.mp h] at hnot
  simpa using hnot

theorem dropWhile_eq_self_iff {cs : List Char} :
    cs.dropWhile isBlank = cs ↔ ∀ c ∈ cs.head?, ¬ isBlank c := by
  constructor
  · intro h c hc
    rw [← h] at hc
    exact not_isBlank_of_mem_head? hc
  · intro h
    cases cs with
    | nil => rfl
    | cons c cs => exact List.dropWhile_cons_of_neg (h c rfl)

theorem rdropWhile_eq_self_iff {cs : List Char} :
    cs.rdropWhile isBlank = cs ↔ ∀ c ∈ cs.getLast?, ¬ isBlank c := by
  rw [List.rdropWhile_eq_self_iff]
  constructor
  · intro h c hc
    obtain ⟨hne, rfl⟩ := List.mem_getLast?_eq_getLast hc
    exact h hne
  · exact fun h hne => h _ (List.getLast?_eq_some_getLast hne)

theorem trimmed_eq_self_iff {cs : List Char} :
    trimmed cs = cs ↔ (∀ c ∈ cs.head?, ¬ isBlank c) ∧ ∀ c ∈ cs.getLast?, ¬ isBlank c := by
  rw [← dropWhile_eq_self_iff, ← rdropWhile_eq_self_iff, trimmed_eq_rdropWhile]
  constructor
  · intro h
    have hlen := (List.rdropWhile_prefix isBlank (cs.dropWhile isBlank)).length_le
    rw [h] at hlen
    have hleft := (List.dropWhile_sublist isBlank (l := cs)).eq_of_length_le hlen
    exact ⟨hleft, by rwa [hleft] at h⟩
  · rintro ⟨hleft, hright⟩
    rw [hleft, hright]

theorem trimmed_trimmed (cs : List Char) : trimmed (trimmed cs) = trimmed cs := by
  refine trimmed_eq_self_iff.mpr ⟨fun c hc => ?_, ?_⟩
  · rw [← trimmed_dropWhile] at hc
    cases hcs : cs.dropWhile isBlank with
    | nil =>
      rw [hcs] at hc
      cases hc
    | cons d ds =>
      have hhead : d ∈ (cs.dropWhile isBlank).head? := by
        rw [hcs]
        rfl
      have hd := not_isBlank_of_mem_head? hhead
      rw [hcs, head?_trimmed hd] at hc
      cases hc
      exact hd
  · rw [← rdropWhile_eq_self_iff, trimmed_eq_rdropWhile, List.rdropWhile_idempotent]

end RemoteServices.Text
