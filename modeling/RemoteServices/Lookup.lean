/-!
# Looking up keys

A list of pairs answers a key with the value of the first pair that has it.
-/
namespace RemoteServices

variable {K V : Type} [DecidableEq K]

theorem lookup_cons_ite (e : K × V) (es : List (K × V)) (k : K) :
    (e :: es).lookup k = if k = e.1 then some e.2 else es.lookup k := by
  obtain ⟨key, value⟩ := e
  rw [List.lookup_cons]
  by_cases h : k = key
  · simp [h]
  · have : (k == key) = false := by simpa using h
    simp [h, this]

theorem lookup_filter_key (keep : K → Bool) (es : List (K × V)) (k : K) :
    (es.filter fun e => keep e.1).lookup k = if keep k then es.lookup k else none := by
  induction es with
  | nil => simp
  | cons e es ih =>
    by_cases he : keep e.1
    · rw [List.filter_cons_of_pos (by simpa using he), lookup_cons_ite, lookup_cons_ite, ih]
      by_cases hk : k = e.1
      · simp [hk, he]
      · simp [hk]
    · rw [List.filter_cons_of_neg (by simpa using he), lookup_cons_ite, ih]
      by_cases hk : k = e.1
      · simp [hk, he]
      · simp [hk]

end RemoteServices
