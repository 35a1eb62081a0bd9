import RemoteServices.Text.Blank

/-!
# Pieces between separators

A text is cut at every occurrence of a separator.  `Text.mem_pieces_iff` says which parts of it are
pieces, and `Text.pieces_append` that texts joined by a separator are cut there again.
-/
namespace RemoteServices.Text

/-- A part of a text without separators, between two of them or an end of the text. -/
def IsPiece (sep : Char) (p cs : List Char) : Prop :=
  sep ∉ p ∧ ∃ before after, cs = before ++ (p ++ after) ∧ (∀ c ∈ before.getLast?, c = sep) ∧
    ∀ c ∈ after.head?, c = sep

variable {sep : Char}

theorem pieces_eq_singleton {cs : List Char} (h : sep ∉ cs) : pieces sep cs = [cs] := by
  induction cs with
  | nil => rfl
  | cons c cs ih =>
    obtain ⟨hc, hcs⟩ := List.ne_and_not_mem_of_not_mem_cons h
    rw [pieces, if_neg (Ne.symm hc), ih hcs]

theorem pieces_append (cs ds : List Char) :
    pieces sep (cs ++ sep :: ds) = pieces sep cs ++ pieces sep ds := by
  induction cs with
  | nil => simp [pieces]
  | cons c cs ih =>
    rw [List.cons_append, pieces, pieces, ih]
    split
    · rfl
    · obtain ⟨p, ps, hps⟩ := List.exists_cons_of_ne_nil (pieces_ne_nil sep cs)
      rw [hps]
      rfl

theorem pieces_append_of_notMem {p : List Char} (h : sep ∉ p) (cs : List Char) :
    pieces sep (p ++ sep :: cs) = p :: pieces sep cs := by
  rw [pieces_append, pieces_eq_singleton h, List.singleton_append]

theorem isPiece_of_mem_pieces {cs p : List Char} (h : p ∈ pieces sep cs) : IsPiece sep p cs := by
  by_cases hsep : sep ∈ cs
  · obtain ⟨first, rest, hcs, hfirst⟩ := List.eq_append_cons_of_mem hsep
    rw [hcs, pieces_append_of_notMem hfirst] at h
    rcases List.mem_cons.mp h with rfl | h
    · exact ⟨hfirst, [], sep :: rest, hcs, by simp, by simp⟩
    · obtain ⟨hp, before, after, hrest, hbefore, hafter⟩ := isPiece_of_mem_pieces h
      refine ⟨hp, first ++ sep :: before, after, by simp [hcs, hrest], fun c hc => ?_, hafter⟩
      cases before with
      | nil => simpa using hc.symm
      | cons b before => exact hbefore c (by simpa using hc)
  · rw [pieces_eq_singleton hsep, List.mem_singleton] at h
    subst h
    exact ⟨hsep, [], [], by simp, by simp, by simp⟩
termination_by cs.length
decreasing_by
  rw [hcs, List.length_append, List.length_cons]
  omega

/-- The pieces of a text are its parts between separators. -/
theorem mem_pieces_iff {cs p : List Char} : p ∈ pieces sep cs ↔ IsPiece sep p cs := by
  refine ⟨isPiece_of_mem_pieces, ?_⟩
  rintro ⟨hp, before, after, rfl, hbefore, hafter⟩
  have hrest : p ∈ pieces sep (p ++ after) := by
    cases after with
    | nil => simp [pieces_eq_singleton hp]
    | cons c after =>
      obtain rfl : c = sep := hafter c rfl
      rw [pieces_append_of_notMem hp]
      exact List.mem_cons_self
  rcases List.eq_nil_or_concat before with rfl | ⟨before, c, rfl⟩
  · exact hrest
  · obtain rfl : c = sep := hbefore c (by simp)
    rw [List.concat_eq_append, List.append_assoc, List.singleton_append, pieces_append]
    exact List.mem_append_right _ hrest

theorem not_mem_of_mem_pieces {cs p : List Char} (h : p ∈ pieces sep cs) : sep ∉ p :=
  (mem_pieces_iff.mp h).1

end RemoteServices.Text
