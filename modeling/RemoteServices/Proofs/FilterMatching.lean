import RemoteServices.Proofs.FilterText
import RemoteServices.Proofs.Pieces

/-!
# What filters mean

A pattern means that a value can be made of its chunks by putting some text between each two
(`Filter.Fits`).  Matching takes each chunk where it comes first and never goes back; this loses
nothing, since what follows the first occurrence ends with whatever follows a later one.  So a
filter is answered by its meaning, `Filter.matches_satisfied`.
-/
namespace RemoteServices

namespace Text

theorem eq_append_of_afterFirst {part cs rest : List Char} (h : afterFirst part cs = some rest) :
    ∃ gap, cs = gap ++ (part ++ rest) := by
  induction cs with
  | nil =>
    rw [afterFirst] at h
    split at h
    · rename_i hpart
      cases h
      exact ⟨[], by simpa using hpart⟩
    · cases h
  | cons c cs ih =>
    rw [afterFirst] at h
    split at h
    · rename_i hprefix
      obtain ⟨rest', heq⟩ := List.isPrefixOf_iff_prefix.mp hprefix
      rw [← heq, List.drop_left, Option.some.injEq] at h
      exact ⟨[], by rw [← heq, h, List.nil_append]⟩
    · obtain ⟨gap, rfl⟩ := ih h
      exact ⟨c :: gap, rfl⟩

theorem afterFirst_of_append (gap part rest : List Char) :
    ∃ rest', afterFirst part (gap ++ (part ++ rest)) = some rest' ∧ rest <:+ rest' := by
  induction gap with
  | nil =>
    cases hcs : part ++ rest with
    | nil =>
      obtain ⟨rfl, rfl⟩ := List.append_eq_nil_iff.mp hcs
      exact ⟨[], rfl, List.suffix_rfl⟩
    | cons c cs =>
      have hprefix : part.isPrefixOf (c :: cs) := List.isPrefixOf_iff_prefix.mpr ⟨rest, hcs⟩
      refine ⟨rest, ?_, List.suffix_rfl⟩
      rw [List.nil_append, afterFirst, if_pos hprefix, ← hcs, List.drop_left]
  | cons g gap ih =>
    rw [List.cons_append, afterFirst]
    split
    · have hrest : rest <:+ g :: (gap ++ (part ++ rest)) := ⟨g :: (gap ++ part), by simp⟩
      refine ⟨_, rfl, List.suffix_of_suffix_length_le hrest (List.drop_suffix _ _) ?_⟩
      simp only [List.length_drop, List.length_cons, List.length_append]
      omega
    · exact ih

end Text

namespace Filter

/-- The text is the chunks in this order, each after some text: `x₁ c₁ x₂ c₂ … xₙ cₙ`. -/
def Spread (chunks : List (List Char)) (text : List Char) : Prop :=
  ∃ gaps : List (List Char), gaps.length = chunks.length ∧
    text = (List.zipWith (· ++ ·) gaps chunks).flatten

/-- The value is the chunks in this order, with some text between each two: `c₀ x₁ c₁ … xₙ cₙ`. -/
def Fits : List (List Char) → List Char → Prop
  | [], _ => False
  | first :: others, value => ∃ rest, value = first ++ rest ∧ Spread others rest

theorem spread_nil {text : List Char} : Spread [] text ↔ text = [] := by
  constructor
  · rintro ⟨gaps, hlength, rfl⟩
    rw [List.length_nil, List.length_eq_zero_iff] at hlength
    rw [hlength]
    rfl
  · rintro rfl
    exact ⟨[], rfl, rfl⟩

theorem spread_cons {chunk : List Char} {chunks : List (List Char)} {text : List Char} :
    Spread (chunk :: chunks) text ↔ ∃ gap rest, text = gap ++ (chunk ++ rest) ∧
      Spread chunks rest := by
  constructor
  · rintro ⟨gaps, hlength, rfl⟩
    obtain ⟨gap, gaps, rfl⟩ := List.exists_cons_of_length_eq_add_one hlength
    exact ⟨gap, _, by simp, gaps, by simpa using hlength, rfl⟩
  · rintro ⟨gap, _, rfl, gaps, hlength, rfl⟩
    exact ⟨gap :: gaps, by simp [hlength], by simp⟩

theorem Spread.append_left {chunks : List (List Char)} {text : List Char} (h : Spread chunks text)
    (hne : chunks ≠ []) (more : List Char) : Spread chunks (more ++ text) := by
  obtain ⟨chunk, chunks, rfl⟩ := List.exists_cons_of_ne_nil hne
  obtain ⟨gap, rest, rfl, hrest⟩ := spread_cons.mp h
  exact spread_cons.mpr ⟨more ++ gap, rest, by simp, hrest⟩

/-- Nothing is lost by taking each chunk where it comes first. -/
theorem tailMatches_iff {chunks : List (List Char)} {text : List Char} :
    tailMatches chunks text ↔ Spread chunks text := by
  induction chunks generalizing text with
  | nil => rw [tailMatches, spread_nil, List.isEmpty_iff]
  | cons chunk chunks ih =>
    cases chunks with
    | nil =>
      rw [tailMatches, List.isSuffixOf_iff_suffix, spread_cons]
      constructor
      · rintro ⟨gap, rfl⟩
        exact ⟨gap, [], by simp, spread_nil.mpr rfl⟩
      · rintro ⟨gap, rest, rfl, hrest⟩
        rw [spread_nil.mp hrest, List.append_nil]
        exact ⟨gap, rfl⟩
    | cons next chunks =>
      rw [tailMatches]
      swap
      · exact List.cons_ne_nil next chunks
      constructor
      · intro h
        split at h
        · rename_i rest hrest
          obtain ⟨gap, rfl⟩ := Text.eq_append_of_afterFirst hrest
          exact spread_cons.mpr ⟨gap, rest, rfl, ih.mp h⟩
        · cases h
      · intro h
        obtain ⟨gap, rest, rfl, hrest⟩ := spread_cons.mp h
        obtain ⟨rest', hfirst, more, rfl⟩ := Text.afterFirst_of_append gap chunk rest
        rw [hfirst]
        exact ih.mpr (hrest.append_left (List.cons_ne_nil _ _) more)

theorem chunksMatch_iff {first : List Char} {others : List (List Char)} {value : List Char} :
    chunksMatch first others value ↔ Fits (first :: others) value := by
  rw [chunksMatch, Bool.and_eq_true, List.isPrefixOf_iff_prefix, tailMatches_iff]
  constructor
  · rintro ⟨⟨rest, rfl⟩, h⟩
    rw [List.drop_left] at h
    exact ⟨rest, rfl, h⟩
  · rintro ⟨rest, rfl, h⟩
    rw [List.drop_left]
    exact ⟨⟨rest, rfl⟩, h⟩

/-- The pattern fits the value or, where this has a comma, an item of it. -/
def FitsValue (chunks : List String) (value : String) : Prop :=
  Fits (chunks.map String.toList) value.toList ∨
    ',' ∈ value.toList ∧ ∃ item, Text.IsPiece ',' item value.toList ∧
    Fits (chunks.map String.toList) (Text.trimmed item)

theorem valueMatches?_eq {chunks : List String} (h : chunks ≠ []) (value : String) :
    ∃ holds, valueMatches? chunks value = some holds ∧ (holds = true ↔ FitsValue chunks value) := by
  obtain ⟨first, others, rfl⟩ := List.exists_cons_of_ne_nil h
  refine ⟨_, rfl, ?_⟩
  simp only [FitsValue, List.map_cons, Bool.or_eq_true, Bool.and_eq_true,
    List.contains_iff_mem, List.any_eq_true, chunksMatch_iff, Text.mem_pieces_iff]

/-- The map satisfies the filter. -/
def Satisfied (p : Properties) : Filter → Prop
  | .all parts => ∀ f, f ∈ parts → Satisfied p f
  | .any parts => ∃ f, ∃ _ : f ∈ parts, Satisfied p f
  | .negation part => ¬ Satisfied p part
  | .present key => ∃ value, p.get? key = some value
  | .equal key chunks => ∃ value, p.get? key = some value ∧ FitsValue chunks value

/-- Every pattern of the filter has a chunk. -/
def Chunked : Filter → Prop
  | .all parts => ∀ f, f ∈ parts → Chunked f
  | .any parts => ∀ f, f ∈ parts → Chunked f
  | .negation part => Chunked part
  | .present _ => True
  | .equal _ chunks => chunks ≠ []

mutual

theorem WellFormed.chunked {f : Filter} (h : f.WellFormed) : f.Chunked := by
  cases f with
  | all parts =>
    rw [Chunked]
    exact AllWellFormed.chunked h.2
  | any parts =>
    rw [Chunked]
    exact AllWellFormed.chunked h.2
  | negation part =>
    rw [Chunked]
    exact WellFormed.chunked (f := part) h
  | present key =>
    rw [Chunked]
    trivial
  | equal key chunks =>
    rw [Chunked]
    exact h.2.1

theorem AllWellFormed.chunked {fs : List Filter} (h : AllWellFormed fs) : ∀ f ∈ fs, Chunked f := by
  cases fs with
  | nil => exact fun f hf => nomatch hf
  | cons f fs => exact List.forall_mem_cons.mpr ⟨WellFormed.chunked h.1, AllWellFormed.chunked h.2⟩

end

mutual

/-- A filter whose patterns have chunks is answered, and by its meaning. -/
theorem holds?_eq (p : Properties) (f : Filter) (h : f.Chunked) :
    ∃ holds, holds? p f = some holds ∧ (holds = true ↔ Satisfied p f) := by
  cases f with
  | all parts =>
    rw [Chunked] at h
    rw [holds?, Satisfied]
    exact allHold?_eq p parts h
  | any parts =>
    rw [Chunked] at h
    obtain ⟨holds, heq, hiff⟩ := anyHolds?_eq p parts h
    rw [holds?, Satisfied]
    exact ⟨holds, heq, by simpa using hiff⟩
  | negation part =>
    rw [Chunked] at h
    obtain ⟨holds, heq, hiff⟩ := holds?_eq p part h
    rw [holds?, heq, Option.map_some, Satisfied, ← hiff]
    exact ⟨! holds, rfl, by simp⟩
  | present key =>
    rw [holds?, Satisfied, ← Option.isSome_iff_exists]
    exact ⟨p.contains key, rfl, Iff.rfl⟩
  | equal key chunks =>
    rw [Chunked] at h
    rw [holds?, Satisfied]
    cases p.get? key with
    | none => exact ⟨false, rfl, by simp⟩
    | some value =>
      obtain ⟨holds, heq, hiff⟩ := valueMatches?_eq h value
      exact ⟨holds, heq, by simp [hiff]⟩

theorem allHold?_eq (p : Properties) (fs : List Filter) (h : ∀ f ∈ fs, f.Chunked) :
    ∃ holds, allHold? p fs = some holds ∧ (holds = true ↔ ∀ f ∈ fs, Satisfied p f) := by
  cases fs with
  | nil => exact ⟨true, rfl, by simp⟩
  | cons f fs =>
    obtain ⟨hf, hfs⟩ := List.forall_mem_cons.mp h
    obtain ⟨holds, hfirst, hiff⟩ := holds?_eq p f hf
    rw [allHold?, hfirst, Option.bind_some, List.forall_mem_cons, ← hiff]
    cases holds with
    | false => exact ⟨false, rfl, by simp⟩
    | true =>
      obtain ⟨holds, hrest, hiff⟩ := allHold?_eq p fs hfs
      exact ⟨holds, hrest, by simp [hiff]⟩

theorem anyHolds?_eq (p : Properties) (fs : List Filter) (h : ∀ f ∈ fs, f.Chunked) :
    ∃ holds, anyHolds? p fs = some holds ∧ (holds = true ↔ ∃ f ∈ fs, Satisfied p f) := by
  cases fs with
  | nil => exact ⟨false, rfl, by simp⟩
  | cons f fs =>
    obtain ⟨hf, hfs⟩ := List.forall_mem_cons.mp h
    obtain ⟨holds, hfirst, hiff⟩ := holds?_eq p f hf
    rw [anyHolds?, hfirst, Option.bind_some, List.exists_mem_cons_iff, ← hiff]
    cases holds with
    | true => exact ⟨true, rfl, by simp⟩
    | false =>
      obtain ⟨holds, hrest, hiff⟩ := anyHolds?_eq p fs hfs
      exact ⟨holds, hrest, by simp [hiff]⟩

end

theorem matches_iff {f : Filter} (h : f.Chunked) (p : Properties) :
    f.matches p ↔ f.Satisfied p := by
  obtain ⟨holds, heq, hiff⟩ := holds?_eq p f h
  rw [«matches», heq, Option.getD_some, hiff]

/-- A filter whose patterns all have chunks is answered for every map, and yes just when the map
satisfies it.  Any filter that a text is read as is such a filter. -/
theorem matches_satisfied :
    (∀ f : Filter, f.Chunked → ∀ p : Properties,
      (holds? p f).isSome ∧ (f.matches p ↔ f.Satisfied p)) ∧
    ∀ (s : String) (f : Filter), parse s = .ok f → f.Chunked := by
  refine ⟨fun f hf p => ⟨?_, matches_iff hf p⟩, fun s f h => (parse_eq_ok.mp h).wellFormed.chunked⟩
  obtain ⟨holds, heq, -⟩ := holds?_eq p f hf
  rw [heq]
  rfl

/-- Chunks must not overlap: the first value starts and ends with `aba`, but is too short for both.
In the second one a single item is long enough. -/
theorem matches_satisfied_overlapping :
    let f : Filter := .negation (.equal "k" ["aba", "", "aba"])
    let p : Properties := .ofList [("k", "ababa")]
    let q : Properties := .ofList [("k", "ababa, aba aba ,a")]
    parse "!(k=aba**aba)" = .ok f ∧ f.Chunked ∧ (holds? p f).isSome ∧
      f.Satisfied p ∧ ¬ f.Satisfied q := by
  intro f p q
  have hparse : parse "!(k=aba**aba)" = .ok f := by cbv
  have hf := matches_satisfied.2 _ f hparse
  obtain ⟨hanswered, hp⟩ := matches_satisfied.1 f hf p
  obtain ⟨-, hq⟩ := matches_satisfied.1 f hf q
  have hmatches : f.matches p ∧ ¬ f.matches q := by decide +kernel
  exact ⟨hparse, hf, hanswered, hp.mp hmatches.1, fun h => hmatches.2 (hq.mpr h)⟩

end Filter

end RemoteServices
