import RemoteServices.Proofs.Description
import RemoteServices.Proofs.FilterMatching

/-!
# Lists in texts

The value of a property may list items: `Text.Listing` says what its fields between the commas list.
A list is read in two places, as the list of a property and by filters.  They read the same items,
except where a value has no comma: a filter then compares the value as it stands,
`Filter.matches_listed`.
-/
namespace RemoteServices

namespace Text

/-- The fields of a list and its items.  White space may stand around an item, and a field without
an item lists nothing. -/
inductive Listing : List String → List String → Prop
  | nil : Listing [] []
  | blank {field : String} {fields items : List String} (hfield : ∀ c ∈ field.toList, isBlank c)
    (h : Listing fields items) :
    Listing (field :: fields) items
  | item {before item after : String} {fields items : List String}
    (hbefore : ∀ c ∈ before.toList, isBlank c) (hitem : IsItem item)
    (hafter : ∀ c ∈ after.toList, isBlank c) (h : Listing fields items) :
    Listing ((before ++ item ++ after) :: fields) (item :: items)

theorem trimmed_padded {before cs after : List Char} (hbefore : ∀ c ∈ before, isBlank c)
    (hcs : trimmed cs = cs) (hafter : ∀ c ∈ after, isBlank c) :
    trimmed (before ++ (cs ++ after)) = cs := by
  rw [trimmed_eq_rdropWhile, List.dropWhile_append_of_pos hbefore]
  obtain ⟨hhead, hlast⟩ := trimmed_eq_self_iff.mp hcs
  cases cs with
  | nil =>
    rw [List.nil_append, List.dropWhile_eq_nil_iff.mpr hafter]
    rfl
  | cons c cs =>
    rw [List.cons_append, List.dropWhile_cons_of_neg (hhead c rfl), ← List.cons_append,
      List.rdropWhile, List.reverse_append, List.dropWhile_append_of_pos fun d hd =>
      hafter d (List.mem_reverse.mp hd)]
    exact rdropWhile_eq_self_iff.mpr hlast

theorem commaItems_append (s t : String) :
    commaItems (s ++ "," ++ t) = commaItems s ++ commaItems t := by
  have hlist : (s ++ "," ++ t).toList = s.toList ++ ',' :: t.toList := by simp
  simp only [commaItems, hlist, pieces_append, List.map_append, List.filter_append]

theorem commaItems_of_blank {s : String} (h : ∀ c ∈ s.toList, isBlank c) : commaItems s = [] := by
  have hcomma : ',' ∉ s.toList := fun hmem => absurd (h ',' hmem) (by decide)
  simp [commaItems, pieces_eq_singleton hcomma, trimmed_eq_nil_iff.mpr h]

theorem commaItems_padded {before item after : String} (hbefore : ∀ c ∈ before.toList, isBlank c)
    (hitem : IsItem item) (hafter : ∀ c ∈ after.toList, isBlank c) :
    commaItems (before ++ item ++ after) = [item] := by
  have hcomma : ',' ∉ (before ++ item ++ after).toList := by
    simp only [String.toList_append, List.mem_append]
    rintro ((hmem | hmem) | hmem)
    · exact absurd (hbefore ',' hmem) (by decide)
    · exact hitem.whole hmem
    · exact absurd (hafter ',' hmem) (by decide)
  have htrimmed : trimmed item.toList = item.toList := by
    rw [← String.ofList_inj, String.ofList_toList]
    exact hitem.unpadded
  have hpadded : trimmed (before ++ item ++ after).toList = item.toList := by
    rw [String.toList_append, String.toList_append, List.append_assoc]
    exact trimmed_padded hbefore htrimmed hafter
  rw [commaItems, pieces_eq_singleton hcomma, List.map_singleton, hpadded]
  simp [hitem.nonempty]

theorem Listing.commaItems_eq {fields items : List String} (h : Listing fields items) :
    commaItems (",".intercalate fields) = items := by
  have hcons (field : String) (fields : List String) :
      commaItems (",".intercalate (field :: fields)) = commaItems field ++ commaItems
        (",".intercalate fields) := by
    cases fields with
    | nil =>
      rw [String.intercalate_singleton, String.intercalate_nil, commaItems_of_blank (s := "")
        (by simp), List.append_nil]
    | cons next fields => rw [String.intercalate_cons_cons, commaItems_append]
  induction h with
  | nil => rfl
  | blank hfield _ ih => rw [hcons, commaItems_of_blank hfield, ih, List.nil_append]
  | item hbefore hitem hafter _ ih =>
    rw [hcons, commaItems_padded hbefore hitem hafter, ih, List.singleton_append]

theorem mem_commaItems_iff {s item : String} :
    item ∈ commaItems s ↔ item ≠ "" ∧ ∃ piece, IsPiece ',' piece s.toList ∧
      trimmed piece = item.toList := by
  simp only [commaItems, List.mem_map, List.mem_filter, Bool.not_eq_true',
    List.isEmpty_eq_false_iff]
  constructor
  · rintro ⟨_, ⟨⟨piece, hpiece, rfl⟩, hne⟩, rfl⟩
    refine ⟨fun hempty => hne ?_, piece, mem_pieces_iff.mp hpiece, String.toList_ofList.symm⟩
    rw [← String.toList_inj, String.toList_ofList] at hempty
    exact hempty
  · rintro ⟨hne, piece, hpiece, htrimmed⟩
    refine ⟨_, ⟨⟨piece, mem_pieces_iff.mpr hpiece, rfl⟩, ?_⟩, ?_⟩
    · rw [htrimmed]
      exact fun hempty => hne (String.toList_inj.mp hempty)
    · rw [htrimmed, String.ofList_toList]

end Text

theorem Properties.mem_list_iff {p : Properties} {key item : String} :
    item ∈ p.list key ↔ ∃ value, p.get? key = some value ∧ item ∈ Text.commaItems value := by
  rw [list]
  cases p.get? key with
  | none => simp
  | some value => simp

namespace Filter

theorem fits_singleton {chunk value : List Char} : Fits [chunk] value ↔ value = chunk := by
  simp [Fits, spread_nil]

theorem fitsValue_singleton {item value : String} :
    FitsValue [item] value ↔ value = item ∨
      ',' ∈ value.toList ∧ ∃ piece, Text.IsPiece ',' piece value.toList ∧
        Text.trimmed piece = item.toList := by
  rw [FitsValue, List.map_singleton, fits_singleton, String.toList_inj]
  simp only [fits_singleton]

/-- A value without a comma has no piece but itself. -/
theorem fitsValue_iff_mem_commaItems {item value : String} (hitem : Text.IsItem item) :
    FitsValue [item] value ↔ item ∈ Text.commaItems value ∧
    (',' ∈ value.toList ∨ Text.trim value = value) := by
  rw [fitsValue_singleton, Text.mem_commaItems_iff]
  by_cases hcomma : ',' ∈ value.toList
  · have hne : value ≠ item := fun h => hitem.whole (h ▸ hcomma)
    simp [hcomma, hne, hitem.nonempty]
  · have hpiece (piece : List Char) : Text.IsPiece ',' piece value.toList ↔
        piece = value.toList := by
      rw [← Text.mem_pieces_iff, Text.pieces_eq_singleton hcomma, List.mem_singleton]
    simp only [hcomma, false_and, or_false, false_or, hpiece, exists_eq_left, hitem.nonempty,
      ne_eq, not_false_eq_true, true_and]
    rw [← String.ofList_inj, String.ofList_toList, ← Text.trim]
    constructor
    · rintro rfl
      exact ⟨hitem.unpadded, hitem.unpadded⟩
    · rintro ⟨htrim, hvalue⟩
      rw [← hvalue, htrim]

theorem chunked_exactly (key item : String) : (exactly key item).Chunked := by
  rw [exactly, Chunked]
  exact List.cons_ne_nil _ _

/-- A filter for an item finds it just where it is listed, unless the value has no comma but has
white space at an end. -/
theorem matches_listed (p : Properties) (key : String) {item : String} (hitem : Text.IsItem item) :
    (exactly key item).matches p ↔
      item ∈ p.list key ∧ ∀ value, p.get? key = some value →
        ',' ∈ value.toList ∨ Text.trim value = value := by
  rw [matches_iff (chunked_exactly key item), exactly, Satisfied, Properties.mem_list_iff]
  cases p.get? key with
  | none => simp
  | some value => simp [fitsValue_iff_mem_commaItems hitem]

/-- Of two values that list the same item, only the one with a comma is found by it. -/
theorem matches_listed_spaced :
    let p : Properties := .ofList [("many", "B ,,\u00a0A"), ("one", "\u00a0A")]
    Text.IsItem "A" ∧ "A" ∈ p.list "many" ∧ (exactly "many" "A").matches p ∧
      "A" ∈ p.list "one" ∧ ¬ (exactly "one" "A").matches p := by
  intro p
  have hitem : Text.IsItem "A" := ⟨by decide, by decide, by decide +kernel⟩
  have hmany : p.get? "many" = some "B ,,\u00a0A" := by decide +kernel
  have hone : p.get? "one" = some "\u00a0A" := by decide +kernel
  have hlisted : "A" ∈ p.list "many" := by decide +kernel
  refine ⟨hitem, hlisted, (matches_listed p "many" hitem).mpr ⟨hlisted, fun value hvalue => ?_⟩,
    by decide +kernel, fun h => ?_⟩
  · obtain rfl := Option.some.inj (hmany.symm.trans hvalue)
    exact .inl (by decide)
  · have hvalue := ((matches_listed p "one" hitem).mp h).2 _ hone
    revert hvalue
    decide +kernel

/-- White space around a value without a comma keeps a filter from the item that it lists. -/
theorem not_matches_iff_listed :
    ¬ ∀ (p : Properties) (key item : String), Text.IsItem item →
      ((exactly key item).matches p ↔ item ∈ p.list key) := by
  intro h
  have hiff := h (.ofList [(Key.objectClass, " A")]) Key.objectClass "A"
    ⟨by decide, by decide, by decide +kernel⟩
  revert hiff
  decide +kernel

end Filter

end RemoteServices
