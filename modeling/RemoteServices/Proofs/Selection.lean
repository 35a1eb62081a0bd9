import RemoteServices.Proofs.Listing
import RemoteServices.Proofs.Publication

/-!
# Which interfaces are exported

A service advertises interfaces and asks for some or for all of them.  What is selected, and whether
anything is, is told by the two lists: `selects_requested`.
-/
namespace RemoteServices

namespace Properties

/-- All that is advertised is asked for.  The sign for it is the whole value; as an item among
others it is a name like any other. -/
def AsksForAll (p : Properties) : Prop :=
  (p.get? Key.exportedInterfaces).map Text.trim = some Key.everything

/-- Nothing is advertised, or nothing of it is asked for. -/
def SelectsNothing (p : Properties) : Prop :=
  p.list Key.objectClass = [] ∨ ¬ p.AsksForAll ∧ ∀ name ∈ p.list Key.exportedInterfaces,
    name ∉ p.list Key.objectClass

/-- The names are those of the advertised interfaces that are asked for, as often and in the order
in which they are advertised. -/
structure Selects (p : Properties) (names : List String) : Prop where
  nonempty : names ≠ []
  order : names.Sublist (p.list Key.objectClass)
  all : p.AsksForAll → names = p.list Key.objectClass
  requested : ¬ p.AsksForAll → ∀ name,
    names.count name = if name ∈ p.list Key.exportedInterfaces then
      (p.list Key.objectClass).count name else 0
  items : ∀ name ∈ names, Text.IsItem name

end Properties

variable {p : Properties}

theorem selectsNothing_of_error {fault : RemoteError} (h : selectInterfaces p = .error fault) :
    p.SelectsNothing := by
  rw [selectInterfaces] at h
  dsimp only at h
  split at h
  · rename_i hempty
    exact .inl (by simpa using hempty)
  · split at h
    · cases h
    · rename_i hall
      split at h
      · rename_i hempty
        refine .inr ⟨hall, fun name hrequested hadvertised => ?_⟩
        rw [List.isEmpty_iff, List.filter_eq_nil_iff] at hempty
        exact hempty name hadvertised (by simpa using hrequested)
      · cases h

theorem selects_of_ok {names : List String} (h : selectInterfaces p = .ok names) :
    p.Selects names := by
  have hnonempty := ne_nil_of_selectInterfaces h
  have horder := sublist_of_selectInterfaces h
  have hitems : ∀ name ∈ names, Text.IsItem name :=
    fun name hname => isItem_of_selectInterfaces h hname
  rw [selectInterfaces] at h
  dsimp only at h
  split at h
  · cases h
  · split at h
    · rename_i hall
      cases h
      exact ⟨hnonempty, horder, fun _ => rfl, fun hnot => absurd hall hnot, hitems⟩
    · rename_i hall
      split at h
      · cases h
      · cases h
        refine ⟨hnonempty, horder, fun h => absurd h hall, fun _ name => ?_, hitems⟩
        split
        · rename_i hrequested
          exact List.count_filter (by simpa using hrequested)
        · rename_i hrequested
          rw [List.count_eq_zero, List.mem_filter]
          exact fun hmem => hrequested (by simpa using hmem.2)

theorem Properties.Selects.not_selectsNothing {names : List String} (h : p.Selects names) :
    ¬ p.SelectsNothing := by
  obtain ⟨name, hname⟩ := List.exists_mem_of_ne_nil names h.nonempty
  have hadvertised := h.order.subset hname
  rintro (hempty | ⟨hall, hnone⟩)
  · rw [hempty] at hadvertised
    cases hadvertised
  · have hcount := h.requested hall name
    split at hcount
    · rename_i hrequested
      exact hnone name hrequested hadvertised
    · exact List.count_eq_zero.mp hcount hname

/-- Interfaces cannot be selected just when nothing is there to select; otherwise just those are
that are asked for.  The lists are read as they are meant, with white space around items and with
fields that have none. -/
theorem selects_requested :
    (∀ p : Properties,
      ((∃ reason, selectInterfaces p = .error (.illegalArgument reason)) ↔ p.SelectsNothing) ∧
      (¬ p.SelectsNothing → ∃ names, selectInterfaces p = .ok names ∧ p.Selects names)) ∧
    ∀ (p : Properties) (key : String) (fields names : List String), Text.Listing fields names →
      p.get? key = some (",".intercalate fields) → p.list key = names := by
  refine ⟨fun p => ?_, fun p key fields names h hvalue => ?_⟩
  · cases hselect : selectInterfaces p with
    | error fault =>
      obtain ⟨reason, rfl⟩ := illegalArgument_of_selectInterfaces hselect
      have hnothing := selectsNothing_of_error hselect
      exact ⟨iff_of_true ⟨reason, rfl⟩ hnothing, fun hnot => absurd hnothing hnot⟩
    | ok names =>
      have hselects := selects_of_ok hselect
      exact ⟨iff_of_false (by simp) hselects.not_selectsNothing, fun _ => ⟨names, rfl, hselects⟩⟩
  · rw [Properties.list, hvalue]
    exact h.commaItems_eq

/-- An asterisk among other items asks for an interface of this name, and for it only. -/
theorem selects_requested_starred :
    let fields := ["\u2003A", "", "* ", "B", " \t", "A"]
    let names := ["A", "*", "B", "A"]
    let p : Properties :=
      .ofList [(Key.objectClass, ",".intercalate fields), (Key.exportedInterfaces, "*, A ,C")]
    Text.Listing fields names ∧ p.list Key.objectClass = names ∧ ¬ p.SelectsNothing ∧
      selectInterfaces p = .ok ["A", "*", "A"] ∧ p.Selects ["A", "*", "A"] := by
  intro fields names p
  have hA : Text.IsItem "A" := ⟨by decide, by decide, by decide +kernel⟩
  have hB : Text.IsItem "B" := ⟨by decide, by decide, by decide +kernel⟩
  have hstar : Text.IsItem "*" := ⟨by decide, by decide, by decide +kernel⟩
  have hblank (text : String) (h : text.toList.all Text.isBlank) : ∀ c ∈ text.toList,
      Text.isBlank c := List.all_eq_true.mp h
  have hnone := hblank "" rfl
  have hlisting : Text.Listing fields names :=
    @Text.Listing.item "\u2003" "A" "" _ _ (hblank _ (by decide +kernel)) hA hnone <|
      .blank hnone <|
    @Text.Listing.item "" "*" " " _ _ hnone hstar (hblank _ (by decide +kernel)) <|
    @Text.Listing.item "" "B" "" _ _ hnone hB hnone <| .blank (hblank " \t" (by decide +kernel)) <|
    @Text.Listing.item "" "A" "" _ _ hnone hA hnone .nil
  have hlist : p.list Key.objectClass = names :=
    selects_requested.2 p _ _ _ hlisting (by decide +kernel)
  have hselect : selectInterfaces p = .ok ["A", "*", "A"] := by decide +kernel
  have hnothing : ¬ p.SelectsNothing := by
    rw [← (selects_requested.1 p).1, hselect]
    simp
  obtain ⟨names', hnames', hselects⟩ := (selects_requested.1 p).2 hnothing
  obtain rfl := Except.ok.inj (hselect.symm.trans hnames')
  exact ⟨hlisting, hlist, hnothing, hselect, hselects⟩

end RemoteServices
