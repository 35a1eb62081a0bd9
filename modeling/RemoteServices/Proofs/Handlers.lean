import RemoteServices.Proofs.ExportMatching
import RemoteServices.Proofs.Finality

/-!
# Handlers of calls

A call names a service and an interface.  It goes to the export of just these or, where there is
none, to the oldest export of the service.  `Registry.Answers` tells this export without a search,
and the search finds it because no pair is exported twice and the exports stand in the order in
which they came (`Registry.Reachable.handler_answers`).
-/
namespace RemoteServices

variable {O : Objects}

namespace Registry

/-- The export that a call goes to: that of the interface, or, where the service has none, its
oldest. -/
structure Answers (r : Registry O) (serviceId : ServiceId) (interface : String) (e : Export O) :
    Prop where
  live : e ∈ r.exports
  service : e.serviceId = serviceId
  chosen : e.interface = interface ∨
    ∀ f ∈ r.exports, f.serviceId = serviceId → f.interface ≠ interface ∧ e.exportId ≤ f.exportId

variable {r : Registry O} {serviceId : ServiceId} {interface : String}

theorem answers_self {e : Export O} (he : e ∈ r.exports) : r.Answers e.serviceId e.interface e :=
  ⟨he, rfl, .inl rfl⟩

theorem Answers.unique (hmatched : r.Matched) {e f : Export O}
    (he : r.Answers serviceId interface e) (hf : r.Answers serviceId interface f) : f = e := by
  rcases he.chosen with hexact | holdest
  · rcases hf.chosen with hexact' | holdest'
    · have hpair : f.pair = e.pair := Prod.ext (hf.service.trans he.service.symm)
        (hexact'.trans hexact.symm)
      exact List.inj_on_of_nodup_map hmatched.pairs hf.live he.live hpair
    · exact absurd hexact (holdest' e he.live he.service).1
  · rcases hf.chosen with hexact' | holdest'
    · exact absurd hexact' (holdest f hf.live hf.service).1
    · have hnumber : f.exportId = e.exportId :=
        Nat.le_antisymm (holdest' e he.live he.service).2 (holdest f hf.live hf.service).2
      exact List.inj_on_of_nodup_map hmatched.nodup hf.live he.live hnumber

/-- The search ends at an export that answers, as soon as anything is exported of the service. -/
theorem exists_answers (hnumbered : r.Numbered) (hlive : ∃ e ∈ r.exports, e.serviceId = serviceId)
    (interface : String) :
    ∃ e, r.Answers serviceId interface e ∧ r.findHandler serviceId interface = some e.handler := by
  have hmem (e : Export O) : e ∈ r.exports.filter (·.serviceId == serviceId) ↔ e ∈ r.exports ∧
      e.serviceId = serviceId := by
    rw [List.mem_filter, beq_iff_eq]
  have hascending :=
    hnumbered.ascending.sublist (List.filter_sublist (p := (·.serviceId == serviceId)))
  rw [findHandler]
  cases hcandidates : r.exports.filter (·.serviceId == serviceId) with
  | nil =>
    obtain ⟨e, he⟩ := hlive
    rw [← hmem, hcandidates] at he
    cases he
  | cons first others =>
    rw [hcandidates] at hascending hmem
    dsimp only
    cases hfind : (first :: others).find? (·.interface == interface) with
    | some e =>
      obtain ⟨he, hid⟩ := (hmem e).mp (List.mem_of_find?_eq_some hfind)
      exact ⟨e, ⟨he, hid, .inl (beq_iff_eq.mp (List.find?_some hfind :))⟩, rfl⟩
    | none =>
      obtain ⟨hfirst, hid⟩ := (hmem first).mp List.mem_cons_self
      refine ⟨first, ⟨hfirst, hid, .inr fun f hf hfid => ⟨?_, ?_⟩⟩, rfl⟩
      · simpa using List.find?_eq_none.mp hfind f ((hmem f).mpr ⟨hf, hfid⟩)
      · rcases List.mem_cons.mp ((hmem f).mpr ⟨hf, hfid⟩) with rfl | hf
        · exact Nat.le_refl _
        · exact Nat.le_of_lt (List.rel_of_pairwise_cons hascending hf)

theorem findHandler_of_answers (hmatched : r.Matched) {e : Export O}
    (he : r.Answers serviceId interface e) :
    r.findHandler serviceId interface = some e.handler := by
  obtain ⟨f, hf, hfind⟩ := exists_answers hmatched.toNumbered ⟨e, he.live, he.service⟩ interface
  rw [hfind, hf.unique hmatched he]

/-- In every reachable registry a call of a service goes to one export, if anything is exported of
the service, else to none.  It is the export of the interface, so that each live export is reached
under its own name, or else the oldest one. -/
theorem Reachable.handler_answers (h : r.Reachable) :
    (∀ serviceId interface, (∃ e ∈ r.exports, e.serviceId = serviceId) →
      ∃ e, r.Answers serviceId interface e ∧ (∀ f, r.Answers serviceId interface f → f = e) ∧
        r.findHandler serviceId interface = some e.handler) ∧
    (∀ e ∈ r.exports, r.findHandler e.serviceId e.interface = some e.handler) ∧
    ∀ serviceId interface, r.findHandler serviceId interface = none ↔
      ∀ e ∈ r.exports, e.serviceId ≠ serviceId := by
  have hm := h.matched
  refine ⟨fun serviceId interface hlive => ?_, fun e he =>
    findHandler_of_answers hm (answers_self he), fun serviceId interface =>
      ⟨fun hnone e he hid => ?_, fun hgone => findHandler_eq_none hgone interface⟩⟩
  · obtain ⟨e, he, hfind⟩ := exists_answers hm.toNumbered hlive interface
    exact ⟨e, he, fun f hf => he.unique hm hf, hfind⟩
  · obtain ⟨f, -, hfind⟩ := exists_answers hm.toNumbered ⟨e, he, hid⟩ interface
    rw [hnone] at hfind
    cases hfind

/-- The factory of the older of two exports is replaced, so the other one is now the oldest. -/
theorem Reachable.handler_answers_replaced :
    let service : Properties :=
      .ofList [(Key.serviceId, "7"), (Key.objectClass, "A, B"), (Key.exportedInterfaces, "*")]
    let env : Environment ⟨Unit, String, Unit⟩ := {
      configurationType := "plain"
      freshId := fun j => .ofList (List.replicate j.length 'i')
      connection := fun _ _ _ => .ok ∅
      wrap := fun _ f _ d => .ok (f.tag ++ " " ++ d.interface)
      proxy := fun _ _ _ => .ok () }
    let r := ((Session.ofRegistry (.empty "here" false)).run env
      [.addExportFactory ⟨"f", "A"⟩ ∅, .addExportFactory ⟨"g", "B"⟩ ∅,
        .addService () service, .reconcile,
        .addExportFactory ⟨"h", "A"⟩ ∅, .reconcile]).registry
    r.Reachable ∧ r.exports.map (fun e => (e.exportId, e.interface)) = [(2, "B"), (3, "A")] ∧
      r.findHandler 7 "A" = some "h A" ∧ r.findHandler 7 "C" = some "g B" ∧
      r.findHandler 8 "A" = none ∧
      ∃ e, r.Answers 7 "C" e ∧ r.findHandler 7 "C" = some e.handler := by
  intro service env r
  have hr : r.Reachable := (Registry.Reachable.empty "here" false).run env (s := .ofRegistry _) _
  obtain ⟨hanswers, -, hnone⟩ := hr.handler_answers
  have hlive : ∃ e ∈ r.exports, e.serviceId = 7 := by
    have hany : r.exports.any (·.serviceId == 7) := by decide +kernel
    simpa using hany
  obtain ⟨e, he, -, hfind⟩ := hanswers 7 "C" hlive
  exact ⟨hr, by decide +kernel, by decide +kernel, by decide +kernel,
    (hnone 8 "A").mpr (by decide +kernel), e, he, hfind⟩

end Registry

end RemoteServices
