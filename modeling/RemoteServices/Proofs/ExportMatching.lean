import RemoteServices.Proofs.ExportPass
import RemoteServices.Proofs.Reachable
import RemoteServices.Proofs.Sides

/-!
# Exports match services and factories

Services, queue, factories and exports are four collections that change in different places.
`Registry.Matched` says how they fit together between two operations: no pair is exported twice,
whoever waits is tracked, whoever does not wait has all of its exports, and each export was made by
the factory that is bound under its interface.
-/
namespace RemoteServices

variable {O : Objects}

namespace Registry

/-- How the parts of the export side fit together. -/
structure Matched (r : Registry O) : Prop extends r.Numbered where
  pairs : (r.exports.map Export.pair).Nodup
  described : ∀ e ∈ r.exports, e.description.serviceId = e.serviceId
  queue_nodup : r.toBeExported.Nodup
  queue_tracked : ∀ id ∈ r.toBeExported, r.services.contains id
  settled : ∀ id, r.services.contains id → id ∉ r.toBeExported → r.FullyExported id
  bound : ∀ e ∈ r.exports, r.exportFactories.get? e.interface = some e.factory

theorem Matched.congr {r r' : Registry O} (h : r.Matched) (hside : r'.exportSide = r.exportSide) :
    r'.Matched := by
  simp only [exportSide, ExportSide.mk.injEq] at hside
  obtain ⟨-, hservices, hfactories, hexports, hqueue, hnext⟩ := hside
  refine ⟨⟨hexports ▸ h.ascending, hexports ▸ hnext ▸ h.below⟩, hexports ▸ h.pairs,
    hexports ▸ h.described, hqueue ▸ h.queue_nodup, hservices ▸ hqueue ▸ h.queue_tracked,
    fun id hid hnot => ?_, hexports ▸ hfactories ▸ h.bound⟩
  rw [hservices] at hid
  rw [hqueue] at hnot
  exact (h.settled id hid hnot).mono (by rw [hservices]) fun e he => hexports ▸ he

theorem matched_of_idle {r : Registry O} (hservices : r.services = ∅) (hexports : r.exports = [])
    (hqueue : r.toBeExported = []) : r.Matched where
  ascending := by simp [hexports]
  below := by simp [hexports]
  pairs := by simp [hexports]
  described := by simp [hexports]
  queue_nodup := by simp [hqueue]
  queue_tracked := by simp [hqueue]
  settled := by simp [hservices, Table.contains]
  bound := by simp [hexports]

theorem Matched.addService {r : Registry O} (h : r.Matched) (object : O.Service) (p : Properties) :
    (r.addService object p).Matched := by
  rw [Registry.addService]
  split
  · exact h
  · rename_i serviceId _
    split
    · exact h
    · rename_i huntracked
      have hnot : serviceId ∉ r.toBeExported := fun hq => huntracked (h.queue_tracked _ hq)
      refine ⟨⟨h.ascending, h.below⟩, h.pairs, h.described, ?_, ?_, ?_, h.bound⟩
      · rw [queueService, ← List.concat_eq_append]
        exact h.queue_nodup.concat hnot
      · intro id hid
        simp only [queueService, Table.contains, Table.get?_insert]
        split
        · rfl
        · rename_i hne
          rcases List.mem_append.mp hid with hid | hid
          · exact h.queue_tracked id hid
          · exact absurd (List.mem_singleton.mp hid) hne
      · intro id hid hqueue
        simp only [queueService, List.mem_append, List.mem_singleton, not_or] at hqueue
        have hsame : r.services.get? id = (r.services.insert serviceId ⟨object, p⟩).get? id := by
          rw [Table.get?_insert, if_neg hqueue.2]
        rw [queueService, Table.contains, ← hsame] at hid
        exact (h.settled id hid hqueue.1).mono hsame fun e he => he

theorem Matched.withoutExports {r : Registry O} (h : r.Matched) (p : Export O → Bool)
    {services : Table ServiceId (TrackedService O)} {factories : Table String Factory}
    {queue : List ServiceId} (hnodup : queue.Nodup) (htracked : ∀ id ∈ queue, services.contains id)
    (hsettled : ∀ id, services.contains id → id ∉ queue →
      id ∉ r.toBeExported ∧ services.get? id = r.services.get? id ∧
        ∀ e ∈ r.exports, e.serviceId = id → p e = false)
    (hbound : ∀ e ∈ r.exports, p e = false →
      factories.get? e.interface = r.exportFactories.get? e.interface) :
    ({ r.withoutExports p with
        services := services, exportFactories := factories, toBeExported := queue } :
        Registry O).Matched where
  ascending := h.ascending.sublist List.filter_sublist
  below e he := h.below e (List.mem_of_mem_filter he)
  pairs := h.pairs.sublist (List.filter_sublist.map _)
  described e he := h.described e (List.mem_of_mem_filter he)
  queue_nodup := hnodup
  queue_tracked := htracked
  settled := by
    intro id hid hqueue
    obtain ⟨hold, hservice, hkept⟩ := hsettled id hid hqueue
    have hfull := h.settled id (by rwa [Table.contains, ← hservice]) hold
    rw [FullyExported, selected_congr hservice]
    refine ⟨hfull.1, fun i hi => ?_⟩
    obtain ⟨e, he, hpair⟩ := List.mem_map.mp (hfull.2 i hi)
    have hp := hkept e he (congrArg Prod.fst hpair)
    exact hpair ▸ List.mem_map_of_mem (List.mem_filter.mpr ⟨he, by simp [hp]⟩)
  bound := by
    intro e he
    obtain ⟨he, hp⟩ := List.mem_filter.mp he
    exact (hbound e he (by simpa using hp)).trans (h.bound e he)

theorem Matched.bindExportFactory {r : Registry O} (h : r.Matched) {name : String}
    (hfree : r.exportFactories.get? name = none) (factory : Factory) :
    ({ r with exportFactories := r.exportFactories.insert name factory } : Registry O).Matched := by
  refine ⟨⟨h.ascending, h.below⟩, h.pairs, h.described, h.queue_nodup,
    h.queue_tracked, ?_, fun e he => ?_⟩
  · exact fun id hid hqueue => (h.settled id hid hqueue).mono rfl fun e he => he
  · have hbound := h.bound e he
    have hne : e.interface ≠ name := fun heq => by simp [heq, hfree] at hbound
    rw [Table.get?_insert, if_neg hne, hbound]

end Registry

namespace Session

open Registry

theorem matched_removeService {s : Session O} (h : s.registry.Matched) (p : Properties) :
    (s.removeService p).registry.Matched := by
  cases hp : p.int64? Key.serviceId with
  | none => rwa [removeService, hp]
  | some serviceId =>
    have hget (id : ServiceId) (hne : id ≠ serviceId) :
        (s.registry.services.erase serviceId).get? id = s.registry.services.get? id := by
      rw [Table.get?_erase, if_neg hne]
    rw [removeService_eq h.toNumbered hp]
    refine h.withoutExports (·.serviceId == serviceId) (h.queue_nodup.filter _) ?_ ?_
      fun _ _ _ => rfl
    · intro id hid
      obtain ⟨hid, hne⟩ := List.mem_filter.mp hid
      rw [Table.contains, hget id (by simpa using hne)]
      exact h.queue_tracked id hid
    · intro id hid hqueue
      have hne : id ≠ serviceId := by
        rintro rfl
        simp [Table.contains, Table.get?_erase] at hid
      refine ⟨fun hq => hqueue (List.mem_filter.mpr ⟨hq, by simpa using hne⟩), hget id hne, ?_⟩
      rintro e - rfl
      simpa using hne

theorem matched_detachExportFactory {s : Session O} (h : s.registry.Matched) {name : String}
    {factory : Factory} (hbound : s.registry.exportFactories.get? name = some factory) :
    (s.detachExportFactory name factory).registry.Matched ∧
      (s.detachExportFactory name factory).registry.exportFactories.get? name = none := by
  obtain ⟨q, heq, hmem, hnodup⟩ := detachExportFactory_eq h.toNumbered name factory
  rw [heq]
  refine ⟨?_, by simp [Table.get?_erase]⟩
  refine h.withoutExports (·.factory == factory) (hnodup h.queue_nodup) ?_ ?_ ?_
  · intro id hid
    rcases (hmem id).mp hid with hid | hid
    · exact h.queue_tracked id hid
    · exact hid.2
  · intro id hid hqueue
    rw [hmem, not_or] at hqueue
    refine ⟨hqueue.1, rfl, fun e he hserviceId => ?_⟩
    have hno : e.factory ≠ factory := fun hf => hqueue.2 ⟨⟨e, he, hf, hserviceId⟩, hid⟩
    simpa using hno
  · intro e he hp
    have hne : e.interface ≠ name := by
      rintro rfl
      have hfactory : e.factory = factory := Option.some.inj ((h.bound e he).symm.trans hbound)
      simp [hfactory] at hp
    rw [Table.get?_erase, if_neg hne]

theorem matched_addExportFactory {s : Session O} (h : s.registry.Matched) (factory : Factory)
    (p : Properties) : (s.addExportFactory factory p).registry.Matched := by
  rw [addExportFactory]
  dsimp only
  split
  · rename_i hfree
    exact h.bindExportFactory hfree factory
  · rename_i bound hbound
    split
    · exact h
    · obtain ⟨hmatched, hfree⟩ := matched_detachExportFactory h hbound
      exact hmatched.bindExportFactory hfree factory

theorem matched_removeExportFactory {s : Session O} (h : s.registry.Matched) (factory : Factory)
    (p : Properties) : (s.removeExportFactory factory p).registry.Matched := by
  rw [removeExportFactory]
  split
  · rename_i hbound
    exact (matched_detachExportFactory h hbound).1
  · exact h

/-- What a pass leaves fits together when what it began with did. -/
theorem ExportPass.matched {env : Environment O} {r : Registry O} {j : Journal} (h : r.Matched)
    {created : List (Export O)} {requeued dropped : List ServiceId} {calls : Journal}
    (hpass : ExportPass env r.toBeExported ⟨{ r with toBeExported := [] }, j⟩
      created requeued dropped calls) :
    (({ r with toBeExported := [] } : Registry O).afterExports created
      requeued dropped).Matched where
  ascending := by
    have hnew : created.Pairwise fun a b => a.exportId < b.exportId := by
      have hrange := hpass.creates.numbers ▸ List.pairwise_lt_range'
        (s := r.nextExportId) (n := created.length)
      exact List.pairwise_map.mp hrange
    refine List.pairwise_append.mpr ⟨h.ascending, hnew, fun a ha b hb => ?_⟩
    exact Nat.lt_of_lt_of_le (h.below a ha) (hpass.creates.exportId_mem hb).1
  below := by
    intro e he
    change e.exportId < r.nextExportId + created.length
    rcases List.mem_append.mp he with he | he
    · exact Nat.lt_add_right _ (h.below e he)
    · exact (hpass.creates.exportId_mem he).2
  pairs := by
    change ((r.exports ++ created).map Export.pair).Nodup
    rw [List.map_append]
    refine List.nodup_append.mpr ⟨h.pairs, hpass.creates.distinct, ?_⟩
    rintro _ ha _ hb rfl
    obtain ⟨e, he, rfl⟩ := List.mem_map.mp hb
    exact hpass.creates.new e he ha
  described := by
    intro e he
    rcases List.mem_append.mp he with he | he
    · exact h.described e he
    · obtain ⟨service, -, hmade⟩ := hpass.creates.origin e he
      exact hmade.description_serviceId
  queue_nodup := by
    change ([] ++ requeued).Nodup
    exact h.queue_nodup.sublist hpass.requeued_sublist
  queue_tracked := by
    intro id hid
    have hid : id ∈ requeued := by simpa [afterExports] using hid
    change ((dropped.foldl Table.erase r.services).get? id).isSome
    rw [get?_foldl_erase, if_neg (hpass.disjoint id hid)]
    exact h.queue_tracked id (hpass.requeued_sublist.subset hid)
  settled := by
    intro id hid hqueue
    have hqueue : id ∉ requeued := by simpa [afterExports] using hqueue
    have hkept : id ∉ dropped := by
      intro hd
      change ((dropped.foldl Table.erase r.services).get? id).isSome at hid
      simp [get?_foldl_erase, hd] at hid
    have hget : (dropped.foldl Table.erase r.services).get? id = r.services.get? id := by
      rw [get?_foldl_erase, if_neg hkept]
    by_cases hold : id ∈ r.toBeExported
    · exact hpass.done id hold hqueue hkept
    · have htracked : r.services.contains id := by
        rw [Table.contains, ← hget]
        exact hid
      exact (h.settled id htracked hold).mono hget.symm fun e he => List.mem_append_left _ he
  bound := by
    intro e he
    rcases List.mem_append.mp he with he | he
    · exact h.bound e he
    · obtain ⟨service, -, hmade⟩ := hpass.creates.origin e he
      exact hmade.bound

theorem matched_reconcile {s : Session O} (h : s.registry.Matched) (env : Environment O) :
    (s.reconcile env).registry.Matched := by
  obtain ⟨created, requeued, dropped, calls, heq, hpass⟩ := exportAll_eq env h.queue_nodup
    (s.modify fun r => { r with toBeExported := [] })
  have hexported : (exportAll env s.registry.toBeExported
      (s.modify fun r => { r with toBeExported := [] })).registry.Matched := by
    rw [heq]
    exact hpass.matched h
  refine hexported.congr ?_
  rw [reconcile, exportSide_importAll]
  rfl

theorem matched_clear {s : Session O} (h : s.registry.Matched) (env : Environment O) :
    (s.clear env).registry.Matched := by
  have htorn : (s.tearDownAll fun _ => true).registry.exports = [] := by
    simp [tearDownAll_eq h.toNumbered, withoutExports]
  have hside (imports : List (Import O)) (t : Session O) :
      (imports.foldl (fun s i => s.removeImport i.description) t).registry.exportSide =
        t.registry.exportSide :=
    foldl_keeps (fun s i => exportSide_removeImport s i.description) imports t
  exact matched_of_idle rfl ((congrArg ExportSide.exports (hside _ _)).trans htorn) rfl

theorem matched_apply (env : Environment O) (op : Operation O) {s : Session O}
    (h : s.registry.Matched) :
    (s.apply env op).registry.Matched := by
  cases op with
  | addService object p => exact h.addService object p
  | removeService p => exact matched_removeService h p
  | addExportFactory f p => exact matched_addExportFactory h f p
  | removeExportFactory f p => exact matched_removeExportFactory h f p
  | addImportFactory f p => exact h.congr (exportSide_addImportFactory env f p s)
  | removeImportFactory f p => exact h.congr (exportSide_removeImportFactory env f p s)
  | addEndpoint d => exact h.congr (exportSide_addEndpoint s.registry d)
  | removeEndpoint d => exact h.congr (exportSide_removeEndpoint d s)
  | reconcile => exact matched_reconcile h env
  | clear => exact matched_clear h env

theorem contains_exportAll {r : Registry O} (h : r.Matched) (env : Environment O) (j : Journal)
    {before after : List ServiceId} {id : ServiceId}
    (hsplit : r.toBeExported = before ++ id :: after) :
    (exportAll env before ⟨{ r with toBeExported := [] }, j⟩).registry.services.contains id := by
  obtain ⟨hbefore, -, hdisjoint⟩ := List.nodup_append.mp (hsplit ▸ h.queue_nodup)
  obtain ⟨created, requeued, dropped, calls, heq, hpass⟩ :=
    exportAll_eq env hbefore ⟨{ r with toBeExported := [] }, j⟩
  have hkept : id ∉ dropped := fun hd =>
    hdisjoint id (hpass.dropped_sublist.subset hd) id List.mem_cons_self rfl
  rw [heq, afterExports, Table.contains, get?_foldl_erase, if_neg hkept]
  exact h.queue_tracked id (by simp [hsplit])

end Session

theorem Registry.Reachable.matched {r : Registry O} (h : r.Reachable) : r.Matched := by
  induction h with
  | empty => exact matched_of_idle rfl rfl rfl
  | apply env op _ ih => exact Session.matched_apply env op ih
  | takeEffect _ he ih =>
    rw [(takeEffect_eq_some.mp he).2]
    exact ih.congr rfl

/-- In every reachable registry exports fit services and factories: no pair is exported twice and
all numbers are in use only once; whoever waits waits once and is tracked, also when a pass comes to
it; exports that are taken down are there when their turn comes; a tracked service that does not
wait has an export for each interface that it is to be exported under; and every export was made by
the factory that is bound under its interface. -/
theorem Registry.Reachable.exports_match {r : Registry O} (h : r.Reachable) :
    (r.exports.Pairwise (fun a b => ¬ (a.serviceId = b.serviceId ∧ a.interface = b.interface)) ∧
      ∀ e ∈ r.exports, e.exportId < r.nextExportId) ∧
    (r.toBeExported.Nodup ∧ (∀ id ∈ r.toBeExported, r.services.contains id) ∧
      (∀ (env : Environment O) (j : Journal) before id after,
        r.toBeExported = before ++ id :: after →
        (Session.exportAll env before
          ⟨{ r with toBeExported := [] }, j⟩).registry.services.contains id) ∧
      ∀ (s : Session O) (p : Export O → Bool) before e after, s.registry.exports = r.exports →
        r.exports.filter p = before ++ e :: after →
        ((before.map Export.exportId).foldl Session.tearDown s).registry.exportOf? e.exportId =
          some e ∧
          (before.foldl Session.revoke s).registry.exportOf? e.exportId = some e) ∧
    (∀ id service, r.services.get? id = some service → id ∉ r.toBeExported →
      ∃ interfaces, selectInterfaces service.properties = .ok interfaces ∧ interfaces ≠ [] ∧
        ∀ i ∈ interfaces, ∃ e ∈ r.exports, e.serviceId = id ∧ e.interface = i) ∧
    ∀ e ∈ r.exports, r.exportFactories.get? e.interface = some e.factory := by
  have hm := h.matched
  refine ⟨⟨?_, hm.below⟩, ⟨hm.queue_nodup, hm.queue_tracked, ?_, ?_⟩, ?_, hm.bound⟩
  · refine (List.pairwise_map.mp hm.pairs).imp fun hne hab => ?_
    exact hne (Prod.ext hab.1 hab.2)
  · intro env j before id after hsplit
    exact Session.contains_exportAll hm env j hsplit
  · intro s p before e after hs hsplit
    have hnodup : (s.registry.exports.map Export.exportId).Nodup := hs ▸ hm.nodup
    rw [← hs] at hsplit
    exact ⟨Session.exportOf?_foldl_tearDown hnodup hsplit,
      Session.exportOf?_foldl_revoke hnodup hsplit⟩
  · intro id service hservice hqueue
    have hfull := hm.settled id (by rw [Table.contains, hservice]; rfl) hqueue
    simp only [FullyExported, selected, hservice] at hfull
    cases hselect : selectInterfaces service.properties with
    | error fault => simp [hselect, Except.toOption] at hfull
    | ok interfaces =>
      simp only [hselect, Except.toOption, Option.getD_some] at hfull
      refine ⟨interfaces, rfl, hfull.1, fun i hi => ?_⟩
      obtain ⟨e, he, hpair⟩ := List.mem_map.mp (hfull.2 i hi)
      exact ⟨e, he, congrArg Prod.fst hpair, congrArg Prod.snd hpair⟩

/-- A service with two interfaces: the factory of one comes late, the other one is replaced while it
is in use. -/
theorem Registry.Reachable.exports_match_replaced :
    let r := ((Session.ofRegistry (.empty "here" false)).run .granting
      [.addExportFactory ⟨"f", "A"⟩ ∅,
        .addService () (.ofList
          [(Key.serviceId, "7"), (Key.objectClass, "A, B"), (Key.exportedInterfaces, "*")]),
        .reconcile, .addExportFactory ⟨"g", "B"⟩ ∅, .reconcile, .addExportFactory ⟨"h", "A"⟩ ∅,
        .reconcile]).registry
    r.Reachable ∧ r.exports.map (fun e => (e.exportId, e.interface, e.factory.tag)) =
      [(2, "B", "g"), (3, "A", "h")] ∧
      r.toBeExported.Nodup ∧ ∀ e ∈ r.exports,
        r.exportFactories.get? e.interface = some e.factory := by
  intro r
  have hr : r.Reachable :=
    (Registry.Reachable.empty "here" false).run .granting (s := .ofRegistry _) _
  have hmatch := hr.exports_match
  exact ⟨hr, by decide +kernel, hmatch.2.1.1, hmatch.2.2.2⟩

end RemoteServices
