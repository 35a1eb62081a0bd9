import RemoteServices.Proofs.Keyed
import RemoteServices.Registry.Operation
import Mathlib.Data.List.Find

/-!
# Taking exports down

What is left of a registry when exports are taken down one after the other, by their numbers.  Each
is found, so each is struck, its factory is told once and its retraction is queued once, in the
order of the numbers.
-/
namespace RemoteServices

variable {O : Objects}

namespace Registry

/-- The exports carry ascending numbers, all below the next one. -/
structure Numbered (r : Registry O) : Prop where
  ascending : r.exports.Pairwise fun a b => a.exportId < b.exportId
  below : ∀ e ∈ r.exports, e.exportId < r.nextExportId

theorem Numbered.nodup {r : Registry O} (h : r.Numbered) : (r.exports.map Export.exportId).Nodup :=
  List.pairwise_map.mpr (h.ascending.imp Nat.ne_of_lt)

/-- Nothing is lost when the numbers of exports are words of 64 bits: as long as the next number is
one, exports are told apart, ordered, found and outnumbered by their words as by their numbers. -/
theorem Numbered.as_words {r : Registry O} (h : r.Numbered) (hfew : r.nextExportId < UInt64.size) :
    (∀ e ∈ r.exports, (UInt64.ofNat e.exportId).toNat = e.exportId) ∧
    (r.exports.Pairwise fun a b => UInt64.ofNat a.exportId < UInt64.ofNat b.exportId) ∧
    (∀ word : UInt64,
      r.exports.find? (UInt64.ofNat ·.exportId == word) = r.exportOf? word.toNat) ∧
    ∀ e ∈ r.exports, UInt64.ofNat e.exportId < UInt64.ofNat r.nextExportId := by
  have hnat {n : Nat} (hn : n < UInt64.size) : (UInt64.ofNat n).toNat = n :=
    UInt64.toNat_ofNat_of_lt hn
  have hword {e : Export O} (he : e ∈ r.exports) : (UInt64.ofNat e.exportId).toNat = e.exportId :=
    hnat (Nat.lt_trans (h.below e he) hfew)
  refine ⟨fun e => hword, ?_, fun word => ?_, fun e he => ?_⟩
  · refine h.ascending.imp_of_mem fun ha hb hlt => ?_
    rwa [UInt64.lt_iff_toNat_lt, hword ha, hword hb]
  · refine List.find?_congr fun e he => ?_
    rw [Bool.eq_iff_iff, beq_iff_eq, beq_iff_eq, ← UInt64.toNat_inj, hword he]
  · rw [UInt64.lt_iff_toNat_lt, hword he, hnat hfew]
    exact h.below e he

/-- What is left without the exports that satisfy `p`. -/
def withoutExports (p : Export O → Bool) (r : Registry O) : Registry O :=
  { r with
    exports := r.exports.filter fun e => ! p e
    effects := r.effects ++ (r.exports.filter p).map fun e => .retract e.description }

@[simp] theorem requeueService_exports (r : Registry O) (serviceId : ServiceId) :
    (r.requeueService serviceId).exports = r.exports := by
  rw [requeueService]
  split <;> rfl

theorem dropExport_requeueService (r : Registry O) (serviceId : ServiceId) (e : Export O) :
    (r.requeueService serviceId).dropExport e = (r.dropExport e).requeueService serviceId := by
  rw [requeueService, apply_ite (dropExport · e)]
  rfl

theorem requeueService_eq (r : Registry O) (serviceId : ServiceId) :
    ∃ q, r.requeueService serviceId = { r with toBeExported := q } ∧
      (∀ id, id ∈ q ↔ id ∈ r.toBeExported ∨ (id = serviceId ∧ r.services.contains id)) ∧
      (r.toBeExported.Nodup → q.Nodup) := by
  rw [requeueService]
  split
  · rename_i h
    simp only [Bool.and_eq_true, Bool.not_eq_true', List.contains_eq_mem,
      decide_eq_false_iff_not] at h
    refine ⟨r.toBeExported ++ [serviceId], rfl, fun id => ?_, fun hq => ?_⟩
    · rw [List.mem_append, List.mem_singleton]
      exact or_congr_right ⟨fun he => ⟨he, he ▸ h.1⟩, fun he => he.1⟩
    · rw [← List.concat_eq_append]
      exact hq.concat h.2
  · rename_i h
    refine ⟨r.toBeExported, rfl, fun id => ⟨.inl, ?_⟩, id⟩
    rintro (hid | ⟨rfl, hs⟩)
    · exact hid
    · simpa [hs] using h

theorem foldl_requeueService (ids : List ServiceId) (r : Registry O) :
    ∃ q, ids.foldl requeueService r = { r with toBeExported := q } ∧
      (∀ id, id ∈ q ↔ id ∈ r.toBeExported ∨ (id ∈ ids ∧ r.services.contains id)) ∧
      (r.toBeExported.Nodup → q.Nodup) := by
  induction ids generalizing r with
  | nil => exact ⟨r.toBeExported, rfl, by simp, id⟩
  | cons n ids ih =>
    obtain ⟨q, hq, hmem, hnodup⟩ := r.requeueService_eq n
    obtain ⟨q', hq', hmem', hnodup'⟩ := ih (r.requeueService n)
    rw [hq] at hq' hmem' hnodup'
    refine ⟨q', by rw [List.foldl_cons, hq, hq'], fun id => ?_, hnodup' ∘ hnodup⟩
    rw [hmem', hmem, or_assoc, ← or_and_right, List.mem_cons]

theorem foldl_requeueService_exports (ids : List ServiceId) (r : Registry O) :
    (ids.foldl requeueService r).exports = r.exports := by
  obtain ⟨q, hq, -⟩ := r.foldl_requeueService ids
  rw [hq]

end Registry

namespace Session

/-- The calls by which factories are told of exports that are gone, the latest first. -/
def removals (es : List (Export O)) : Journal :=
  (es.map fun e => .removeEndpoint e.factory e.description).reverse

theorem tearDown_of_mem {s : Session O} (h : (s.registry.exports.map Export.exportId).Nodup)
    {e : Export O} (he : e ∈ s.registry.exports) :
    s.tearDown e.exportId =
      ⟨s.registry.dropExport e, .removeEndpoint e.factory e.description :: s.journal⟩ := by
  have hfind : s.registry.exportOf? e.exportId = some e := find?_key h he
  rw [tearDown, hfind]
  rfl

theorem foldl_tearDown (es : List (Export O)) {s : Session O}
    (h : (s.registry.exports.map Export.exportId).Nodup) (hes : (es.map Export.exportId).Nodup)
    (hmem : ∀ e ∈ es, e ∈ s.registry.exports) :
    (es.map Export.exportId).foldl tearDown s =
      ⟨{ s.registry with
          exports := s.registry.exports.filter fun e => e.exportId ∉ es.map Export.exportId
          effects := s.registry.effects ++ es.map fun e => .retract e.description },
        removals es ++ s.journal⟩ := by
  induction es generalizing s with
  | nil => simp [removals]
  | cons e es ih =>
    obtain ⟨hne, hes⟩ := List.nodup_cons.mp hes
    have hs := tearDown_of_mem h (hmem e List.mem_cons_self)
    have hsub : (s.registry.dropExport e).exports.Sublist s.registry.exports := List.filter_sublist
    -- The exports still to go carry other numbers, so they are not struck with this one.
    have hstay : ∀ f ∈ es, f ∈ (s.registry.dropExport e).exports := by
      intro f hf
      refine List.mem_filter.mpr ⟨hmem f (List.mem_cons_of_mem _ hf), ?_⟩
      simpa using fun hfe : f.exportId = e.exportId => hne (hfe ▸ List.mem_map_of_mem hf)
    rw [List.map_cons, List.foldl_cons, hs, ih (h.sublist (hsub.map _)) hes hstay]
    simp [Registry.dropExport, Registry.emit, removals, List.filter_filter, Bool.and_comm, bne]
    rfl

/-- When exports are taken down in turn, each is still there when its turn comes. -/
theorem exportOf?_foldl_tearDown {s : Session O}
    (h : (s.registry.exports.map Export.exportId).Nodup) {p : Export O → Bool}
    {before after : List (Export O)} {e : Export O}
    (hsplit : s.registry.exports.filter p = before ++ e :: after) :
    ((before.map Export.exportId).foldl tearDown s).registry.exportOf? e.exportId = some e := by
  have hmem : ∀ f ∈ before ++ e :: after, f ∈ s.registry.exports := by
    intro f hf
    exact List.mem_of_mem_filter (hsplit ▸ hf)
  have hnodup : ((before ++ e :: after).map Export.exportId).Nodup := by
    rw [← hsplit]
    exact h.sublist (List.filter_sublist.map _)
  rw [List.map_append, List.map_cons] at hnodup
  obtain ⟨hbefore, -, hdisjoint⟩ := List.nodup_append.mp hnodup
  have hstays : e ∈ s.registry.exports.filter fun f => f.exportId ∉ before.map Export.exportId := by
    refine List.mem_filter.mpr ⟨hmem e (by simp), decide_eq_true fun hin => ?_⟩
    exact hdisjoint _ hin _ List.mem_cons_self rfl
  rw [foldl_tearDown before h hbefore fun f hf => hmem f (List.mem_append_left _ hf)]
  exact find?_key (h.sublist (List.filter_sublist.map _)) hstays

theorem tearDownAll_eq {s : Session O} (h : s.registry.Numbered) (p : Export O → Bool) :
    s.tearDownAll p = ⟨s.registry.withoutExports p,
      removals (s.registry.exports.filter p) ++ s.journal⟩ := by
  have hnodup : ((s.registry.exports.filter p).map Export.exportId).Nodup :=
    h.nodup.sublist (List.filter_sublist.map _)
  rw [tearDownAll, foldl_tearDown _ h.nodup hnodup fun e he => List.mem_of_mem_filter he,
    filter_keys_notMem h.nodup]
  rfl

theorem removeService_eq {s : Session O} (h : s.registry.Numbered) {p : Properties}
    {serviceId : ServiceId} (hp : p.int64? Key.serviceId = some serviceId) :
    s.removeService p =
      ⟨{ s.registry.withoutExports (·.serviceId == serviceId) with
          services := s.registry.services.erase serviceId
          toBeExported := s.registry.toBeExported.filter (· != serviceId) },
        removals (s.registry.exports.filter (·.serviceId == serviceId)) ++ s.journal⟩ := by
  rw [removeService, hp]
  exact tearDownAll_eq (s := s.modify fun r =>
    { r with
      services := r.services.erase serviceId
      toBeExported := r.toBeExported.filter (· != serviceId) }) ⟨h.ascending, h.below⟩ _

private theorem tearDown_modify_requeue (s : Session O) (serviceId : ServiceId) (exportId : Nat) :
    (s.modify (·.requeueService serviceId)).tearDown exportId =
      (s.tearDown exportId).modify (·.requeueService serviceId) := by
  have hfind : (s.registry.requeueService serviceId).exportOf? exportId =
      s.registry.exportOf? exportId := by
    rw [Registry.exportOf?, Registry.requeueService_exports, Registry.exportOf?]
  simp only [tearDown, modify, hfind]
  cases s.registry.exportOf? exportId with
  | none => rfl
  | some e => simp only [record, Registry.dropExport_requeueService]

/-- Queueing a service again does not touch the exports, so all of it may be left to the end. -/
theorem foldl_revoke (es : List (Export O)) (s : Session O) :
    es.foldl revoke s = ((es.map Export.exportId).foldl tearDown s).modify fun r =>
      (es.map Export.serviceId).foldl Registry.requeueService r := by
  have later (ids : List Nat) (serviceId : ServiceId) (s : Session O) :
      ids.foldl tearDown (s.modify (·.requeueService serviceId)) =
        (ids.foldl tearDown s).modify (·.requeueService serviceId) := by
    induction ids generalizing s with
    | nil => rfl
    | cons n ids ih => rw [List.foldl_cons, tearDown_modify_requeue, ih, List.foldl_cons]
  induction es generalizing s with
  | nil => rfl
  | cons e es ih =>
    rw [List.foldl_cons, ih, revoke, later]
    rfl

theorem exportOf?_foldl_revoke {s : Session O} (h : (s.registry.exports.map Export.exportId).Nodup)
    {p : Export O → Bool} {before after : List (Export O)} {e : Export O}
    (hsplit : s.registry.exports.filter p = before ++ e :: after) :
    (before.foldl revoke s).registry.exportOf? e.exportId = some e := by
  rw [foldl_revoke, modify, Registry.exportOf?, Registry.foldl_requeueService_exports]
  exact exportOf?_foldl_tearDown h hsplit

theorem detachExportFactory_eq {s : Session O} (h : s.registry.Numbered) (name : String)
    (factory : Factory) :
    ∃ q, s.detachExportFactory name factory =
        ⟨{ s.registry.withoutExports (·.factory == factory) with
            exportFactories := s.registry.exportFactories.erase name
            toBeExported := q },
          removals (s.registry.exports.filter (·.factory == factory)) ++ s.journal⟩ ∧
      (∀ id, id ∈ q ↔ id ∈ s.registry.toBeExported ∨
        (∃ e ∈ s.registry.exports, e.factory = factory ∧ e.serviceId = id) ∧
          s.registry.services.contains id) ∧
      (s.registry.toBeExported.Nodup → q.Nodup) := by
  let unbound := s.modify fun r => { r with exportFactories := r.exportFactories.erase name }
  have hunbound : unbound.registry.Numbered := ⟨h.ascending, h.below⟩
  have htear := tearDownAll_eq hunbound (·.factory == factory)
  obtain ⟨q, hq, hmem, hnodup⟩ :=
    (unbound.registry.withoutExports (·.factory == factory)).foldl_requeueService
      ((unbound.registry.exports.filter (·.factory == factory)).map Export.serviceId)
  refine ⟨q, ?_, fun id => ?_, hnodup⟩
  · rw [tearDownAll] at htear
    change (unbound.registry.exports.filter (·.factory == factory)).foldl revoke unbound = _
    rw [foldl_revoke, htear, modify, hq]
    rfl
  · rw [hmem]
    simp only [List.mem_map, List.mem_filter, beq_iff_eq, and_assoc]
    rfl

end Session

end RemoteServices
