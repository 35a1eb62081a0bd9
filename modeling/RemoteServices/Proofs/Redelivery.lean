import RemoteServices.Proofs.Finality
import RemoteServices.Proofs.Retry

/-!
# What is told twice

Listeners may hear of the same thing twice.  A registry that has been told something and has done
all that it can takes no notice when it is told once more: `Registry.Reachable.redelivers`.  There
is one exception, `Session.KeptOut`: a service is taken for known when another one is tracked under
its id, and the pass that follows may forget that one.
-/
namespace RemoteServices

variable {O : Objects}

namespace Registry

/-- There is nothing to change when the registry is told this. -/
def Heeds (r : Registry O) : Operation O → Prop
  | .addService _ p => ∀ serviceId, exportableId? p = some serviceId → r.services.contains serviceId
  | .removeService p => ∀ serviceId, p.int64? Key.serviceId = some serviceId → r.Gone serviceId
  | .addExportFactory f p => r.exportFactories.get? (f.boundName p) = some f
  | .removeExportFactory f p => r.exportFactories.get? (f.boundName p) ≠ some f
  | .addImportFactory f p => r.importFactories.get? (f.boundName p) = some f
  | .removeImportFactory f p => r.importFactories.get? (f.boundName p) ≠ some f
  | .addEndpoint d => r.wants d → (r.known? d.id).isSome
  | .removeEndpoint d => r.known? d.id = none
  | .reconcile => False
  | .clear =>
    r.services = ∅ ∧ r.exports = [] ∧ r.imports = [] ∧ r.bookkeeping = ∅ ∧
      r.toBeExported = [] ∧ r.toBeImported = []

theorem isSome_known? (r : Registry O) (endpointId : String) :
    (r.known? endpointId).isSome ↔ endpointId ∈ r.knownEndpoints.map Endpoint.id := by
  rw [known?_eq_find?, List.find?_isSome]
  simp

end Registry

namespace Session

open Registry

variable {s : Session O}

theorem reconcile_of_idle (env : Environment O) (hexport : s.registry.toBeExported = [])
    (himport : s.registry.toBeImported = []) : s.reconcile env = s := by
  obtain ⟨⟨⟩, j⟩ := s
  dsimp only at hexport himport
  subst hexport himport
  rfl

theorem bound_addExportFactory (s : Session O) (f : Factory) (p : Properties) :
    (s.addExportFactory f p).registry.exportFactories.get? (f.boundName p) = some f := by
  rw [addExportFactory]
  dsimp only
  split
  · simp [modify, Table.get?_insert]
  · rename_i bound hbound
    split
    · rename_i hsame
      rw [hbound, hsame]
    · simp [modify, Table.get?_insert]

theorem bound_addImportFactory (env : Environment O) (s : Session O)
    (f : Factory) (p : Properties) :
    (s.addImportFactory env f p).registry.importFactories.get? (f.boundName p) = some f := by
  rw [addImportFactory]
  dsimp only
  split
  · simp [modify, Table.get?_insert]
  · rename_i bound hbound
    split
    · rename_i hsame
      rw [hbound, hsame]
    · simp [modify, Table.get?_insert]

section

variable (hmatched : s.registry.Matched) (hdistinct : s.registry.Distinct) (env : Environment O)
include hmatched hdistinct

theorem heeds_apply {op : Operation O} (hop : op ≠ .reconcile) :
    (s.apply env op).registry.Heeds op := by
  have hknown (op : Operation O) (id : String) :
    id ∈ (s.apply env op).registry.knownEndpoints.map Endpoint.id ↔
      id ∈ (s.registry.knownAfter op).map Endpoint.id :=
    ((knownEndpoints_apply hmatched hdistinct env op).map Endpoint.id).mem_iff
  cases op with
  | addService object p =>
    intro serviceId hid
    rw [apply, modify, addService, hid]
    dsimp only
    split
    · assumption
    · simp [Table.contains, queueService, Table.get?_insert]
  | removeService p =>
    intro serviceId hid
    exact (gone_removeService hmatched.toNumbered hid).1
  | addExportFactory f p => exact bound_addExportFactory s f p
  | removeExportFactory f p =>
    rw [Heeds, apply, removeExportFactory]
    split
    · obtain ⟨q, heq, -⟩ := detachExportFactory_eq hmatched.toNumbered (f.boundName p) f
      rw [heq]
      simp [Table.get?_erase]
    · assumption
  | addImportFactory f p => exact bound_addImportFactory env s f p
  | removeImportFactory f p =>
    rw [Heeds, apply, removeImportFactory]
    split
    · obtain ⟨imports, -, heq⟩ := detachImportFactory_eq hdistinct.imports env (f.boundName p)
      rw [heq]
      simp [Table.get?_erase]
    · assumption
  | addEndpoint d =>
    intro hwants
    rw [wants_apply hmatched hdistinct] at hwants
    rw [isSome_known?, hknown, knownAfter]
    split
    · simp
    · rename_i hold
      simp only [hwants, Bool.true_and, Bool.not_eq_true', Bool.not_eq_false] at hold
      simpa using hold
  | removeEndpoint d =>
    rw [Heeds, ← Option.not_isSome_iff_eq_none, isSome_known?, hknown, knownAfter]
    simp
  | reconcile => exact absurd rfl hop
  | clear =>
    obtain ⟨imports, -, heq⟩ := clear_eq hmatched.toNumbered hdistinct.imports env
    rw [apply, heq]
    exact ⟨rfl, rfl, rfl, rfl, rfl, rfl⟩

theorem apply_of_heeds {op : Operation O} (h : s.registry.Heeds op) : s.apply env op = s := by
  cases op with
  | addService object p =>
    have hsame : s.registry.addService object p = s.registry := by
      rw [addService]
      split
      · rfl
      · rename_i serviceId hid
        rw [if_pos (h serviceId hid)]
    rw [apply, modify, hsame]
  | removeService p =>
    cases hid : p.int64? Key.serviceId with
    | none => rw [apply, removeService, hid]
    | some serviceId =>
      have hgone := h serviceId hid
      refine removeService_of_gone hmatched.toNumbered hgone (fun hwaits => ?_) hid
      have htracked := hmatched.queue_tracked serviceId hwaits
      simp [Table.contains, hgone.untracked] at htracked
  | addExportFactory f p =>
    have hbound : s.registry.exportFactories.get? (f.boundName p) = some f := h
    simp only [apply, addExportFactory, hbound, if_true]
  | removeExportFactory f p => rw [apply, removeExportFactory, if_neg h]
  | addImportFactory f p =>
    have hbound : s.registry.importFactories.get? (f.boundName p) = some f := h
    simp only [apply, addImportFactory, hbound, if_true]
  | removeImportFactory f p => rw [apply, removeImportFactory, if_neg h]
  | addEndpoint d =>
    have hsame : s.registry.addEndpoint d = s.registry := by
      rw [addEndpoint]
      split
      · rfl
      · rename_i hlocal
        rw [if_pos (h ?_)]
        rw [wants]
        cases himport : s.registry.importLocalEndpoints <;> simp_all
    rw [apply, modify, hsame]
  | removeEndpoint d =>
    have hnone : s.registry.known? d.id = none := h
    rw [apply, removeEndpoint, hnone]
  | reconcile => exact h.elim
  | clear =>
    obtain ⟨hservices, hexports, himports, hbooks, hexport, himport⟩ := h
    obtain ⟨imports, hperm, heq⟩ := clear_eq hmatched.toNumbered hdistinct.imports env
    rw [himports, List.perm_nil] at hperm
    obtain ⟨r, j⟩ := s
    obtain ⟨⟩ := r
    simp only at hservices hexports himports hbooks hexport himport
    subst hservices hexports himports hbooks hexport himport
    rw [apply, heq, hperm]
    simp [farewells, removals]

/-- What a registry heeds, it heeds after a pass, unless the pass forgets the service. -/
theorem heeds_reconcile {op : Operation O} (h : s.registry.Heeds op)
    (hkept : ∀ object p serviceId, op = .addService object p → exportableId? p = some serviceId →
      (s.reconcile env).registry.services.contains serviceId) :
      (s.reconcile env).registry.Heeds op := by
  obtain ⟨created, requeued, dropped, calls, made, waiting, books, calls',
      heq, hexports, himports⟩ :=
    reconcile_eq hmatched hdistinct env
  have hfactories : (s.reconcile env).registry.exportFactories = s.registry.exportFactories ∧
      (s.reconcile env).registry.importFactories = s.registry.importFactories := by
    rw [heq]
    exact ⟨rfl, rfl⟩
  have hknown (id : String) : ((s.reconcile env).registry.known? id).isSome ↔
      (s.registry.known? id).isSome := by
    rw [isSome_known?, isSome_known?,
      ((knownEndpoints_reconcile hmatched hdistinct env).map Endpoint.id).mem_iff]
  cases op with
  | addService object p => exact fun serviceId hid => hkept object p serviceId rfl hid
  | removeService p =>
    intro serviceId hid
    have hadds : ¬ Operation.AddsService serviceId (.reconcile : Operation O) := id
    exact (gone_apply hmatched hdistinct env hadds (h serviceId hid)).1
  | addExportFactory f p =>
    rw [Heeds, hfactories.1]
    exact h
  | removeExportFactory f p =>
    rw [Heeds, hfactories.1]
    exact h
  | addImportFactory f p =>
    rw [Heeds, hfactories.2]
    exact h
  | removeImportFactory f p =>
    rw [Heeds, hfactories.2]
    exact h
  | addEndpoint d =>
    exact fun hwants => (hknown d.id).mpr
      (h ((wants_apply hmatched hdistinct env .reconcile d).symm.trans hwants))
  | removeEndpoint d =>
    rw [Heeds, ← Option.not_isSome_iff_eq_none, hknown, Option.not_isSome_iff_eq_none]
    exact h
  | reconcile => exact h.elim
  | clear =>
    rw [reconcile_of_idle env h.2.2.2.2.1 h.2.2.2.2.2]
    exact h

end

/-- A service is kept out by another one that is tracked under its id, and the pass forgets that
one. -/
def KeptOut (env : Environment O) (s : Session O) : Operation O → Prop
  | .addService object p => ∃ serviceId service, exportableId? p = some serviceId ∧
      s.registry.services.get? serviceId = some service ∧ service ≠ ⟨object, p⟩ ∧
      (s.perform env (.addService object p)).registry.services.get? serviceId = none
  | _ => False

theorem tracked_of_not_keptOut {env : Environment O} {object : O.Service} {p : Properties}
    {serviceId : ServiceId} (hnot : ¬ s.KeptOut env (.addService object p))
    (hid : exportableId? p = some serviceId)
    (hforgotten : (s.perform env (.addService object p)).registry.services.get? serviceId = none) :
    (s.apply env (.addService object p)).registry.services.get? serviceId = some ⟨object, p⟩ := by
  rw [apply, modify, addService, hid]
  dsimp only
  cases hservice : s.registry.services.get? serviceId with
  | none => simp [Table.contains, hservice, queueService, Table.get?_insert]
  | some service =>
    have hsame : service = ⟨object, p⟩ :=
      Classical.byContradiction fun hne => hnot ⟨serviceId, service, hid, hservice, hne, hforgotten⟩
    simp [Table.contains, hservice, hsame]

end Session

/-- With factories and a transport that answer alike, telling a registry something a second time,
and having it do all that it can, changes nothing, be it an export and its handler, the order of a
queue, the next number or an effect: unless it is a service that was kept out by one that is
forgotten. -/
theorem Registry.Reachable.redelivers {s : Session O} (h : s.registry.Reachable)
    {env : Environment O} (hsteady : env.Steady) {op : Operation O} (hnot : ¬ s.KeptOut env op) :
    (s.perform env op).registry.Unchanged ((s.perform env op).perform env op).registry := by
  have happlied := h.apply env op
  have hperformed := happlied.apply env .reconcile
  have hpass :=
    Session.unchanged_reconcile hsteady happlied.matched happlied.distinct happlied.booked
  by_cases hop : op = .reconcile
  · subst hop
    exact hpass.trans
      (Session.unchanged_reconcile hsteady hperformed.matched hperformed.distinct hperformed.booked)
  by_cases hheeds : (s.perform env op).registry.Heeds op
  · have hsame : (s.perform env op).apply env op = s.perform env op :=
      Session.apply_of_heeds hperformed.matched hperformed.distinct env hheeds
    have hnext : (s.perform env op).perform env op = (s.perform env op).reconcile env :=
      congrArg (·.reconcile env) hsame
    rw [hnext]
    exact hpass
  · -- Only the addition of a service can be lost on the way, when the pass forgets the service.
    have hlost : ∃ object p serviceId, op = .addService object p ∧
      Registry.exportableId? p = some serviceId ∧
        (s.perform env op).registry.services.get? serviceId = none := by
      refine Classical.byContradiction fun hnone => hheeds ?_
      refine Session.heeds_reconcile happlied.matched happlied.distinct env
        (Session.heeds_apply h.matched h.distinct env hop) fun object p serviceId hadd hid => ?_
      refine Option.isSome_iff_ne_none.mpr fun hforgotten =>
        hnone ⟨object, p, serviceId, hadd, hid, hforgotten⟩
    obtain ⟨object, p, serviceId, rfl, hid, hforgotten⟩ := hlost
    refine Session.unchanged_requeued hsteady happlied.matched happlied.distinct happlied.booked
      (Session.tracked_of_not_keptOut hnot hid hforgotten) hforgotten ?_
    have huntracked :
        (s.perform env (.addService object p)).registry.services.contains serviceId = false := by
      rw [Table.contains, hforgotten]
      rfl
    rw [Session.apply, Session.modify, Registry.addService, hid]
    dsimp only
    rw [huntracked]
    rfl

/-- A service is exported in part and forgotten, while another waits for a factory that refuses it.
When the one is added a second time, it is tracked and forgotten again. -/
theorem Registry.Reachable.redelivers_forgotten :
    ∃ (s : Session .plain) (env : Environment .plain) (op : Operation .plain),
      s.registry.Reachable ∧ env.Steady ∧ ¬ s.KeptOut env op ∧
      (s.perform env op).registry.exports.map Export.pair = [(7, "A")] ∧
      (s.perform env op).registry.services.get? 7 = none ∧
      (s.perform env op).registry.toBeExported = [8] ∧
      ((s.perform env op).apply env op).registry.toBeExported = [8, 7] ∧
      (s.perform env op).registry.Unchanged ((s.perform env op).perform env op).registry := by
  let env : Environment .plain := { Environment.granting with
    connection := fun _ _ i => if i = "B" then .error (.illegalArgument "unreachable") else .ok ∅
    wrap := fun _ f _ _ => if f.tag = "h" then .error "no" else .ok () }
  let service (number interfaces : String) : Properties :=
    .ofList [(Key.serviceId, number), (Key.objectClass, interfaces), (Key.exportedInterfaces, "*")]
  let s : Session .plain := (Session.ofRegistry (.empty "here" false)).run env
    [.addExportFactory ⟨"f", "A"⟩ ∅, .addExportFactory ⟨"g", "B"⟩ ∅, .addExportFactory ⟨"h", "C"⟩ ∅,
      .addService () (service "8" "C"), .reconcile]
  have hs : s.registry.Reachable :=
    (Registry.Reachable.empty "here" false).run env (s := .ofRegistry _) _
  have hsteady : env.Steady :=
    ⟨fun _ _ _ _ => rfl, fun _ _ _ _ _ _ _ _ _ _ h => h, fun _ _ _ _ h => h⟩
  have hnot : ¬ s.KeptOut env (.addService () (service "7" "A, B")) := by
    rintro ⟨serviceId, tracked, hid, hservice, -⟩
    have hseven : Registry.exportableId? (service "7" "A, B") = some 7 := by decide +kernel
    obtain rfl : 7 = serviceId := Option.some.inj (hseven.symm.trans hid)
    have hnone : (s.registry.services.get? 7).isNone := by decide +kernel
    simp [hservice] at hnone
  exact ⟨s, env, _, hs, hsteady, hnot, by decide +kernel, Option.isNone_iff_eq_none.mp
    (by decide +kernel), by decide +kernel, by decide +kernel, hs.redelivers hsteady hnot⟩

/-- A service waits because a factory refused one of its interfaces; the transport calls the other
illegal.  When the factory no longer refuses, another service of the same id is added: it is kept
out, and the pass exports the interface and forgets the service.  Added a second time, the other
service is exported. -/
theorem Registry.Reachable.not_redelivers :
    ∃ (s : Session .plain) (env : Environment .plain) (object : Unit) (p : Properties),
      s.registry.Reachable ∧ env.Steady ∧
      (s.perform env (.addService object p)).registry.exports.map Export.pair = [(7, "A")] ∧
      ((s.perform env (.addService object p)).perform env
        (.addService object p)).registry.exports.map Export.pair =
        [(7, "A"), (7, "C")] ∧
      ¬ (s.perform env (.addService object p)).registry.Unchanged
        ((s.perform env (.addService object p)).perform env (.addService object p)).registry := by
  let env : Environment .plain := { Environment.granting with
    connection := fun _ _ i => if i = "B" then .error (.illegalArgument "unreachable") else .ok ∅ }
  let refusing : Environment .plain :=
    { env with wrap := fun _ f _ _ => if f.tag = "f" then .error "down" else .ok () }
  let service (interfaces : String) : Properties :=
    .ofList [(Key.serviceId, "7"), (Key.objectClass, interfaces), (Key.exportedInterfaces, "*")]
  let s : Session .plain := (Session.ofRegistry (.empty "here" false)).run refusing
    [.addExportFactory ⟨"f", "A"⟩ ∅, .addExportFactory ⟨"g", "B"⟩ ∅, .addExportFactory ⟨"h", "C"⟩ ∅,
      .addService () (service "A, B"), .reconcile]
  have hs : s.registry.Reachable :=
    (Registry.Reachable.empty "here" false).run refusing (s := .ofRegistry _) _
  have hsteady : env.Steady :=
    ⟨fun _ _ _ _ => rfl, fun _ _ _ _ _ _ _ _ _ _ h => h, fun _ _ _ _ h => h⟩
  have hfirst : (s.perform env (.addService () (service "C"))).registry.exports.map Export.pair =
      [(7, "A")] := by
    decide +kernel
  have hsecond : ((s.perform env (.addService () (service "C"))).perform env
      (.addService () (service "C"))).registry.exports.map Export.pair =
        [(7, "A"), (7, "C")] := by
    decide +kernel
  refine ⟨s, env, (), service "C", hs, hsteady, hfirst, hsecond, fun hunchanged => ?_⟩
  rw [hunchanged.exports, hfirst] at hsecond
  exact absurd hsecond (by decide)

end RemoteServices
