import RemoteServices.Proofs.Tracking
import RemoteServices.Proofs.Turnover

/-!
# The ground of an export

An export is made for a tracked service that asks for it, and goes when the service goes.  One way
leads around this: a pass forgets a service that the transport calls illegal, but leaves what is
exported of it.  `Registry.Told.exports_grounded` says that there is no other way, and
`Registry.Told.not_exports_grounded` that this one can be gone.
-/
namespace RemoteServices

variable {O : Objects}

/-- The transport may call the service illegal. -/
def Environment.Condemns (env : Environment O) (serviceId : ServiceId) : Prop :=
  ∃ j i reason, env.connection j serviceId i = .error (.illegalArgument reason)

namespace Registry

/-- The service of an export is tracked and selects its interface, and the export was made for
it. -/
def Grounds (made : TrackedService O → Export O → Prop) (r : Registry O) (e : Export O) : Prop :=
  ∃ service, r.services.get? e.serviceId = some service ∧
    e.interface ∈ r.selected e.serviceId ∧ made service e

end Registry

namespace Session

open Registry

theorem services_apply {s : Session O} (hmatched : s.registry.Matched)
    (hdistinct : s.registry.Distinct) (env : Environment O) (op : Operation O) {e : Export O}
    (he : e ∈ (s.apply env op).registry.exports) {service : TrackedService O}
    (hservice : s.registry.services.get? e.serviceId = some service)
    (hselected : s.registry.selected e.serviceId ≠ []) (hspared : ¬ env.Condemns e.serviceId) :
    (s.apply env op).registry.services.get? e.serviceId = some service := by
  have htracks := tracks_apply hmatched hdistinct env op e.serviceId
  generalize (s.apply env op).registry.services.get? e.serviceId = after at htracks ⊢
  cases htracks with
  | unchanged => exact hservice
  | added _ _ hnew =>
    rw [hservice] at hnew
    cases hnew
  | removed hop => exact absurd hop (not_removesService_of_mem hmatched hdistinct he)
  | forgotten h =>
    rcases h with hnone | hcondemned
    · exact absurd hnone hselected
    · exact absurd hcondemned hspared

/-- What grounds the exports before an operation grounds those after it, the new ones included. -/
theorem grounds_apply {made : TrackedService O → Export O → Prop} {s : Session O}
    (hmatched : s.registry.Matched) (hdistinct : s.registry.Distinct) {env : Environment O}
    (hmade : ∀ service e, e.MadeFor env s.registry service → made service e)
    (op : Operation O) {e : Export O} (he : e ∈ (s.apply env op).registry.exports)
    (hspared : ¬ env.Condemns e.serviceId)
    (h : e ∈ s.registry.exports → s.registry.Grounds made e) :
    (s.apply env op).registry.Grounds made e := by
  obtain ⟨t, ht⟩ := turns_apply hmatched hdistinct env op
  have hwas : s.registry.Grounds made e := by
    have he := he
    rw [ht.exports, List.mem_append] at he
    rcases he with he | he
    · exact h (List.mem_of_mem_filter he)
    · obtain ⟨service, hservice, hselected, hmadeFor⟩ := ht.created e he
      exact ⟨service, hservice, hselected, hmade service e hmadeFor⟩
  obtain ⟨service, hservice, hselected, hmade⟩ := hwas
  have hkept := services_apply hmatched hdistinct env op he hservice
    (List.ne_nil_of_mem hselected) hspared
  exact ⟨service, hkept, selected_congr (hservice.trans hkept.symm) ▸ hselected, hmade⟩

end Session

namespace Registry

namespace Told

variable {P : Environment O → Prop} {frameworkUuid : String} {importLocalEndpoints : Bool}
  {ops : List (Operation O)} {r : Registry O}

theorem grounds {made : TrackedService O → Export O → Prop}
    (h : r.Told P frameworkUuid importLocalEndpoints ops)
    (hmade : ∀ (env : Environment O) (r : Registry O) service e, P env →
      r.frameworkUuid = frameworkUuid →
      e.MadeFor env r service → made service e)
    {e : Export O} (he : e ∈ r.exports) (hspared : ∀ env, P env → ¬ env.Condemns e.serviceId) :
    r.Grounds made e := by
  induction h with
  | empty => cases he
  | @apply env henv op ops s h ih =>
    exact Session.grounds_apply h.reachable.matched h.reachable.distinct
      (fun service e => hmade env s.registry service e henv h.identity.1) op he
        (hspared env henv) ih
  | takeEffect _ heffect ih =>
    rw [(takeEffect_eq_some.mp heffect).2] at he ⊢
    exact ih he

/-- Every live export belongs to a tracked service, serves the object that is tracked and is of an
interface that the service selects, so it queues again when the factory goes; unless the transport
may call this very service illegal. -/
theorem exports_grounded (h : r.Told P frameworkUuid importLocalEndpoints ops)
    {e : Export O} (he : e ∈ r.exports) (hspared : ∀ env, P env → ¬ env.Condemns e.serviceId) :
    (∃ service interfaces, r.services.get? e.serviceId = some service ∧ e.service = service.object ∧
      selectInterfaces service.properties = .ok interfaces ∧ e.interface ∈ interfaces) ∧
    ∀ j, e.serviceId ∈
      (Session.detachExportFactory e.interface e.factory ⟨r, j⟩).registry.toBeExported := by
  obtain ⟨service, hservice, hselected, hobject⟩ :=
    h.grounds (fun _ _ _ _ _ _ hmade => hmade.service_eq) he hspared
  obtain ⟨interfaces, hselect, hmem⟩ := interfaces_of_selected hservice hselected
  refine ⟨⟨service, interfaces, hservice, hobject, hselect, hmem⟩, fun j => ?_⟩
  obtain ⟨q, heq, hq, -⟩ :=
    Session.detachExportFactory_eq
      (s := ⟨r, j⟩) h.reachable.matched.toNumbered e.interface e.factory
  rw [heq]
  refine (hq _).mpr (.inr ⟨⟨e, he, rfl, rfl⟩, ?_⟩)
  rw [Table.contains, hservice]
  rfl

/-- One interface of a service is exported and the transport cannot reach the other, which is no
reason to forget the service. -/
theorem exports_grounded_partly :
    ∃ (env : Environment .plain) (ops : List (Operation .plain))
      (r : Registry .plain) (e : Export .plain),
      r.Told (· = env) "here" false ops ∧ (∀ env', env' = env → ¬ env'.Condemns e.serviceId) ∧
      r.exports.map Export.pair = [(7, "A")] ∧ r.toBeExported = [7] ∧ e ∈ r.exports ∧
      (∃ service interfaces, r.services.get? e.serviceId = some service ∧
        e.service = service.object ∧
        selectInterfaces service.properties = .ok interfaces ∧ e.interface ∈ interfaces) := by
  let env : Environment .plain := { Environment.granting with
    connection := fun _ _ i => if i = "B" then .error (.config "unreachable") else .ok ∅ }
  let ops : List (Operation .plain) :=
    [.addExportFactory ⟨"f", "A"⟩ ∅, .addExportFactory ⟨"g", "B"⟩ ∅,
      .addService ()
      (.ofList [(Key.serviceId, "7"), (Key.objectClass, "A, B"), (Key.exportedInterfaces, "*")]),
      .reconcile]
  have htold := Told.of_run (· = env) "here" false env rfl ops
  have hpairs :
      ((Session.ofRegistry (.empty "here" false)).run env ops).registry.exports.map Export.pair =
      [(7, "A")] := by
    decide +kernel
  obtain ⟨e, he, -⟩ := List.mem_map.mp (hpairs ▸ List.mem_singleton_self (7, "A"))
  have hspared : ∀ env', env' = env → ¬ env'.Condemns e.serviceId := by
    rintro _ rfl ⟨j, i, reason, hfault⟩
    dsimp only [env] at hfault
    split at hfault <;> cases hfault
  exact ⟨env, ops, _, e, htold, hspared, hpairs, by decide +kernel, he,
    (htold.exports_grounded he hspared).1⟩

/-- The transport calls a service illegal that has an export already.  The export stays, with nobody
to queue again when its factory goes; and when the service comes back with another object, the
export still serves the old one. -/
theorem not_exports_grounded :
    ∃ (env : Environment ⟨Nat, Unit, Unit⟩) (ops later : List (Operation ⟨Nat, Unit, Unit⟩))
      (r r' : Registry ⟨Nat, Unit, Unit⟩),
      r.Told (· = env) "here" false ops ∧ r'.Told (· = env) "here" false (ops ++ later) ∧
      (∃ e ∈ r.exports, r.services.get? e.serviceId = none ∧
        (Session.detachExportFactory e.interface e.factory ⟨r, []⟩).registry.toBeExported = []) ∧
      ∃ e ∈ r'.exports, ∃ service, r'.services.get? e.serviceId = some service ∧
        e.service ≠ service.object := by
  let env : Environment ⟨Nat, Unit, Unit⟩ := {
    configurationType := "plain"
    freshId := fun j => .ofList (List.replicate (j.newIds.length + 1) 'i')
    connection := fun _ _ i => if i = "B" then .error (.illegalArgument "unreachable") else .ok ∅
    wrap := fun _ _ _ _ => .ok ()
    proxy := fun _ _ _ => .ok () }
  let service (interfaces : String) : Properties :=
    .ofList [(Key.serviceId, "7"), (Key.objectClass, interfaces), (Key.exportedInterfaces, "*")]
  let ops : List (Operation ⟨Nat, Unit, Unit⟩) :=
    [.addExportFactory ⟨"f", "A"⟩ ∅, .addExportFactory ⟨"g", "B"⟩ ∅,
      .addService 1 (service "A, B"), .reconcile]
  let later : List (Operation ⟨Nat, Unit, Unit⟩) := [.addService 2 (service "A"), .reconcile]
  have htold := Told.of_run (· = env) "here" false env rfl ops
  have htold' := Told.of_run (· = env) "here" false env rfl (ops ++ later)
  let r := ((Session.ofRegistry (.empty "here" false)).run env ops).registry
  let r' := ((Session.ofRegistry (.empty "here" false)).run env (ops ++ later)).registry
  have hleft : (r.exports.map fun e => ((r.services.get? e.serviceId).isNone,
      (Session.detachExportFactory e.interface e.factory ⟨r, []⟩).registry.toBeExported)) =
        [(true, [])] := by decide +kernel
  have hstale : (r'.exports.map fun e =>
      (e.service, (r'.services.get? e.serviceId).map TrackedService.object)) =
        [(1, some 2)] := by decide +kernel
  refine ⟨env, ops, later, r, r', htold, htold', ?_, ?_⟩
  · obtain ⟨e, he, heq⟩ :=
      List.mem_map.mp (hleft ▸ List.mem_singleton_self (true, ([] : List ServiceId)))
    obtain ⟨hnone, hqueue⟩ := Prod.mk.inj heq
    exact ⟨e, he, Option.isNone_iff_eq_none.mp hnone, hqueue⟩
  · obtain ⟨e, he, heq⟩ := List.mem_map.mp (hstale ▸ List.mem_singleton_self (1, some 2))
    obtain ⟨hold, hnew⟩ := Prod.mk.inj heq
    obtain ⟨service, hservice, hobject⟩ := Option.map_eq_some_iff.mp hnew
    exact ⟨e, he, service, hservice, by simp [hold, hobject]⟩

end Told

end Registry

end RemoteServices
