import RemoteServices.Proofs.Known

/-!
# Which services are tracked

A service is tracked from the time that it is added until it is removed, or until a pass forgets it.
`Session.tracks_apply` says what one operation does to a single service, and
`Registry.Told.registered` that the properties of a tracked service are those that it was added
with.
-/
namespace RemoteServices

variable {O : Objects}

/-- A service of this number is removed, if it is there. -/
def Operation.RemovesService (serviceId : ServiceId) : Operation O → Prop
  | .removeService p => p.int64? Key.serviceId = some serviceId
  | .clear => True
  | _ => False

namespace Session

open Registry

/-- What is tracked under a number after an operation. -/
inductive Tracks (env : Environment O) (op : Operation O) (r : Registry O) (serviceId : ServiceId) :
    Option (TrackedService O) → Prop
  | unchanged (hop : ¬ op.RemovesService serviceId) :
    Tracks env op r serviceId (r.services.get? serviceId)
  | added {object : O.Service} {p : Properties} (hop : op = .addService object p)
    (hid : exportableId? p = some serviceId) (hnew : r.services.get? serviceId = none) :
    Tracks env op r serviceId (some ⟨object, p⟩)
  | removed (hop : op.RemovesService serviceId) : Tracks env op r serviceId none
  | forgotten
    (h : r.selected serviceId = [] ∨
      ∃ j i reason, env.connection j serviceId i = .error (.illegalArgument reason)) :
    Tracks env op r serviceId none

variable {s : Session O}

theorem tracks_apply (hmatched : s.registry.Matched) (hdistinct : s.registry.Distinct)
    (env : Environment O) (op : Operation O) (serviceId : ServiceId) :
    Tracks env op s.registry serviceId ((s.apply env op).registry.services.get? serviceId) := by
  have hunchanged {op : Operation O} {r : Registry O} (hop : ¬ op.RemovesService serviceId)
      (h : r.services = s.registry.services) :
      Tracks env op s.registry serviceId (r.services.get? serviceId) := by
    rw [h]
    exact .unchanged hop
  have hside {op : Operation O} {r : Registry O} (hop : ¬ op.RemovesService serviceId)
      (h : r.exportSide = s.registry.exportSide) :
      Tracks env op s.registry serviceId (r.services.get? serviceId) :=
    hunchanged hop (congrArg ExportSide.services h)
  have hdetach (name : String) (factory : Factory) :
      (s.detachExportFactory name factory).registry.services = s.registry.services := by
    obtain ⟨q, heq, -⟩ := detachExportFactory_eq hmatched.toNumbered name factory
    rw [heq]
    rfl
  cases op with
  | addService object p =>
    rw [apply, modify, addService]
    split
    · exact .unchanged id
    · rename_i n hn
      split
      · exact .unchanged id
      · rename_i huntracked
        rw [queueService, Table.get?_insert]
        split
        · rename_i heq
          subst heq
          refine .added rfl hn ?_
          simpa [Table.contains] using huntracked
        · exact .unchanged id
  | removeService p =>
    cases hp : p.int64? Key.serviceId with
    | none =>
      rw [apply, removeService, hp]
      exact .unchanged (by simp [Operation.RemovesService, hp])
    | some n =>
      rw [apply, removeService_eq hmatched.toNumbered hp, Table.get?_erase]
      split
      · rename_i heq
        exact .removed (by rw [Operation.RemovesService, hp, heq])
      · rename_i hne
        exact .unchanged (by simp [Operation.RemovesService, hp, Ne.symm hne])
  | addExportFactory f p =>
    rw [apply, addExportFactory]
    dsimp only
    split
    · exact .unchanged id
    · split
      · exact .unchanged id
      · exact hunchanged id (hdetach _ _)
  | removeExportFactory f p =>
    rw [apply, removeExportFactory]
    split
    · exact hunchanged id (hdetach _ _)
    · exact .unchanged id
  | addImportFactory f p => exact hside id (exportSide_addImportFactory env f p s)
  | removeImportFactory f p => exact hside id (exportSide_removeImportFactory env f p s)
  | addEndpoint d => exact hside id (exportSide_addEndpoint s.registry d)
  | removeEndpoint d => exact hside id (exportSide_removeEndpoint d s)
  | reconcile =>
    obtain ⟨_, _, dropped, _, _, _, _, _, heq, hpass, -⟩ := reconcile_eq hmatched hdistinct env
    rw [apply, heq]
    change Tracks _ _ _ _ ((dropped.foldl Table.erase s.registry.services).get? serviceId)
    rw [get?_foldl_erase]
    split
    · rename_i hdropped
      exact .forgotten (hpass.forgotten serviceId hdropped)
    · exact .unchanged id
  | clear =>
    obtain ⟨imports, -, heq⟩ := clear_eq hmatched.toNumbered hdistinct.imports env
    rw [apply, heq]
    exact .removed trivial

theorem not_removesService_of_mem (hmatched : s.registry.Matched) (hdistinct : s.registry.Distinct)
    {env : Environment O} {op : Operation O} {e : Export O}
    (he : e ∈ (s.apply env op).registry.exports) : ¬ op.RemovesService e.serviceId := by
  intro hop
  cases op with
  | removeService p =>
    rw [apply, removeService_eq hmatched.toNumbered hop] at he
    have hkept := (List.mem_filter.mp he).2
    simp at hkept
  | clear =>
    obtain ⟨imports, -, heq⟩ := clear_eq hmatched.toNumbered hdistinct.imports env
    rw [apply, heq] at he
    cases he
  | _ => exact hop

end Session

namespace Registry

/-- The service was added, and has not been removed since. -/
def Registered (ops : List (Operation O)) (serviceId : ServiceId) (service : TrackedService O) :
    Prop :=
  exportableId? service.properties = some serviceId ∧
    ∃ earlier later, ops = earlier ++ .addService service.object service.properties :: later ∧
      ∀ op ∈ later, ¬ op.RemovesService serviceId

theorem Registered.append {ops : List (Operation O)} {serviceId : ServiceId}
    {service : TrackedService O} (h : Registered ops serviceId service) {op : Operation O}
    (hop : ¬ op.RemovesService serviceId) :
    Registered (ops ++ [op]) serviceId service := by
  obtain ⟨hid, earlier, later, rfl, hlater⟩ := h
  refine ⟨hid, earlier, later ++ [op], by simp, ?_⟩
  exact List.forall_mem_append.mpr ⟨hlater, List.forall_mem_singleton.mpr hop⟩

/-- What is tracked was registered. -/
theorem Told.registered {P : Environment O → Prop} {frameworkUuid : String}
    {importLocalEndpoints : Bool} {ops : List (Operation O)} {r : Registry O}
    (h : r.Told P frameworkUuid importLocalEndpoints ops) {serviceId : ServiceId}
    {service : TrackedService O} (hservice : r.services.get? serviceId = some service) :
    Registered ops serviceId service := by
  induction h with
  | empty => cases hservice
  | @apply env henv op ops s h ih =>
    have htracks := Session.tracks_apply h.reachable.matched h.reachable.distinct env op serviceId
    rw [hservice] at htracks
    -- Of the ways in which something can be tracked now, two leave nothing tracked.
    generalize hafter : some service = after at htracks
    cases htracks with
    | unchanged hop => exact (ih hafter.symm).append hop
    | added hop hid hnew =>
      cases hafter
      exact ⟨hid, ops, [], by rw [hop], by simp⟩
    | removed hop => cases hafter
    | forgotten h => cases hafter
  | takeEffect _ heffect ih =>
    rw [(takeEffect_eq_some.mp heffect).2] at hservice
    exact ih hservice

end Registry

end RemoteServices
