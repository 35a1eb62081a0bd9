import RemoteServices.Proofs.Books
import RemoteServices.Proofs.Grounding

/-!
# Fixed terms

Transport and factories may accept the same things all the time.  Then a pass leaves nothing to
chance: what is exported and imported after it can be read off the tracked services, the bound
factories and the known endpoints, whatever came first and whatever failed on the way.  This is
`Registry.Told.settles`.
-/
namespace RemoteServices

variable {O : Objects}

/-- What transport and factories accept, all the time. -/
structure Terms (O : Objects) where
  configurationType : String
  /-- What the transport may add to the description of an endpoint; nothing at all if it refuses the
  interface of the service. -/
  connections : ServiceId → String → Properties → Prop
  wraps : Factory → O.Service → Endpoint → Prop
  proxies : Factory → Endpoint → Prop
  /-- A factory looks neither at the new id of an endpoint nor at which of its possible additions
  the transport made. -/
  steady : ∀ {factory object serviceId frameworkUuid interface p c c'} (id id' : String),
    connections serviceId interface c → connections serviceId interface c' →
    wraps factory object
    (.make id serviceId frameworkUuid interface (endpointProperties p c configurationType)) →
    wraps factory object
    (.make id' serviceId frameworkUuid interface (endpointProperties p c' configurationType))

/-- The answers of transport and factories are those of the terms, and no service is called
illegal. -/
structure Environment.Keeps (env : Environment O) (t : Terms O) : Prop where
  configurationType : env.configurationType = t.configurationType
  connects : ∀ j serviceId interface connection,
    env.connection j serviceId interface = .ok connection →
    t.connections serviceId interface connection
  refuses : ∀ j serviceId interface fault, env.connection j serviceId interface = .error fault →
    (∀ connection, ¬ t.connections serviceId interface connection) ∧ ∀ reason,
    fault ≠ .illegalArgument reason
  wraps : ∀ j factory object d, (∃ handler, env.wrap j factory object d = .ok handler) ↔
    t.wraps factory object d
  proxies : ∀ j factory d, (∃ proxy, env.proxy j factory d = .ok proxy) ↔ t.proxies factory d

namespace Terms

/-- Transport and factory accept an interface of a service. -/
def Grants (t : Terms O) (frameworkUuid : String) (factory : Factory) (serviceId : ServiceId)
    (service : TrackedService O) (interface : String) : Prop :=
  ∃ id connection, t.connections serviceId interface connection ∧
    t.wraps factory service.object (.make id serviceId frameworkUuid interface
      (endpointProperties service.properties connection t.configurationType))

/-- The service is tracked and selects the interface, and a factory for it is bound that accepts it,
as does the transport. -/
def Exportable (t : Terms O) (r : Registry O) (serviceId : ServiceId) (interface : String) : Prop :=
  ∃ service interfaces factory, r.services.get? serviceId = some service ∧
    selectInterfaces service.properties = .ok interfaces ∧ interface ∈ interfaces ∧
    r.exportFactories.get? interface = some factory ∧
    t.Grants r.frameworkUuid factory serviceId service interface

/-- A factory for the interface of the endpoint is bound, and accepts it. -/
def Importable (t : Terms O) (r : Registry O) (d : Endpoint) : Prop :=
  ∃ factory, r.importFactories.get? d.interface = some factory ∧ t.proxies factory d

end Terms

namespace Registry

/-- Everything that can be exported and imported is, nothing else is, and what cannot be waits. -/
structure Settled (t : Terms O) (r : Registry O) : Prop where
  exports : ∀ serviceId interface, (serviceId, interface) ∈ r.exports.map Export.pair ↔
    t.Exportable r serviceId interface
  exports_nodup : (r.exports.map Export.pair).Nodup
  toBeExported : ∀ serviceId, serviceId ∈ r.toBeExported ↔ ∃ service interfaces,
    r.services.get? serviceId = some service ∧
    selectInterfaces service.properties = .ok interfaces ∧ ∃ i ∈ interfaces,
    (serviceId, i) ∉ r.exports.map Export.pair
  toBeExported_nodup : r.toBeExported.Nodup
  imports : ∀ d, d ∈ r.imports.map Import.description ↔ d ∈ r.knownEndpoints ∧ t.Importable r d
  toBeImported : ∀ d, d ∈ r.toBeImported ↔ d ∈ r.knownEndpoints ∧ ¬ t.Importable r d
  known_nodup : (r.knownEndpoints.map Endpoint.id).Nodup

/-- The registries track the same services, have the same factories and know the same endpoints. -/
structure SameGround (r r' : Registry O) : Prop where
  services : ∀ id, r'.services.get? id = r.services.get? id
  exportFactories : ∀ name, r'.exportFactories.get? name = r.exportFactories.get? name
  importFactories : ∀ name, r'.importFactories.get? name = r.importFactories.get? name
  known : ∀ d, d ∈ r'.knownEndpoints ↔ d ∈ r.knownEndpoints

/-- On the same ground, the same is exported, imported and waiting. -/
theorem Settled.perm {t : Terms O} {r r' : Registry O} (h : r.Settled t) (h' : r'.Settled t)
    (hground : r.SameGround r') (huuid : r'.frameworkUuid = r.frameworkUuid) :
    (r'.exports.map Export.pair).Perm (r.exports.map Export.pair) ∧
    r'.toBeExported.Perm r.toBeExported ∧
      (r'.imports.map Import.description).Perm (r.imports.map Import.description) ∧
      r'.toBeImported.Perm r.toBeImported := by
  have hknown {r : Registry O} (h : (r.knownEndpoints.map Endpoint.id).Nodup) :
      (r.imports.map Import.description).Nodup ∧ r.toBeImported.Nodup := by
    obtain ⟨himports, hwaiting, -⟩ := List.nodup_append.mp (List.Nodup.of_map _ h)
    exact ⟨himports, hwaiting⟩
  have hexports (serviceId : ServiceId) (i : String) :
      (serviceId, i) ∈ r'.exports.map Export.pair ↔ (serviceId, i) ∈ r.exports.map Export.pair := by
    simp only [h.exports, h'.exports, Terms.Exportable, hground.services,
      hground.exportFactories, huuid]
  have himportable (d : Endpoint) : t.Importable r' d ↔ t.Importable r d := by
    simp only [Terms.Importable, hground.importFactories]
  refine ⟨?_, ?_, ?_, ?_⟩
  · exact (List.perm_ext_iff_of_nodup h'.exports_nodup h.exports_nodup).mpr fun pair =>
      hexports pair.1 pair.2
  · refine (List.perm_ext_iff_of_nodup h'.toBeExported_nodup h.toBeExported_nodup).mpr
      fun serviceId => ?_
    simp only [h.toBeExported, h'.toBeExported, hground.services, hexports]
  · refine (List.perm_ext_iff_of_nodup (hknown h'.known_nodup).1 (hknown h.known_nodup).1).mpr
      fun d => ?_
    rw [h.imports, h'.imports, hground.known, himportable]
  · refine (List.perm_ext_iff_of_nodup (hknown h'.known_nodup).2 (hknown h.known_nodup).2).mpr
      fun d => ?_
    rw [h.toBeImported, h'.toBeImported, hground.known, himportable]

end Registry

namespace Environment.Keeps

variable {env : Environment O} {t : Terms O} {r : Registry O}

theorem not_condemns (henv : env.Keeps t) (serviceId : ServiceId) : ¬ env.Condemns serviceId := by
  rintro ⟨j, i, reason, hfault⟩
  exact (henv.refuses j serviceId i _ hfault).2 reason rfl

theorem grants (henv : env.Keeps t) {service : TrackedService O} {e : Export O}
    (h : e.MadeFor env r service) :
    t.Grants r.frameworkUuid e.factory e.serviceId service e.interface := by
  obtain ⟨i, j, connection, hconnection, hdescription⟩ := h.described
  obtain ⟨j', hhandler⟩ := h.wrapped
  have hwraps := (henv.wraps j' e.factory service.object e.description).mp ⟨_, hhandler⟩
  rw [hdescription, henv.configurationType] at hwraps
  exact ⟨env.freshId i, connection, henv.connects _ _ _ _ hconnection, hwraps⟩

theorem not_exportable (henv : env.Keeps t) {serviceId : ServiceId} {interface : String}
    (h : r.Refused env serviceId interface) : ¬ t.Exportable r serviceId interface := by
  rintro ⟨service, interfaces, factory, hservice, -, -, hbound, id, connection, hconnection, hwraps⟩
  obtain ⟨service', fault, hservice', hrefusal⟩ := h
  obtain rfl : service' = service := Option.some.inj (hservice'.symm.trans hservice)
  cases hrefusal with
  | unbound hnone =>
    rw [hnone] at hbound
    cases hbound
  | unreachable hfault => exact (henv.refuses _ _ _ _ hfault).1 connection hconnection
  | @unwrapped factory' hbound' j id' connection' hconnection' j' cause hcause =>
    obtain rfl : factory' = factory := Option.some.inj (hbound'.symm.trans hbound)
    have hsame := t.steady id id' hconnection (henv.connects _ _ _ _ hconnection') hwraps
    rw [← henv.configurationType] at hsame
    obtain ⟨handler, hhandler⟩ := (henv.wraps j' factory' service'.object _).mpr hsame
    rw [hcause] at hhandler
    cases hhandler

end Environment.Keeps

namespace Session

/-- After a pass, whatever is not exported of a service that waits has been refused, and there is
something. -/
theorem refused_reconcile {s : Session O} (hmatched : s.registry.Matched)
    (hdistinct : s.registry.Distinct) (env : Environment O) {serviceId : ServiceId}
    (hwaiting : serviceId ∈ (s.reconcile env).registry.toBeExported) :
    (∀ i ∈ (s.reconcile env).registry.selected serviceId,
      (serviceId, i) ∈ (s.reconcile env).registry.exports.map Export.pair ∨
        (s.reconcile env).registry.Refused env serviceId i) ∧
      ∃ i ∈ (s.reconcile env).registry.selected serviceId,
        (s.reconcile env).registry.Refused env serviceId i := by
  obtain ⟨created, requeued, dropped, _, _, _, _, _, heq, hpass, -⟩ :=
    reconcile_eq hmatched hdistinct env
  have hrequeued : serviceId ∈ requeued := by
    rw [heq] at hwaiting
    exact hwaiting
  have hservices : (s.reconcile env).registry.services.get? serviceId =
      s.registry.services.get? serviceId := by
    rw [heq]
    change (dropped.foldl Table.erase s.registry.services).get? serviceId = _
    rw [get?_foldl_erase, if_neg (hpass.disjoint serviceId hrequeued)]
  have hexports : (s.reconcile env).registry.exports = s.registry.exports ++
      created := by rw [heq]; rfl
  have hrefused {i : String}
      (h : (s.modify fun r => { r with toBeExported := [] }).registry.Refused env serviceId i) :
      (s.reconcile env).registry.Refused env serviceId i :=
    h.congr hservices (by rw [heq]; rfl) (by rw [heq]; rfl)
  rw [Registry.selected_congr hservices, hexports]
  refine ⟨fun i hi => ?_, ?_⟩
  · exact (hpass.tried serviceId (hpass.requeued_sublist.subset hrequeued) i hi).imp_right hrefused
  · obtain ⟨i, hi, h⟩ := hpass.waiting serviceId hrequeued
    exact ⟨i, hi, hrefused h⟩

theorem unproxied_reconcile {s : Session O} (hmatched : s.registry.Matched)
    (hdistinct : s.registry.Distinct)
    (hbooked : Registry.Booked s.registry.knownEndpoints s.registry)
    (env : Environment O) {d : Endpoint} (hd : d ∈ (s.reconcile env).registry.toBeImported)
    {factory : Factory}
    (hfactory : (s.reconcile env).registry.importFactories.get? d.interface = some factory) :
    ∃ j cause, env.proxy j factory d = .error cause := by
  obtain ⟨_, _, _, _, _, waiting, _, _, heq, -, hpass⟩ := reconcile_eq hmatched hdistinct env
  rw [heq] at hd hfactory
  exact hpass.waiting d hd factory ((hbooked.bookkeepingOf d.interface).2.2.2.trans hfactory)

end Session

namespace Registry

namespace Told

variable {t : Terms O} {frameworkUuid : String} {importLocalEndpoints : Bool}
  {ops : List (Operation O)} {r : Registry O}

theorem exportable (h : r.Told (·.Keeps t) frameworkUuid importLocalEndpoints ops)
    {e : Export O} (he : e ∈ r.exports) :
    t.Exportable r e.serviceId e.interface := by
  have hmade (env : Environment O) (r : Registry O) (service : TrackedService O)
      (e : Export O) (henv : env.Keeps t)
      (huuid : r.frameworkUuid = frameworkUuid) (hmade : e.MadeFor env r service) :
      t.Grants frameworkUuid e.factory e.serviceId service e.interface := huuid ▸ henv.grants hmade
  obtain ⟨service, hservice, hselected, hgrants⟩ := h.grounds hmade he fun env henv =>
    henv.not_condemns e.serviceId
  obtain ⟨interfaces, hselect, hmem⟩ := interfaces_of_selected hservice hselected
  refine ⟨service, interfaces, e.factory, hservice, hselect, hmem,
    h.reachable.matched.bound e he, ?_⟩
  rw [h.identity.1]
  exact hgrants

theorem accepted (h : r.Told (·.Keeps t) frameworkUuid importLocalEndpoints ops) :
    ∀ i ∈ r.imports, t.proxies i.factory i.description := by
  induction h with
  | empty => simp [Registry.empty]
  | @apply env henv op ops s h ih =>
    obtain ⟨turnover, hturns⟩ := Session.turns_apply h.reachable.matched h.reachable.distinct env op
    intro i hi
    rw [hturns.imports, List.mem_append] at hi
    rcases hi with hi | hi
    · exact ih i (List.mem_of_mem_filter hi)
    · obtain ⟨j, hproxy⟩ := hturns.made i hi
      exact (henv.proxies j i.factory i.description).mp ⟨_, hproxy⟩
  | takeEffect _ he ih =>
    rw [(takeEffect_eq_some.mp he).2]
    exact ih

/-- After a pass, everything that can be exported and imported is. -/
theorem settled {env : Environment O} (henv : env.Keeps t) {s : Session O}
    (h : s.registry.Told (·.Keeps t) frameworkUuid importLocalEndpoints ops) :
    (s.reconcile env).registry.Settled t := by
  have hmatched := h.reachable.matched
  have hdistinct := h.reachable.distinct
  have htold : (s.reconcile env).registry.Told (·.Keeps t) frameworkUuid importLocalEndpoints
      (ops ++ [.reconcile]) :=
    h.apply henv .reconcile
  have hrefused := @Session.refused_reconcile O s hmatched hdistinct env
  have hunproxied := @Session.unproxied_reconcile O s hmatched hdistinct h.reachable.booked env
  generalize (s.reconcile env).registry = r at htold hrefused hunproxied ⊢
  have hmatched' := htold.reachable.matched
  have hfull {serviceId : ServiceId} {service : TrackedService O}
      (hservice : r.services.get? serviceId = some service)
      (hidle : serviceId ∉ r.toBeExported) : r.FullyExported serviceId :=
    hmatched'.settled serviceId (by rw [Table.contains, hservice]; rfl) hidle
  have hexports (serviceId : ServiceId) (i : String) :
      (serviceId, i) ∈ r.exports.map Export.pair ↔ t.Exportable r serviceId i := by
    constructor
    · intro hmem
      obtain ⟨e, he, heq⟩ := List.mem_map.mp hmem
      cases heq
      exact htold.exportable he
    · intro hexportable
      have hgranted : ¬ r.Refused env serviceId i := fun h => henv.not_exportable h hexportable
      obtain ⟨service, interfaces, -, hservice, hselect, hi, -⟩ := hexportable
      rw [← selected_eq hservice hselect] at hi
      by_cases hwaiting : serviceId ∈ r.toBeExported
      · exact ((hrefused hwaiting).1 i hi).resolve_right hgranted
      · exact (hfull hservice hwaiting).2 i hi
  have himportable {d : Endpoint} (hd : d ∈ r.toBeImported) : ¬ t.Importable r d := by
    rintro ⟨factory, hfactory, hproxies⟩
    obtain ⟨j, cause, hcause⟩ := hunproxied hd hfactory
    obtain ⟨proxy, hproxy⟩ := (henv.proxies j factory d).mpr hproxies
    rw [hcause] at hproxy
    cases hproxy
  have himported {d : Endpoint} (hd : d ∈ r.imports.map Import.description) : t.Importable r d := by
    obtain ⟨i, hi, rfl⟩ := List.mem_map.mp hd
    exact ⟨i.factory, htold.reachable.booked.bound i hi, htold.accepted i hi⟩
  refine ⟨hexports, hmatched'.pairs, fun serviceId => ⟨fun hwaiting => ?_, ?_⟩,
    hmatched'.queue_nodup, fun d => ?_, fun d => ?_, htold.reachable.distinct⟩
  · obtain ⟨i, hi, hno⟩ := (hrefused hwaiting).2
    obtain ⟨service, hservice⟩ :=
      Option.isSome_iff_exists.mp (hmatched'.queue_tracked serviceId hwaiting)
    obtain ⟨interfaces, hselect, hmem⟩ := interfaces_of_selected hservice hi
    exact ⟨service, interfaces, hservice, hselect, i, hmem, fun h =>
      henv.not_exportable hno ((hexports _ _).mp h)⟩
  · rintro ⟨service, interfaces, hservice, hselect, i, hi, hno⟩
    by_contra hidle
    exact hno ((hfull hservice hidle).2 i (selected_eq hservice hselect ▸ hi))
  · rw [knownEndpoints, List.mem_append]
    constructor
    · exact fun hd => ⟨.inl hd, himported hd⟩
    · exact fun hd => hd.1.resolve_right fun hwaiting => himportable hwaiting hd.2
  · rw [knownEndpoints, List.mem_append]
    constructor
    · exact fun hd => ⟨.inr hd, himportable hd⟩
    · exact fun hd => hd.1.resolve_left fun himports => hd.2 (himported himports)

/-- Under fixed terms a pass settles everything: just what is tracked, selected, bound and accepted
is exported, the services of which something is missing wait, just the known endpoints are imported
that a bound factory accepts, and the others wait.  So two such registries that track the same
services, have the same factories and know the same endpoints agree in all of this. -/
theorem settles {env : Environment O} (henv : env.Keeps t) {s : Session O}
    (h : s.registry.Told (·.Keeps t) frameworkUuid importLocalEndpoints ops) :
    (s.reconcile env).registry.Settled t ∧
    ∀ (env' : Environment O) (s' : Session O) (ops' : List (Operation O)), env'.Keeps t →
      s'.registry.Told (·.Keeps t) frameworkUuid importLocalEndpoints ops' →
      (s.reconcile env).registry.SameGround (s'.reconcile env').registry →
      ((s'.reconcile env').registry.exports.map Export.pair).Perm
        ((s.reconcile env).registry.exports.map Export.pair) ∧
      (s'.reconcile env').registry.toBeExported.Perm (s.reconcile env).registry.toBeExported ∧
      ((s'.reconcile env').registry.imports.map Import.description).Perm
        ((s.reconcile env).registry.imports.map Import.description) ∧
      (s'.reconcile env').registry.toBeImported.Perm (s.reconcile env).registry.toBeImported := by
  refine ⟨h.settled henv, fun env' s' ops' henv' h' hground => ?_⟩
  refine (h.settled henv).perm (h'.settled henv') hground ?_
  exact (h'.apply henv' .reconcile).identity.1.trans (h.apply henv .reconcile).identity.1.symm

private theorem services_ext {services services' : Table ServiceId (TrackedService .plain)}
    (h : (services.entries.map fun e => (e.1, e.2.properties)) = services'.entries.map fun e =>
      (e.1, e.2.properties)) :
    services = services' := by
  obtain ⟨entries⟩ := services
  obtain ⟨entries'⟩ := services'
  refine congrArg Table.mk (List.map_injective_iff.mpr ?_ h)
  rintro ⟨id, ⟨⟩, p⟩ ⟨id', ⟨⟩, p'⟩ heq
  cases heq
  rfl

/-- The factory of `B` refuses, the transport does not reach `C`, and one proxy fails.  In the first
run all factories are there from the beginning; in the second one the factory of `A` comes late, so
other exports come first. -/
theorem settles_late :
    ∃ (t : Terms .plain) (env : Environment .plain) (s s' : Session .plain)
      (ops ops' : List (Operation .plain)),
      env.Keeps t ∧ s.registry.Told (·.Keeps t) "here" false ops ∧
      s'.registry.Told (·.Keeps t) "here" false ops' ∧
      (s.reconcile env).registry.Settled t ∧ (s.reconcile env).registry.toBeExported = [7] ∧
      (s.reconcile env).registry.exports.map Export.pair = [(7, "A"), (8, "D")] ∧
      (s'.reconcile env).registry.exports.map Export.pair = [(8, "D"), (7, "A")] ∧
      (s.reconcile env).registry.imports.map Import.endpointId = ["x"] ∧
      (s'.reconcile env).registry.toBeImported.Perm (s.reconcile env).registry.toBeImported := by
  let t : Terms .plain := {
    configurationType := "plain"
    connections := fun _ i c => i ≠ "C" ∧ c = ∅
    wraps := fun f _ _ => f.serviceName ≠ "B"
    proxies := fun _ d => d.id ≠ "z"
    steady := fun _ _ _ _ h => h }
  let env : Environment .plain := { Environment.granting with
    connection := fun _ _ i => if i = "C" then .error (.config "unreachable") else .ok ∅
    wrap := fun _ f _ _ => if f.serviceName = "B" then .error "refused" else .ok ()
    proxy := fun _ _ d => if d.id = "z" then .error "refused" else .ok () }
  have henv : env.Keeps t := by
    refine ⟨rfl, fun j serviceId i c h => ?_, fun j serviceId i fault h => ?_,
      fun j f object d => ?_, fun j f d => ?_⟩
    · dsimp only [env] at h
      split at h
      · cases h
      · rename_i hne
        cases h
        exact ⟨hne, rfl⟩
    · dsimp only [env] at h
      split at h
      · rename_i heq
        cases h
        exact ⟨fun c hc => hc.1 heq, fun reason hfault => by cases hfault⟩
      · cases h
    · by_cases hname : f.serviceName = "B"
      · simp [env, t, hname]
      · exact iff_of_true ⟨(), if_neg hname⟩ hname
    · by_cases hid : d.id = "z"
      · simp [env, t, hid]
      · exact iff_of_true ⟨(), if_neg hid⟩ hid
  let service (number interfaces : String) : Operation .plain := .addService ()
    (.ofList [(Key.serviceId, number), (Key.objectClass, interfaces),
      (Key.exportedInterfaces, "*")])
  let endpoint (id : String) : Operation .plain := .addEndpoint (.make id 1 "there" "A" ∅)
  let ops : List (Operation .plain) :=
    [.addExportFactory ⟨"f", "B"⟩ ∅, .addExportFactory ⟨"g", "D"⟩ ∅, .addExportFactory ⟨"h", "A"⟩ ∅,
      .addImportFactory ⟨"k", "A"⟩ ∅, service "7" "A, B, C", service "8" "D", endpoint "x",
    endpoint "z"]
  let ops' : List (Operation .plain) :=
    [endpoint "z", .addExportFactory ⟨"f", "B"⟩ ∅, .addExportFactory ⟨"g", "D"⟩ ∅,
      service "7" "A, B, C", service "8" "D", .reconcile, endpoint "x",
      .addImportFactory ⟨"k", "A"⟩ ∅, .reconcile,
    .addExportFactory ⟨"h", "A"⟩ ∅]
  let s := (Session.ofRegistry (.empty "here" false)).run env ops
  let s' := (Session.ofRegistry (.empty "here" false)).run env ops'
  have htold : s.registry.Told (·.Keeps t) "here" false ops :=
    Told.of_run _ "here" false env henv ops
  have htold' : s'.registry.Told (·.Keeps t) "here" false ops' :=
    Told.of_run _ "here" false env henv ops'
  have hground : (s.reconcile env).registry.SameGround (s'.reconcile env).registry := by
    have hservices : (s'.reconcile env).registry.services = (s.reconcile env).registry.services :=
      services_ext (by decide +kernel)
    have hexports : (s'.reconcile env).registry.exportFactories =
        (s.reconcile env).registry.exportFactories := by
      decide +kernel
    have himports : (s'.reconcile env).registry.importFactories =
        (s.reconcile env).registry.importFactories := by
      decide +kernel
    have hknown : (s'.reconcile env).registry.knownEndpoints =
        (s.reconcile env).registry.knownEndpoints := by
      decide +kernel
    exact ⟨fun _ => by rw [hservices], fun _ => by rw [hexports], fun _ => by rw [himports],
      fun _ => by rw [hknown]⟩
  obtain ⟨hsettled, hagree⟩ := htold.settles henv
  obtain ⟨-, -, -, hwaiting⟩ := hagree env s' ops' henv htold' hground
  exact ⟨t, env, s, s', ops, ops', henv, htold, htold', hsettled, by decide +kernel,
    by decide +kernel, by decide +kernel, by decide +kernel, hwaiting⟩

end Told

end Registry

end RemoteServices
