import RemoteServices.Proofs.TearDown

/-!
# A pass over the services that wait

Whatever factories and transport answer, a pass only adds exports, forgets services and queues
services again.  `exportAll_eq` says what the registry is after it, and `ExportPass` what the new
exports and the two kinds of services are, and for which reasons (`Refusal`) something is not
exported.
-/
namespace RemoteServices

variable {O : Objects}

/-- The endpoints that export factories made, the latest first. -/
def Journal.made (j : Journal) : List (Factory × Endpoint) :=
  j.filterMap fun
    | .createEndpoint f d true => some (f, d)
    | _ => none

theorem Journal.made_append (i j : Journal) : Journal.made (i ++ j) = i.made ++ j.made :=
  List.filterMap_append

theorem Journal.mem_made {j : Journal} {f : Factory} {d : Endpoint} :
    (f, d) ∈ j.made ↔ .createEndpoint f d true ∈ j := by
  refine ⟨fun h => ?_, fun h => List.mem_filterMap.mpr ⟨_, h, rfl⟩⟩
  obtain ⟨c, hc, hcall⟩ := List.mem_filterMap.mp h
  cases c with
  | createEndpoint g e created =>
    cases created with
    | true =>
      cases hcall
      exact hc
    | false => cases hcall
  | _ => cases hcall

theorem Journal.made_sublist (j : Journal) : (j.made.map fun m => m.2.id).Sublist j.newIds := by
  induction j with
  | nil => exact .slnil
  | cons c j ih =>
    cases c with
    | createEndpoint f d created =>
      cases created with
      | true => exact ih.cons_cons d.id
      | false => exact ih.cons d.id
    | _ => exact ih

/-- The service and the interface that a call wants exported, if it is made for that. -/
def Call.asked? : Call → Option (ServiceId × String)
  | .connection serviceId interface => some (serviceId, interface)
  | .createEndpoint _ d _ => some (d.serviceId, d.interface)
  | _ => none

/-- The service and the interface that are exported. -/
def Export.pair (e : Export O) : ServiceId × String := (e.serviceId, e.interface)

/-- How an export comes about: its factory is the bound one, and its endpoint has a fresh id and is
described by the service and the transport. -/
structure Export.MadeFor (env : Environment O) (r : Registry O) (service : TrackedService O)
    (e : Export O) : Prop where
  service_eq : e.service = service.object
  bound : r.exportFactories.get? e.interface = some e.factory
  described : ∃ i j connection, env.connection j e.serviceId e.interface = .ok connection ∧
    e.description = .make (env.freshId i) e.serviceId r.frameworkUuid e.interface
      (endpointProperties service.properties connection env.configurationType)
  wrapped : ∃ j, env.wrap j e.factory service.object e.description = .ok e.handler

theorem Export.MadeFor.description_serviceId {env : Environment O} {r : Registry O}
    {service : TrackedService O} {e : Export O} (h : e.MadeFor env r service) :
    e.description.serviceId = e.serviceId := by
  obtain ⟨_, _, _, -, he⟩ := h.described
  rw [he]
  rfl

/-- Why an interface of a service is not exported: its factory is missing, or the transport or the
factory fails. -/
inductive Refusal (env : Environment O) (r : Registry O) (serviceId : ServiceId)
    (service : TrackedService O) (interface : String) : RemoteError → Prop
  | unbound (h : r.exportFactories.get? interface = none) :
    Refusal env r serviceId service interface (.factoryUnavailable interface)
  | unreachable {j : Journal} {fault : RemoteError}
    (h : env.connection j serviceId interface = .error fault) :
    Refusal env r serviceId service interface fault
  | unwrapped {factory : Factory} (hbound : r.exportFactories.get? interface = some factory)
    {j : Journal} {id : String} {connection : Properties}
    (hconnection : env.connection j serviceId interface = .ok connection) {j' : Journal}
    {cause : String}
    (h : env.wrap j' factory service.object (.make id serviceId r.frameworkUuid interface
      (endpointProperties service.properties connection env.configurationType)) = .error cause) :
    Refusal env r serviceId service interface (.exportFailed interface cause)

theorem Refusal.congr {env : Environment O} {r r' : Registry O} {serviceId : ServiceId}
    {service : TrackedService O} {interface : String} {fault : RemoteError}
    (h : Refusal env r serviceId service interface fault)
    (hfactories : r'.exportFactories = r.exportFactories)
    (huuid : r'.frameworkUuid = r.frameworkUuid) :
    Refusal env r' serviceId service interface fault := by
  cases h with
  | unbound h => exact .unbound (hfactories ▸ h)
  | unreachable h => exact .unreachable h
  | unwrapped hbound hconnection h => exact .unwrapped (hfactories ▸ hbound) hconnection (huuid ▸ h)

namespace Registry

/-- What is there with new exports. -/
def withExports (created : List (Export O)) (r : Registry O) : Registry O :=
  { r with
    exports := r.exports ++ created
    nextExportId := r.nextExportId + created.length
    effects := r.effects ++ created.map fun e => .publish e.description }

@[simp] theorem withExports_nil (r : Registry O) : r.withExports [] = r := by simp [withExports]

theorem withExports_withExports (r : Registry O) (es fs : List (Export O)) :
    (r.withExports es).withExports fs = r.withExports (es ++ fs) := by
  simp [withExports, Nat.add_assoc]

theorem isExported_iff {r : Registry O} {serviceId : ServiceId} {interface : String} :
    r.isExported serviceId interface ↔ (serviceId, interface) ∈ r.exports.map Export.pair := by
  simp [isExported, Export.pair]

/-- The interfaces of a service that are to be exported; none when it is not tracked or its
properties cannot be used. -/
def selected (r : Registry O) (serviceId : ServiceId) : List String :=
  match r.services.get? serviceId with
  | none => []
  | some service => (selectInterfaces service.properties).toOption.getD []

theorem selected_eq {r : Registry O} {serviceId : ServiceId} {service : TrackedService O}
    {interfaces : List String} (hservice : r.services.get? serviceId = some service)
    (hselect : selectInterfaces service.properties = .ok interfaces) :
    r.selected serviceId = interfaces := by
  simp [selected, hservice, hselect, Except.toOption]

theorem interfaces_of_selected {r : Registry O} {serviceId : ServiceId} {service : TrackedService O}
    {interface : String} (hservice : r.services.get? serviceId = some service)
    (h : interface ∈ r.selected serviceId) :
    ∃ interfaces, selectInterfaces service.properties = .ok interfaces ∧
      interface ∈ interfaces := by
  cases hselect : selectInterfaces service.properties with
  | error fault => simp [selected, hservice, hselect, Except.toOption] at h
  | ok interfaces => exact ⟨interfaces, rfl, selected_eq hservice hselect ▸ h⟩

/-- An interface of a tracked service is not exported for some reason. -/
def Refused (r : Registry O) (env : Environment O) (serviceId : ServiceId) (interface : String) :
    Prop :=
  ∃ service fault, r.services.get? serviceId = some service ∧
    Refusal env r serviceId service interface fault

/-- Nothing of a service is left to export. -/
def FullyExported (r : Registry O) (serviceId : ServiceId) : Prop :=
  r.selected serviceId ≠ [] ∧ ∀ i ∈ r.selected serviceId, (serviceId, i) ∈ r.exports.map Export.pair

end Registry

theorem illegalArgument_of_selectInterfaces {p : Properties} {fault : RemoteError}
    (h : selectInterfaces p = .error fault) : ∃ reason, fault = .illegalArgument reason := by
  rw [selectInterfaces] at h
  dsimp only at h
  split at h
  · cases h
    exact ⟨_, rfl⟩
  · split at h
    · cases h
    · split at h
      · cases h
        exact ⟨_, rfl⟩
      · cases h

theorem ne_nil_of_selectInterfaces {p : Properties} {interfaces : List String}
    (h : selectInterfaces p = .ok interfaces) : interfaces ≠ [] := by
  rw [selectInterfaces] at h
  dsimp only at h
  split at h
  · cases h
  · rename_i hne
    split at h
    · cases h
      simpa using hne
    · split at h
      · cases h
      · rename_i hne'
        cases h
        simpa using hne'

theorem sublist_of_selectInterfaces {p : Properties} {interfaces : List String}
    (h : selectInterfaces p = .ok interfaces) : interfaces.Sublist (p.list Key.objectClass) := by
  rw [selectInterfaces] at h
  dsimp only at h
  split at h
  · cases h
  · split at h
    · cases h
      exact .refl _
    · split at h
      · cases h
      · cases h
        exact List.filter_sublist

namespace Session

/-- What holds of the exports that are created from a session on, and of the calls that create
them. -/
structure Creates (env : Environment O) (s : Session O) (created : List (Export O))
    (calls : Journal) :
    Prop where
  numbers : created.map Export.exportId = List.range' s.registry.nextExportId created.length
  made : calls.made = (created.map fun e => (e.factory, e.description)).reverse
  origin : ∀ e ∈ created, ∃ service,
    s.registry.services.get? e.serviceId = some service ∧ e.MadeFor env s.registry service
  distinct : (created.map Export.pair).Nodup
  new : ∀ e ∈ created, e.pair ∉ s.registry.exports.map Export.pair
  /-- Nothing is asked for that is exported already. -/
  asked : ∀ c ∈ calls, ∃ pair, c.asked? = some pair ∧ pair ∉ s.registry.exports.map Export.pair

theorem Creates.nil (env : Environment O) (s : Session O) {calls : Journal} (h : calls.made = [])
    (hasked : ∀ c ∈ calls, ∃ pair, c.asked? = some pair ∧
      pair ∉ s.registry.exports.map Export.pair) :
    Creates env s [] calls where
  numbers := rfl
  made := h
  asked := hasked
  origin := by simp
  distinct := by simp
  new := by simp

theorem Creates.exportId_mem {env : Environment O} {s : Session O} {created : List (Export O)}
    {calls : Journal} (h : Creates env s created calls) {e : Export O} (he : e ∈ created) :
    s.registry.nextExportId ≤ e.exportId ∧
    e.exportId < s.registry.nextExportId + created.length := by
  have hmem := h.numbers ▸ List.mem_map_of_mem (f := Export.exportId) he
  exact List.mem_range'_1.mp hmem

theorem Creates.append {env : Environment O} {s s' : Session O} {es fs : List (Export O)}
    {calls calls' : Journal} (h : Creates env s es calls) (h' : Creates env s' fs calls')
    (hexports : s'.registry.exports = s.registry.exports ++ es)
    (hnext : s'.registry.nextExportId = s.registry.nextExportId + es.length)
    (hfactories : s'.registry.exportFactories = s.registry.exportFactories)
    (huuid : s'.registry.frameworkUuid = s.registry.frameworkUuid)
    (hservices : ∀ id service, s'.registry.services.get? id = some service →
      s.registry.services.get? id = some service) : Creates env s (es ++ fs) (calls' ++ calls) where
  numbers := by
    rw [List.map_append, h.numbers, h'.numbers, hnext, List.length_append]
    exact List.range'_append_1
  made := by
    rw [Journal.made_append, h.made, h'.made, List.map_append, List.reverse_append]
  origin := by
    intro e he
    rcases List.mem_append.mp he with he | he
    · exact h.origin e he
    · obtain ⟨service, hs, hm⟩ := h'.origin e he
      exact ⟨service, hservices _ _ hs, hm.service_eq, hfactories ▸ hm.bound,
        huuid ▸ hm.described, hm.wrapped⟩
  distinct := by
    rw [List.map_append]
    refine List.nodup_append.mpr ⟨h.distinct, h'.distinct, ?_⟩
    rintro _ ha _ hb rfl
    obtain ⟨f, hf, rfl⟩ := List.mem_map.mp hb
    refine h'.new f hf ?_
    rw [hexports, List.map_append]
    exact List.mem_append_right _ ha
  new := by
    intro e he
    rcases List.mem_append.mp he with he | he
    · exact h.new e he
    · have hnew := h'.new e he
      rw [hexports, List.map_append] at hnew
      exact fun hmem => hnew (List.mem_append_left _ hmem)
  asked := by
    intro c hc
    rcases List.mem_append.mp hc with hc | hc
    · obtain ⟨pair, hpair, hnew⟩ := h'.asked c hc
      rw [hexports, List.map_append] at hnew
      exact ⟨pair, hpair, fun hmem => hnew (List.mem_append_left _ hmem)⟩
    · exact h.asked c hc

/-- In these calls, made after those of `j`, an export was tried: the transport was asked for it
and, unless it refused, the factory was. -/
def Tried (env : Environment O) (j calls : Journal) (factory : Factory) (serviceId : ServiceId)
    (interface : String) : Prop :=
  ∃ later earlier, calls = later ++ .connection serviceId interface :: earlier ∧
    ((∃ fault, env.connection (earlier ++ j) serviceId interface = .error fault) ∨
      ∃ others d created, later = others ++ [.createEndpoint factory d created] ∧
        d.serviceId = serviceId ∧ d.interface = interface)

section

variable {env : Environment O} {j calls : Journal} {factory : Factory}
  {serviceId : ServiceId} {interface : String}

theorem Tried.before (h : Tried env j calls factory serviceId interface) (calls' : Journal) :
    Tried env j (calls' ++ calls) factory serviceId interface := by
  obtain ⟨later, earlier, rfl, hanswer⟩ := h
  refine ⟨calls' ++ later, earlier, (List.append_assoc ..).symm, hanswer.imp_right ?_⟩
  rintro ⟨others, d, created, rfl, hd⟩
  exact ⟨calls' ++ others, d, created, (List.append_assoc ..).symm, hd⟩

theorem Tried.after {calls' : Journal}
    (h : Tried env (calls ++ j) calls' factory serviceId interface) :
    Tried env j (calls' ++ calls) factory serviceId interface := by
  obtain ⟨later, earlier, rfl, hanswer⟩ := h
  exact ⟨later, earlier ++ calls, by simp, by rwa [List.append_assoc]⟩

end

/-- What it takes to try an interface: nothing without a factory, else questions about this
interface alone. -/
structure Asks (env : Environment O) (s : Session O) (serviceId : ServiceId)
    (interface : String) (calls : Journal) :
    Prop where
  pair : ∀ c ∈ calls, c.asked? = some (serviceId, interface)
  tried : ∀ factory, s.registry.exportFactories.get? interface = some factory →
    Tried env s.journal calls factory serviceId interface

/-- An interface is exported, or the registry stays as it is. -/
theorem exportInterface_cases (env : Environment O) {serviceId : ServiceId}
    {service : TrackedService O} {interface : String} {s : Session O}
    (hs : s.registry.services.get? serviceId = some service)
    (hnew : ¬ s.registry.isExported serviceId interface) :
    ∃ calls, Asks env s serviceId interface calls ∧
      ((∃ e, exportInterface env serviceId service interface s =
          (.ok (), ⟨s.registry.withExports [e], calls ++ s.journal⟩) ∧
        Creates env s [e] calls ∧ e.pair = (serviceId, interface)) ∨
      ∃ fault, exportInterface env serviceId service interface s =
          (.error fault, ⟨s.registry, calls ++ s.journal⟩) ∧ Creates env s [] calls ∧
        Refusal env s.registry serviceId service interface fault) := by
  have hnew : (serviceId, interface) ∉ s.registry.exports.map Export.pair := fun hmem =>
    hnew (Registry.isExported_iff.mpr hmem)
  have hasked {calls : Journal} (h : ∀ c ∈ calls, c.asked? = some (serviceId, interface)) :
      ∀ c ∈ calls, ∃ pair, c.asked? = some pair ∧ pair ∉ s.registry.exports.map Export.pair :=
    fun c hc => ⟨_, h c hc, hnew⟩
  rw [exportInterface]
  split
  · rename_i hfactory
    exact ⟨[], ⟨by simp, by simp [hfactory]⟩,
      .inr ⟨_, rfl, .nil env s rfl (by simp), .unbound hfactory⟩⟩
  · rename_i factory hfactory
    have hbound {factory' : Factory}
        (h : s.registry.exportFactories.get? interface = some factory') : factory' = factory :=
      Option.some.inj (h.symm.trans hfactory)
    dsimp only
    split
    · rename_i fault hfault
      have hpair : ∀ c ∈ [Call.connection serviceId interface],
          c.asked? = some (serviceId, interface) := by
        simp [Call.asked?]
      exact ⟨_, ⟨hpair, fun _ _ => ⟨[], [], rfl, .inl ⟨fault, hfault⟩⟩⟩,
        .inr ⟨_, rfl, .nil env s rfl (hasked hpair), .unreachable hfault⟩⟩
    · rename_i connection hconnection
      -- Whatever the factory answers, the same two calls are made.
      have hasks (created : Bool) (id : String) (p : Properties) : Asks env s serviceId interface
          [.createEndpoint factory
            (.make id serviceId s.registry.frameworkUuid interface p) created,
              .connection serviceId interface] := by
        refine ⟨by simp [Call.asked?, Endpoint.make], fun factory' hfactory' => ?_⟩
        exact ⟨_, [], rfl, .inr ⟨[], _, created, by rw [hbound hfactory'], rfl, rfl⟩⟩
      split
      · rename_i cause hcause
        exact ⟨_, hasks false _ _, .inr ⟨_, rfl, .nil env s rfl (hasked (hasks false _ _).pair),
          .unwrapped hfactory hconnection hcause⟩⟩
      · rename_i handler hhandler
        refine ⟨_, hasks true _ _,
          .inl ⟨⟨s.registry.nextExportId, serviceId, service.object, _,
            handler, factory⟩, rfl, ?_, rfl⟩⟩
        exact {
          numbers := rfl
          made := rfl
          origin := by
            simp only [List.mem_singleton, forall_eq]
            exact ⟨service, hs, rfl, hfactory, ⟨_, _, connection, hconnection, rfl⟩, ⟨_, hhandler⟩⟩
          distinct := List.nodup_singleton _
          new := by
            simp only [List.mem_singleton, forall_eq]
            exact hnew
          asked := hasked (hasks true _ _).pair }

theorem Outcome.cons_error (fault : RemoteError) (others : Outcome) :
    (Outcome.cons (.error fault) others).failure = none →
      (Outcome.cons (.error fault) others).waiting = true := by
  cases fault <;> simp [Outcome.cons]

/-- What the attempt to export interfaces of a service comes to. -/
structure Attempt (env : Environment O) (serviceId : ServiceId) (service : TrackedService O)
    (interfaces : List String) (s : Session O) (outcome : Outcome) (created : List (Export O))
    (calls : Journal) : Prop where
  creates : Creates env s created calls
  ordered : (created.map Export.pair).Sublist (interfaces.map fun i => (serviceId, i))
  complete : outcome.failure = none → outcome.waiting = false →
    ∀ i ∈ interfaces, (serviceId, i) ∈ (s.registry.exports ++ created).map Export.pair
  tried : ∀ i ∈ interfaces, (serviceId, i) ∈ (s.registry.exports ++ created).map Export.pair ∨
    ∃ fault, Refusal env s.registry serviceId service i fault
  waiting : outcome.waiting → ∃ i ∈ interfaces, ∃ fault,
    Refusal env s.registry serviceId service i fault
  failure : ∀ fault, outcome.failure = some fault → ∃ i ∈ interfaces,
    Refusal env s.registry serviceId service i fault
  tries : ∀ i ∈ interfaces, ∀ factory, s.registry.exportFactories.get? i = some factory →
    (serviceId, i) ∈ s.registry.exports.map Export.pair ∨
    Tried env s.journal calls factory serviceId i

theorem Attempt.nil (env : Environment O) (serviceId : ServiceId) (service : TrackedService O)
    (s : Session O) :
    Attempt env serviceId service [] s .complete [] [] where
  creates := .nil env s rfl (by simp)
  ordered := .slnil
  complete := by simp
  tried := by simp
  waiting := by simp [Outcome.complete]
  failure := by simp [Outcome.complete]
  tries := by simp

section

variable {env : Environment O} {serviceId : ServiceId} {service : TrackedService O}
  {interface : String} {interfaces : List String} {s : Session O} {outcome : Outcome}
  {created : List (Export O)} {calls calls' : Journal}

theorem Attempt.skip (h : Attempt env serviceId service interfaces s outcome created calls)
    (hdone : s.registry.isExported serviceId interface) :
    Attempt env serviceId service (interface :: interfaces) s outcome created calls := by
  have hmem : (serviceId, interface) ∈ (s.registry.exports ++ created).map Export.pair := by
    rw [List.map_append]
    exact List.mem_append_left _ (Registry.isExported_iff.mp hdone)
  exact {
    creates := h.creates
    ordered := h.ordered.cons _
    complete hf hw := List.forall_mem_cons.mpr ⟨hmem, h.complete hf hw⟩
    tried := List.forall_mem_cons.mpr ⟨.inl hmem, h.tried⟩
    waiting hw := List.exists_mem_cons_of_exists (h.waiting hw)
    failure fault hf := List.exists_mem_cons_of_exists (h.failure fault hf)
    tries :=
      List.forall_mem_cons.mpr ⟨fun _ _ => .inl (Registry.isExported_iff.mp hdone), h.tries⟩ }

theorem Attempt.export {e : Export O}
    (h : Attempt env serviceId service interfaces ⟨s.registry.withExports [e],
      calls ++ s.journal⟩ outcome created calls')
    (hasks : Asks env s serviceId interface calls) (hcreates : Creates env s [e] calls)
    (hpair : e.pair = (serviceId, interface)) :
    Attempt env serviceId service (interface :: interfaces) s outcome (e :: created)
      (calls' ++ calls) := by
  have hmem : (serviceId, interface) ∈ (s.registry.exports ++ e :: created).map Export.pair := by
    rw [← hpair]
    exact List.mem_map_of_mem (by simp)
  have hexports : s.registry.exports ++ e :: created = s.registry.exports ++
      [e] ++ created := by simp
  exact {
    creates := hcreates.append h.creates rfl rfl rfl rfl fun _ _ h => h
    ordered := by
      rw [List.map_cons, hpair]
      exact h.ordered.cons_cons _
    complete hf hw := by
      refine List.forall_mem_cons.mpr ⟨hmem, ?_⟩
      rw [hexports]
      exact h.complete hf hw
    tried := by
      refine List.forall_mem_cons.mpr ⟨.inl hmem, fun i hi => ?_⟩
      rw [hexports]
      exact (h.tried i hi).imp_right fun ⟨fault, hrefusal⟩ => ⟨fault, hrefusal.congr rfl rfl⟩
    waiting hw := by
      obtain ⟨i, hi, fault, hrefusal⟩ := h.waiting hw
      exact ⟨i, List.mem_cons_of_mem _ hi, fault, hrefusal.congr rfl rfl⟩
    failure fault hf := by
      obtain ⟨i, hi, hrefusal⟩ := h.failure fault hf
      exact ⟨i, List.mem_cons_of_mem _ hi, hrefusal.congr rfl rfl⟩
    tries := by
      refine List.forall_mem_cons.mpr
        ⟨fun factory hbound => .inr ((hasks.tried factory hbound).before _), ?_⟩
      intro i hi factory hbound
      rcases h.tries i hi factory hbound with hmem | htried
      · rw [Registry.withExports, List.map_append] at hmem
        rcases List.mem_append.mp hmem with hmem | hmem
        · exact .inl hmem
        -- The interface may stand in the list twice, and has just been exported.
        · obtain ⟨-, rfl⟩ := Prod.mk.inj ((List.mem_singleton.mp hmem).trans hpair)
          exact .inr ((hasks.tried factory hbound).before _)
      · exact .inr htried.after }

theorem Attempt.fail {fault : RemoteError}
    (h : Attempt env serviceId service interfaces ⟨s.registry,
      calls ++ s.journal⟩ outcome created calls')
    (hasks : Asks env s serviceId interface calls) (hcreates : Creates env s [] calls)
    (hrefusal : Refusal env s.registry serviceId service interface fault) :
    Attempt env serviceId service (interface :: interfaces) s (.cons (.error fault) outcome) created
      (calls' ++ calls) where
  creates := hcreates.append h.creates (by simp) rfl rfl rfl fun _ _ h => h
  ordered := h.ordered.cons _
  complete hf hw := by
    rw [Outcome.cons_error _ _ hf] at hw
    cases hw
  tried := List.forall_mem_cons.mpr ⟨.inr ⟨fault, hrefusal⟩, h.tried⟩
  waiting _ := ⟨interface, List.mem_cons_self, fault, hrefusal⟩
  failure fault' hf := by
    -- A missing factory leaves the failure of the others; every other fault is the one that counts.
    cases fault with
    | factoryUnavailable name => exact List.exists_mem_cons_of_exists (h.failure fault' hf)
    | _ =>
      cases hf
      exact ⟨interface, List.mem_cons_self, hrefusal⟩
  tries := by
    refine List.forall_mem_cons.mpr
      ⟨fun factory hbound => .inr ((hasks.tried factory hbound).before _), ?_⟩
    exact fun i hi factory hbound => (h.tries i hi factory hbound).imp_right Tried.after

end

theorem exportInterfaces_spec (env : Environment O) {serviceId : ServiceId}
    {service : TrackedService O} (interfaces : List String) {s : Session O}
    (hs : s.registry.services.get? serviceId = some service) :
    ∃ outcome created calls, exportInterfaces env serviceId service interfaces s =
        (outcome, ⟨s.registry.withExports created, calls ++ s.journal⟩) ∧
      Attempt env serviceId service interfaces s outcome created calls := by
  induction interfaces generalizing s with
  | nil => exact ⟨.complete, [], [], by simp [exportInterfaces], .nil env serviceId service s⟩
  | cons interface interfaces ih =>
    rw [exportInterfaces]
    by_cases hdone : s.registry.isExported serviceId interface
    · obtain ⟨outcome, created, calls, heq, hattempt⟩ := ih hs
      exact ⟨outcome, created, calls, by rw [if_pos hdone, heq], hattempt.skip hdone⟩
    · rw [if_neg hdone]
      obtain ⟨calls, hasks, ⟨e, heq, hcreates, hpair⟩ | ⟨fault, heq, hcreates, hrefusal⟩⟩ :=
        exportInterface_cases env hs hdone
      · obtain ⟨outcome, created, calls', heq', hattempt⟩ :=
          ih (s := ⟨s.registry.withExports [e], calls ++ s.journal⟩) hs
        refine ⟨outcome, e :: created, calls' ++ calls, ?_, hattempt.export hasks hcreates hpair⟩
        rw [heq]
        simp [heq', Outcome.cons, Registry.withExports_withExports]
      · obtain ⟨outcome, created, calls', heq', hattempt⟩ :=
          ih (s := ⟨s.registry, calls ++ s.journal⟩) hs
        refine ⟨.cons (.error fault) outcome, created, calls' ++ calls, ?_,
          hattempt.fail hasks hcreates hrefusal⟩
        rw [heq]
        simp only [heq', List.append_assoc]

theorem get?_foldl_erase (dropped : List ServiceId) (services : Table ServiceId (TrackedService O))
    (id : ServiceId) :
    (dropped.foldl Table.erase services).get? id = if id ∈ dropped then
      none else services.get? id := by
  induction dropped generalizing services with
  | nil => simp
  | cons n dropped ih =>
    rw [List.foldl_cons, ih, Table.get?_erase]
    by_cases hn : id = n <;> by_cases hd : id ∈ dropped <;> simp [hn, hd]

end Session

namespace Registry

/-- What a pass leaves: new exports, some services forgotten and some queued again. -/
def afterExports (created : List (Export O)) (requeued dropped : List ServiceId) (r : Registry O) :
    Registry O :=
  { r.withExports created with
    services := dropped.foldl Table.erase r.services
    toBeExported := r.toBeExported ++ requeued }

theorem selected_congr {r r' : Registry O} {id : ServiceId}
    (h : r.services.get? id = r'.services.get? id) : r.selected id = r'.selected id := by
  rw [selected, selected, h]

theorem Refused.congr {env : Environment O} {r r' : Registry O}
    {id : ServiceId} {interface : String} (h : r.Refused env id interface)
    (hservices : r'.services.get? id = r.services.get? id)
    (hfactories : r'.exportFactories = r.exportFactories)
    (huuid : r'.frameworkUuid = r.frameworkUuid) :
    r'.Refused env id interface := by
  obtain ⟨service, fault, hservice, hrefusal⟩ := h
  exact ⟨service, fault, hservices.trans hservice, hrefusal.congr hfactories huuid⟩

theorem FullyExported.mono {r r' : Registry O} {id : ServiceId} (h : r.FullyExported id)
    (hservices : r.services.get? id = r'.services.get? id)
    (hexports : ∀ e ∈ r.exports, e ∈ r'.exports) : r'.FullyExported id := by
  rw [FullyExported, ← selected_congr hservices]
  refine ⟨h.1, fun i hi => ?_⟩
  obtain ⟨e, he, hpair⟩ := List.mem_map.mp (h.2 i hi)
  exact hpair ▸ List.mem_map_of_mem (hexports e he)

end Registry

namespace Session

/-- What a pass over `queue` comes to. -/
structure ExportPass (env : Environment O) (queue : List ServiceId) (s : Session O)
    (created : List (Export O)) (requeued dropped : List ServiceId) (calls : Journal) : Prop where
  creates : Creates env s created calls
  /-- The new exports come in the order of the queue, those of one service in the order in which it
  advertises them. -/
  ordered : (created.map Export.pair).Sublist
    (queue.flatMap fun id => (s.registry.selected id).map fun i => (id, i))
  requeued_sublist : requeued.Sublist queue
  dropped_sublist : dropped.Sublist queue
  disjoint : ∀ id ∈ requeued, id ∉ dropped
  /-- A service that neither queues again nor is forgotten has all of its exports. -/
  done : ∀ id ∈ queue, id ∉ requeued → id ∉ dropped →
    (s.registry.afterExports created requeued dropped).FullyExported id
  /-- The failure of one interface keeps none of the others from being exported. -/
  tried : ∀ id ∈ queue, ∀ i ∈ s.registry.selected id,
    (id, i) ∈ (s.registry.exports ++ created).map Export.pair ∨ s.registry.Refused env id i
  waiting : ∀ id ∈ requeued, ∃ i ∈ s.registry.selected id, s.registry.Refused env id i
  /-- A service is forgotten only when its properties or the transport say so. -/
  forgotten : ∀ id ∈ dropped, s.registry.selected id = [] ∨
    ∃ j i reason, env.connection j id i = .error (.illegalArgument reason)
  /-- Whatever failed before, each interface that has a factory is tried with it, unless it is
  exported. -/
  tries : ∀ id ∈ queue, ∀ i ∈ s.registry.selected id, ∀ factory,
    s.registry.exportFactories.get? i = some factory →
    (id, i) ∈ s.registry.exports.map Export.pair ∨ Tried env s.journal calls factory id i

/-- A service without interfaces to export cannot be exported; of another one each interface is
tried. -/
theorem exportService_spec (env : Environment O) (serviceId : ServiceId) (s : Session O) :
    ∃ outcome created calls, exportService env serviceId s =
        (outcome, ⟨s.registry.withExports created, calls ++ s.journal⟩) ∧
      ((s.registry.selected serviceId = [] ∧ created = [] ∧ calls = [] ∧
          ∃ reason, outcome.failure = some (.illegalArgument reason)) ∨
        ∃ service, s.registry.services.get? serviceId = some service ∧
          s.registry.selected serviceId ≠ [] ∧
          Attempt env serviceId service
            (s.registry.selected serviceId) s outcome created calls) := by
  have hnone : s = ⟨s.registry.withExports [], [] ++ s.journal⟩ := by
    rw [Registry.withExports_nil, List.nil_append]
  rw [exportService]
  split
  · rename_i hservice
    exact ⟨_, [], [], Prod.ext rfl hnone,
      .inl ⟨by simp [Registry.selected, hservice], rfl, rfl, _, rfl⟩⟩
  · rename_i service hservice
    split
    · rename_i fault hfault
      obtain ⟨reason, rfl⟩ := illegalArgument_of_selectInterfaces hfault
      refine ⟨_, [], [], Prod.ext rfl hnone, .inl ⟨?_, rfl, rfl, reason, rfl⟩⟩
      simp [Registry.selected, hservice, hfault, Except.toOption]
    · rename_i interfaces hinterfaces
      have hselected := Registry.selected_eq hservice hinterfaces
      obtain ⟨outcome, created, calls, heq, hattempt⟩ :=
        exportInterfaces_spec env interfaces hservice
      refine ⟨outcome, created, calls, heq, .inr ⟨service, hservice, ?_, hselected ▸ hattempt⟩⟩
      rw [hselected]
      exact ne_nil_of_selectInterfaces hinterfaces

theorem Attempt.pass {env : Environment O} {serviceId : ServiceId} {service : TrackedService O}
    {s : Session O} {outcome : Outcome} {created : List (Export O)} {calls : Journal}
    {requeued dropped : List ServiceId}
    (h : Attempt env serviceId service (s.registry.selected serviceId) s outcome created calls)
    (hservice : s.registry.services.get? serviceId = some service)
    (hrequeued : requeued.Sublist [serviceId]) (hdropped : dropped.Sublist [serviceId])
    (hdisjoint : ∀ id ∈ requeued, id ∉ dropped)
    (hdone : serviceId ∉ requeued → serviceId ∉ dropped →
      (s.registry.afterExports created requeued dropped).FullyExported serviceId)
    (hwaiting : serviceId ∈ requeued →
      ∃ i ∈ s.registry.selected serviceId, ∃ fault,
        Refusal env s.registry serviceId service i fault)
    (hforgotten : serviceId ∈ dropped →
      ∃ reason, outcome.failure = some (.illegalArgument reason)) :
    ExportPass env [serviceId] s created requeued dropped calls where
  creates := h.creates
  ordered := by simpa using h.ordered
  requeued_sublist := hrequeued
  dropped_sublist := hdropped
  disjoint := hdisjoint
  done := by simpa using hdone
  tried := by
    simp only [List.mem_singleton, forall_eq]
    exact fun i hi => (h.tried i hi).imp_right fun ⟨fault, hrefusal⟩ =>
      ⟨service, fault, hservice, hrefusal⟩
  waiting id hid := by
    obtain rfl := List.mem_singleton.mp (hrequeued.subset hid)
    obtain ⟨i, hi, fault, hrefusal⟩ := hwaiting hid
    exact ⟨i, hi, service, fault, hservice, hrefusal⟩
  forgotten id hid := by
    obtain rfl := List.mem_singleton.mp (hdropped.subset hid)
    obtain ⟨reason, hfailure⟩ := hforgotten hid
    obtain ⟨i, -, hrefusal⟩ := h.failure _ hfailure
    cases hrefusal with
    | unreachable hfault => exact .inr ⟨_, i, reason, hfault⟩
  tries := by simpa only [List.mem_singleton, forall_eq] using h.tries

theorem tryService_spec (env : Environment O) (serviceId : ServiceId) (s : Session O) :
    ∃ created requeued dropped calls, tryService env serviceId s =
        ⟨s.registry.afterExports created requeued dropped, calls ++ s.journal⟩ ∧
      ExportPass env [serviceId] s created requeued dropped calls := by
  obtain ⟨outcome, created, calls, heq,
      ⟨hnone, rfl, rfl, reason, hfailure⟩ | ⟨service, hservice, hsome, hattempt⟩⟩ :=
    exportService_spec env serviceId s
  · rw [tryService, heq]
    dsimp only
    rw [hfailure]
    refine ⟨[], [], [serviceId], [], by simp [modify, Registry.afterExports, Registry.withExports],
      .nil env s rfl (by simp), List.nil_sublist _, List.nil_sublist _, .refl _, by simp,
      fun id hid _ hno => absurd hid hno, ?_, by simp, ?_, ?_⟩
    · simp [hnone]
    · simp [hnone]
    · simp [hnone]
  · rw [tryService, heq]
    dsimp only
    split
    · rename_i reason hfailure
      exact ⟨created, [], [serviceId], calls,
        by simp [modify, Registry.afterExports, Registry.withExports], hattempt.pass hservice
          (List.nil_sublist _) (.refl _) (by simp) (by simp) (by simp) fun _ => ⟨reason, hfailure⟩⟩
    · rename_i fault _ hfailure
      obtain ⟨i, hi, hrefusal⟩ := hattempt.failure fault hfailure
      exact ⟨created, [serviceId], [], calls, rfl, hattempt.pass hservice (.refl _)
        (List.nil_sublist _) (by simp)
        (by simp) (fun _ => ⟨i, hi, fault, hrefusal⟩) (by simp)⟩
    · rename_i hfailure
      split
      · rename_i hwaiting
        exact ⟨created, [serviceId], [], calls, rfl, hattempt.pass hservice (.refl _)
          (List.nil_sublist _) (by simp)
          (by simp) (fun _ => hattempt.waiting hwaiting) (by simp)⟩
      · rename_i hwaiting
        have hfull : (s.registry.withExports created).FullyExported serviceId :=
          ⟨hsome, hattempt.complete hfailure (by simpa using hwaiting)⟩
        exact ⟨created, [], [], calls, by simp [Registry.afterExports, Registry.withExports],
          hattempt.pass hservice (List.nil_sublist _) (List.nil_sublist _) (by simp)
            (fun _ _ => hfull.mono rfl fun e he => he) (by simp) (by simp)⟩

/-- Two passes, one after the other, are a pass over both queues. -/
theorem ExportPass.append {env : Environment O} {queue queue' : List ServiceId} {s : Session O}
    {created created' : List (Export O)} {requeued requeued' dropped dropped' : List ServiceId}
    {calls calls' : Journal} (hqueue : (queue ++ queue').Nodup)
    (h : ExportPass env queue s created requeued dropped calls)
    (h' : ExportPass env queue' ⟨s.registry.afterExports created requeued dropped,
      calls ++ s.journal⟩
      created' requeued' dropped' calls') :
    ExportPass env (queue ++ queue') s (created ++ created')
      (requeued ++ requeued') (dropped ++ dropped') (calls' ++ calls) := by
  obtain ⟨-, -, hdisjoint⟩ := List.nodup_append.mp hqueue
  -- Nothing that the first pass forgets is in the second queue, and the other way round.
  have hlater : ∀ id ∈ queue',
      (s.registry.afterExports created requeued dropped).services.get? id =
        s.registry.services.get? id := by
    intro id hid
    have hnot : id ∉ dropped := fun hd => hdisjoint id (h.dropped_sublist.subset hd) id hid rfl
    rw [Registry.afterExports, get?_foldl_erase, if_neg hnot]
  have hearlier : ∀ id ∈ queue, ∀ t : Table ServiceId (TrackedService O),
      (dropped'.foldl Table.erase t).get? id = t.get? id := by
    intro id hid t
    rw [get?_foldl_erase, if_neg fun hd => hdisjoint id hid id (h'.dropped_sublist.subset hd) rfl]
  have hservices : ∀ id service,
      (s.registry.afterExports created requeued dropped).services.get? id = some service →
        s.registry.services.get? id = some service := by
    intro id service hget
    rw [Registry.afterExports, get?_foldl_erase] at hget
    split at hget
    · cases hget
    · exact hget
  exact {
    creates := h.creates.append h'.creates rfl rfl rfl rfl hservices
    ordered := by
      rw [List.map_append, List.flatMap_append]
      have hsame : (queue'.flatMap fun id =>
            ((s.registry.afterExports created requeued dropped).selected id).map fun i => (id, i)) =
          queue'.flatMap fun id => (s.registry.selected id).map fun i => (id, i) :=
        List.flatMap_congr fun id hid => by rw [Registry.selected_congr (hlater id hid)]
      exact h.ordered.append (hsame ▸ h'.ordered)
    requeued_sublist := h.requeued_sublist.append h'.requeued_sublist
    dropped_sublist := h.dropped_sublist.append h'.dropped_sublist
    disjoint := by
      intro id hid
      rw [List.mem_append, not_or]
      rcases List.mem_append.mp hid with hid | hid
      · refine ⟨h.disjoint id hid, fun hd => ?_⟩
        exact hdisjoint id (h.requeued_sublist.subset hid) id (h'.dropped_sublist.subset hd) rfl
      · refine ⟨fun hd => ?_, h'.disjoint id hid⟩
        exact hdisjoint id (h.dropped_sublist.subset hd) id (h'.requeued_sublist.subset hid) rfl
    done := by
      intro id hid hrequeued hdropped
      rw [List.mem_append, not_or] at hrequeued hdropped
      rcases List.mem_append.mp hid with hid | hid
      · refine (h.done id hid hrequeued.1 hdropped.1).mono ?_ fun e he => ?_
        · simp only [Registry.afterExports, List.foldl_append, hearlier id hid]
        · simp only [Registry.afterExports, Registry.withExports, List.mem_append] at he ⊢
          tauto
      · refine (h'.done id hid hrequeued.2 hdropped.2).mono ?_ fun e he => ?_
        · simp only [Registry.afterExports, List.foldl_append]
        · simp only [Registry.afterExports, Registry.withExports, List.mem_append] at he ⊢
          tauto
    tried := by
      intro id hid i hi
      rcases List.mem_append.mp hid with hid | hid
      · refine (h.tried id hid i hi).imp_left fun hmem => ?_
        rw [← List.append_assoc, List.map_append]
        exact List.mem_append_left _ hmem
      · rw [← List.append_assoc]
        rw [← Registry.selected_congr (hlater id hid)] at hi
        exact (h'.tried id hid i hi).imp_right fun hrefused => hrefused.congr
          (hlater id hid).symm rfl rfl
    waiting := by
      intro id hid
      rcases List.mem_append.mp hid with hid | hid
      · exact h.waiting id hid
      · have hsame := hlater id (h'.requeued_sublist.subset hid)
        obtain ⟨i, hi, hrefused⟩ := h'.waiting id hid
        exact ⟨i, Registry.selected_congr hsame ▸ hi, hrefused.congr hsame.symm rfl rfl⟩
    forgotten := by
      intro id hid
      rcases List.mem_append.mp hid with hid | hid
      · exact h.forgotten id hid
      · rw [← Registry.selected_congr (hlater id (h'.dropped_sublist.subset hid))]
        exact h'.forgotten id hid
    tries := by
      intro id hid i hi factory hbound
      rcases List.mem_append.mp hid with hid | hid
      · exact (h.tries id hid i hi factory hbound).imp_right fun htried => htried.before calls'
      · rw [← Registry.selected_congr (hlater id hid)] at hi
        rcases h'.tries id hid i hi factory hbound with hmem | htried
        · refine .inl ?_
          rw [Registry.afterExports, Registry.withExports, List.map_append] at hmem
          -- What the first pass exported is of services of its own queue.
          rcases List.mem_append.mp hmem with hmem | hmem
          · exact hmem
          · obtain ⟨id', hid', hpair⟩ := List.mem_flatMap.mp (h.ordered.subset hmem)
            obtain ⟨_, -, heq⟩ := List.mem_map.mp hpair
            cases heq
            exact absurd rfl (hdisjoint id hid' id hid)
        · exact .inr htried.after }

/-- What the registry is after a pass over a queue that holds no service twice. -/
theorem exportAll_eq (env : Environment O) {queue : List ServiceId}
    (hqueue : queue.Nodup) (s : Session O) :
    ∃ created requeued dropped calls, exportAll env queue s =
        ⟨s.registry.afterExports created requeued dropped, calls ++ s.journal⟩ ∧
      ExportPass env queue s created requeued dropped calls := by
  induction queue generalizing s with
  | nil =>
    refine ⟨[], [], [], [], by simp [exportAll, Registry.afterExports, Registry.withExports], ?_⟩
    exact ⟨.nil env s rfl (by simp), .slnil, .slnil, .slnil, by simp, by simp, by simp,
      by simp, by simp, by simp⟩
  | cons serviceId queue ih =>
    obtain ⟨created, requeued, dropped, calls, heq, hpass⟩ := tryService_spec env serviceId s
    obtain ⟨created', requeued', dropped', calls', heq', hpass'⟩ :=
      ih (List.nodup_cons.mp hqueue).2
        ⟨s.registry.afterExports created requeued dropped, calls ++ s.journal⟩
    refine ⟨created ++ created', requeued ++ requeued', dropped ++ dropped', calls' ++ calls, ?_,
      hpass.append hqueue hpass'⟩
    rw [exportAll, heq, heq']
    simp [Registry.afterExports, Registry.withExports, Nat.add_assoc]

end Session

end RemoteServices
