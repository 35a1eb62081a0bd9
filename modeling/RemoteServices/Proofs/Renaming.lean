import RemoteServices.Proofs.Books
import RemoteServices.Proofs.Description
import RemoteServices.Proofs.Retry

/-!
# Registries up to renaming

Two processes that live through the same draw other ids for their endpoints and number their exports
differently; one may also have a past, which left effects in its queue.  `Registry.Renamed` relates
two such registries, and each change of one goes with the same change of the other.
-/
namespace RemoteServices

/-- Other ids for endpoints, other handlers and proxies, and later numbers for exports. -/
structure Renaming (O : Objects) where
  id : String → String
  injective : Function.Injective id
  handler : O.Handler → O.Handler
  proxy : O.Proxy → O.Proxy
  later : Nat

variable {O : Objects}

namespace Renaming

variable (ρ : Renaming O)

def endpoint (d : Endpoint) : Endpoint :=
  .make (ρ.id d.id) d.serviceId d.frameworkUuid d.interface d.properties

def exported (e : Export O) : Export O :=
  ⟨e.exportId + ρ.later, e.serviceId, e.service, ρ.endpoint e.description,
    ρ.handler e.handler, e.factory⟩

def imported (i : Import O) : Import O := ⟨ρ.endpoint i.description, ρ.proxy i.proxy, i.factory⟩

def effect : Effect O → Effect O
  | .publish d => .publish (ρ.endpoint d)
  | .retract d => .retract (ρ.endpoint d)
  | .register d proxy => .register (ρ.endpoint d) (ρ.proxy proxy)
  | .unregister id => .unregister (ρ.id id)

def call : Call → Call
  | .connection serviceId interface => .connection serviceId interface
  | .createEndpoint factory d created => .createEndpoint factory (ρ.endpoint d) created
  | .removeEndpoint factory d => .removeEndpoint factory (ρ.endpoint d)
  | .createProxy factory d created => .createProxy factory (ρ.endpoint d) created
  | .removeProxy factory d => .removeProxy factory (ρ.endpoint d)

def operation : Operation O → Operation O
  | .addEndpoint d => .addEndpoint (ρ.endpoint d)
  | .removeEndpoint d => .removeEndpoint (ρ.endpoint d)
  | op => op

@[simp] theorem endpoint_id (d : Endpoint) : (ρ.endpoint d).id = ρ.id d.id := rfl

@[simp] theorem endpoint_interface (d : Endpoint) : (ρ.endpoint d).interface = d.interface := rfl

@[simp] theorem endpoint_frameworkUuid (d : Endpoint) :
    (ρ.endpoint d).frameworkUuid = d.frameworkUuid := rfl

@[simp] theorem exported_exportId (e : Export O) :
    (ρ.exported e).exportId = e.exportId + ρ.later := rfl

@[simp] theorem exported_serviceId (e : Export O) : (ρ.exported e).serviceId = e.serviceId := rfl

@[simp] theorem exported_interface (e : Export O) : (ρ.exported e).interface = e.interface := rfl

@[simp] theorem exported_factory (e : Export O) : (ρ.exported e).factory = e.factory := rfl

@[simp] theorem exported_description (e : Export O) :
    (ρ.exported e).description = ρ.endpoint e.description := rfl

@[simp] theorem imported_description (i : Import O) :
    (ρ.imported i).description = ρ.endpoint i.description := rfl

@[simp] theorem imported_endpointId (i : Import O) :
    (ρ.imported i).endpointId = ρ.id i.endpointId := rfl

@[simp] theorem imported_interface (i : Import O) : (ρ.imported i).interface = i.interface := rfl

@[simp] theorem imported_factory (i : Import O) : (ρ.imported i).factory = i.factory := rfl

@[simp] theorem id_beq (a b : String) : (ρ.id a == ρ.id b) = (a == b) := by
  simp [beq_eq_decide, ρ.injective.eq_iff]

@[simp] theorem id_bne (a b : String) : (ρ.id a != ρ.id b) = (a != b) := by
  rw [bne, bne, id_beq]

theorem endpoint_make (id : String) (serviceId : ServiceId) (frameworkUuid interface : String)
    (p : Properties) :
    ρ.endpoint (.make id serviceId frameworkUuid interface p) = .make
      (ρ.id id) serviceId frameworkUuid interface p := by
  have hproperties : Endpoint.identify (ρ.id id) serviceId frameworkUuid interface
      (Endpoint.identify id serviceId frameworkUuid interface p) =
        Endpoint.identify (ρ.id id) serviceId frameworkUuid interface p :=
    Properties.ext_get? fun key => by
      simp only [Endpoint.get?_identify]
      split_ifs <;> rfl
  simp only [endpoint, Endpoint.make, hproperties]

end Renaming

namespace Bookkeeping

theorem insertText_perm {s : String} {ts : List String} (hs : s ∉ ts) :
    (insertText s ts).Perm (s :: ts) := by
  induction ts with
  | nil => exact .refl _
  | cons t ts ih =>
    obtain ⟨hne, hs⟩ := List.ne_and_not_mem_of_not_mem_cons hs
    rw [insertText, if_neg hne]
    split
    · exact .refl _
    · exact ((ih hs).cons t).trans (.swap s t ts)

/-- The same books under other ids; each lists its endpoints in the order of its own ids. -/
structure Renamed (ρ : Renaming O) (b b' : Bookkeeping) : Prop where
  ascending : b.endpoints.Pairwise (· < ·)
  ascending' : b'.endpoints.Pairwise (· < ·)
  endpoints : b'.endpoints.Perm (b.endpoints.map ρ.id)
  registrations : b'.registrations = b.registrations.map ρ.id
  factory : b'.factory = b.factory

variable {ρ : Renaming O} {b b' : Bookkeeping}

theorem renamed_ofFactory (ρ : Renaming O) (factory : Option Factory) :
    Renamed ρ (ofFactory factory) (ofFactory factory) :=
  ⟨.nil, .nil, .nil, rfl, rfl⟩

theorem Renamed.addEndpoint (h : Renamed ρ b b') (id : String) :
    Renamed ρ (b.addEndpoint id) (b'.addEndpoint (ρ.id id)) where
  ascending := pairwise_insertText h.ascending
  ascending' := pairwise_insertText h.ascending'
  endpoints := by
    have hmem : ρ.id id ∈ b'.endpoints ↔ id ∈ b.endpoints := by
      rw [h.endpoints.mem_iff, List.mem_map_of_injective ρ.injective]
    by_cases hid : id ∈ b.endpoints
    · rw [Bookkeeping.addEndpoint, Bookkeeping.addEndpoint, insertText_of_mem h.ascending hid,
        insertText_of_mem h.ascending' (hmem.mpr hid)]
      exact h.endpoints
    · have hnew : (insertText id b.endpoints).Perm (id :: b.endpoints) := insertText_perm hid
      exact (insertText_perm (hmem.not.mpr hid)).trans
        ((h.endpoints.cons _).trans (hnew.map ρ.id).symm)
  registrations := h.registrations
  factory := h.factory

theorem Renamed.removeEndpoint (h : Renamed ρ b b') (id : String) :
    Renamed ρ (b.removeEndpoint id) (b'.removeEndpoint (ρ.id id)) where
  ascending := h.ascending.sublist List.filter_sublist
  ascending' := h.ascending'.sublist List.filter_sublist
  endpoints := by
    have hfilter : (b.endpoints.map ρ.id).filter
        (· != ρ.id id) = (b.endpoints.filter (· != id)).map ρ.id := by
      simp only [List.filter_map, Function.comp_def, Renaming.id_bne]
    exact hfilter ▸ h.endpoints.filter (· != ρ.id id)
  registrations := h.registrations
  factory := h.factory

theorem Renamed.addRegistration (h : Renamed ρ b b') (id : String) :
    Renamed ρ (b.addRegistration id) (b'.addRegistration (ρ.id id)) :=
  { h with registrations := by simp [Bookkeeping.addRegistration, h.registrations] }

theorem Renamed.removeRegistration (h : Renamed ρ b b') (id : String) :
    Renamed ρ (b.removeRegistration id) (b'.removeRegistration (ρ.id id)) :=
  { h with
    registrations := by
      simp [Bookkeeping.removeRegistration, h.registrations, List.filter_map, Function.comp_def] }

theorem Renamed.bind (h : Renamed ρ b b') (factory : Option Factory) :
    Renamed ρ { b with factory := factory } { b' with factory := factory } :=
  { h with factory := rfl }

theorem Renamed.isEmpty_endpoints (h : Renamed ρ b b') :
    b'.endpoints.isEmpty = b.endpoints.isEmpty := by
  rw [h.endpoints.isEmpty_eq, List.isEmpty_map]

end Bookkeeping

/-- Where answers agree but for their faults, both are faults or both are not. -/
theorem eq_error_or_eq_ok_of_toOption {ε α β : Type} {answer : Except ε α}
    {answer' : Except ε β} {f : α → β} (h : answer'.toOption = answer.toOption.map f) :
    (∃ fault fault', answer = .error fault ∧ answer' = .error fault') ∨ ∃ a, answer = .ok a ∧
      answer' = .ok (f a) := by
  cases answer with
  | error fault =>
    cases answer' with
    | error fault' => exact .inl ⟨fault, fault', rfl, rfl⟩
    | ok b => cases h
  | ok a =>
    cases answer' with
    | error fault' => cases h
    | ok b =>
      cases h
      exact .inr ⟨a, rfl, rfl⟩

/-- The environment `env'` answers a registry with a past as `env` answers one without, but for the
renaming. -/
structure Environment.Follows (ρ : Renaming O) (past : Journal) (env env' : Environment O) :
    Prop where
  configurationType : env'.configurationType = env.configurationType
  freshId : ∀ j, env'.freshId (j.map ρ.call ++ past) = ρ.id (env.freshId j)
  connection : ∀ j serviceId interface,
    env'.connection (j.map ρ.call ++ past) serviceId interface =
      env.connection j serviceId interface
  wrap : ∀ j factory object d,
    (env'.wrap (j.map ρ.call ++ past) factory object (ρ.endpoint d)).toOption =
      (env.wrap j factory object d).toOption.map ρ.handler
  proxy : ∀ j factory d,
    (env'.proxy (j.map ρ.call ++ past) factory (ρ.endpoint d)).toOption =
      (env.proxy j factory d).toOption.map ρ.proxy
  order : ∀ j imports, env'.order (j.map ρ.call ++ past) (imports.map ρ.imported) =
    (env.order j imports).map ρ.imported

namespace Registry

/-- The same registry under other ids and numbers, where the effects `before` were there already. -/
structure Renamed (ρ : Renaming O) (before : List (Effect O)) (r r' : Registry O) : Prop where
  frameworkUuid : r'.frameworkUuid = r.frameworkUuid
  importLocalEndpoints : r'.importLocalEndpoints = r.importLocalEndpoints
  services : ∀ serviceId, r'.services.get? serviceId = r.services.get? serviceId
  exportFactories : ∀ name, r'.exportFactories.get? name = r.exportFactories.get? name
  importFactories : ∀ name, r'.importFactories.get? name = r.importFactories.get? name
  exports : r'.exports = r.exports.map ρ.exported
  imports : r'.imports = r.imports.map ρ.imported
  bookkeeping : ∀ interface,
    Option.Rel (Bookkeeping.Renamed ρ) (r.bookkeeping.get? interface)
      (r'.bookkeeping.get? interface)
  toBeExported : r'.toBeExported = r.toBeExported
  toBeImported : r'.toBeImported = r.toBeImported.map ρ.endpoint
  nextExportId : r'.nextExportId = r.nextExportId + ρ.later
  effects : r'.effects = before ++ r.effects.map ρ.effect

namespace Renamed

variable {ρ : Renaming O} {before : List (Effect O)} {r r' : Registry O}

theorem contains_services (h : Renamed ρ before r r') (serviceId : ServiceId) :
    r'.services.contains serviceId = r.services.contains serviceId := by
  rw [Table.contains, Table.contains, h.services]

theorem isExported (h : Renamed ρ before r r') (serviceId : ServiceId) (interface : String) :
    r'.isExported serviceId interface = r.isExported serviceId interface := by
  simp only [Registry.isExported, h.exports, List.any_map, Function.comp_def,
    Renaming.exported_serviceId, Renaming.exported_interface]

theorem exportOf? (h : Renamed ρ before r r') (exportId : Nat) :
    r'.exportOf? (exportId + ρ.later) = (r.exportOf? exportId).map ρ.exported := by
  have hkey (e : Export O) : ((ρ.exported e).exportId == exportId + ρ.later) =
      (e.exportId == exportId) := by
    simp [beq_eq_decide]
  simp only [Registry.exportOf?, h.exports, List.find?_map, Function.comp_def, hkey]

theorem importOf? (h : Renamed ρ before r r') (id : String) :
    r'.importOf? (ρ.id id) = (r.importOf? id).map ρ.imported := by
  simp only [Registry.importOf?, h.imports, List.find?_map, Function.comp_def,
    Renaming.imported_endpointId, Renaming.id_beq]

theorem known? (h : Renamed ρ before r r') (id : String) :
    r'.known? (ρ.id id) = (r.known? id).map ρ.endpoint := by
  rw [Registry.known?, Registry.known?, h.importOf?]
  cases r.importOf? id with
  | none =>
    simp only [Option.map_none, h.toBeImported, List.find?_map, Function.comp_def,
      Renaming.endpoint_id, Renaming.id_beq]
  | some i => rfl

theorem bookkeepingOf (h : Renamed ρ before r r') (interface : String) :
    (r.bookkeepingOf interface).Renamed ρ (r'.bookkeepingOf interface) := by
  have hbooks := h.bookkeeping interface
  rw [Registry.bookkeepingOf, Registry.bookkeepingOf, h.importFactories]
  generalize r.bookkeeping.get? interface = books, r'.bookkeeping.get? interface = books' at hbooks
  cases hbooks with
  | none => exact Bookkeeping.renamed_ofFactory ρ _
  | some hb => exact hb

theorem emit (h : Renamed ρ before r r') (e : Effect O) :
    Renamed ρ before (r.emit e) (r'.emit (ρ.effect e)) :=
  { h with effects := by simp [Registry.emit, h.effects] }

theorem queueService (h : Renamed ρ before r r') (serviceId : ServiceId) :
    Renamed ρ before (r.queueService serviceId) (r'.queueService serviceId) :=
  { h with toBeExported := by rw [Registry.queueService, Registry.queueService, h.toBeExported] }

theorem requeueService (h : Renamed ρ before r r') (serviceId : ServiceId) :
    Renamed ρ before (r.requeueService serviceId) (r'.requeueService serviceId) := by
  rw [Registry.requeueService, Registry.requeueService, h.contains_services, h.toBeExported]
  split
  · exact h.queueService serviceId
  · exact h

theorem trackService (h : Renamed ρ before r r') (serviceId : ServiceId)
    (service : TrackedService O) :
    Renamed ρ before { r with services := r.services.insert serviceId service }
      { r' with services := r'.services.insert serviceId service } :=
  { h with services := fun id => by rw [Table.get?_insert, Table.get?_insert, h.services] }

theorem forgetService (h : Renamed ρ before r r') (serviceId : ServiceId) :
    Renamed ρ before { r with services := r.services.erase serviceId }
      { r' with services := r'.services.erase serviceId } :=
  { h with services := fun id => by rw [Table.get?_erase, Table.get?_erase, h.services] }

theorem addService (h : Renamed ρ before r r') (object : O.Service) (p : Properties) :
    Renamed ρ before (r.addService object p) (r'.addService object p) := by
  rw [Registry.addService, Registry.addService]
  split
  · exact h
  · rename_i serviceId _
    rw [h.contains_services]
    split
    · exact h
    · exact (h.trackService serviceId ⟨object, p⟩).queueService serviceId

theorem addExport (h : Renamed ρ before r r') (serviceId : ServiceId)
    (service : O.Service) (d : Endpoint) (handler : O.Handler) (factory : Factory) :
    Renamed ρ before (r.addExport serviceId service d handler factory)
      (r'.addExport serviceId service (ρ.endpoint d) (ρ.handler handler) factory) := by
  let e : Export O := ⟨r.nextExportId, serviceId, service, d, handler, factory⟩
  have hadded :
      Renamed ρ before { r with exports := r.exports ++ [e], nextExportId := r.nextExportId + 1 }
      { r' with
        exports :=
          r'.exports ++
          [⟨r'.nextExportId, serviceId, service, ρ.endpoint d, ρ.handler handler, factory⟩]
        nextExportId := r'.nextExportId + 1 } :=
    { h with
      exports := by simp [e, h.exports, h.nextExportId, Renaming.exported]
      nextExportId := by simp only [h.nextExportId, Nat.add_right_comm] }
  exact hadded.emit (.publish d)

theorem dropExport (h : Renamed ρ before r r') (e : Export O) :
    Renamed ρ before (r.dropExport e) (r'.dropExport (ρ.exported e)) := by
  have hkey (f : Export O) : ((ρ.exported f).exportId != (ρ.exported e).exportId) =
      (f.exportId != e.exportId) := by
    simp [bne, beq_eq_decide]
  have hdropped : Renamed ρ before { r with exports := r.exports.filter (·.exportId != e.exportId) }
      { r' with exports := r'.exports.filter (·.exportId != (ρ.exported e).exportId) } :=
    { h with exports := by simp only [h.exports, List.filter_map, Function.comp_def, hkey] }
  exact hdropped.emit (.retract e.description)

theorem bindExportFactory (h : Renamed ρ before r r') (name : String) (factory : Factory) :
    Renamed ρ before { r with exportFactories := r.exportFactories.insert name factory }
      { r' with exportFactories := r'.exportFactories.insert name factory } :=
  { h with
    exportFactories := fun i => by rw [Table.get?_insert, Table.get?_insert, h.exportFactories] }

theorem unbindExportFactory (h : Renamed ρ before r r') (name : String) :
    Renamed ρ before { r with exportFactories := r.exportFactories.erase name }
      { r' with exportFactories := r'.exportFactories.erase name } :=
  { h with
    exportFactories := fun i => by rw [Table.get?_erase, Table.get?_erase, h.exportFactories] }

theorem updateBooks (h : Renamed ρ before r r') (name : String)
    {change change' : Bookkeeping → Bookkeeping}
    (hchange : ∀ b b', b.Renamed ρ b' → (change b).Renamed ρ (change' b')) :
    Renamed ρ before { r with bookkeeping := r.bookkeeping.update name change }
      { r' with bookkeeping := r'.bookkeeping.update name change' } :=
  { h with
    bookkeeping := fun i => by
      have hbooks := h.bookkeeping i
      rw [Table.get?_update, Table.get?_update]
      generalize r.bookkeeping.get? i = books, r'.bookkeeping.get? i = books' at hbooks
      split
      · cases hbooks with
        | none => exact .none
        | some hb => exact .some (hchange _ _ hb)
      · exact hbooks }

theorem setBooks (h : Renamed ρ before r r') (name : String) {b b' : Bookkeeping}
    (hb : b.Renamed ρ b') :
    Renamed ρ before { r with bookkeeping := r.bookkeeping.insert name b }
      { r' with bookkeeping := r'.bookkeeping.insert name b' } :=
  { h with
    bookkeeping := fun i => by
      rw [Table.get?_insert, Table.get?_insert]
      split
      · exact .some hb
      · exact h.bookkeeping i }

theorem closeBooks (h : Renamed ρ before r r') (name : String) :
    Renamed ρ before { r with bookkeeping := r.bookkeeping.erase name }
      { r' with bookkeeping := r'.bookkeeping.erase name } :=
  { h with
    bookkeeping := fun i => by
      rw [Table.get?_erase, Table.get?_erase]
      split
      · exact .none
      · exact h.bookkeeping i }

theorem bindImportFactory (h : Renamed ρ before r r') (name : String) (factory : Factory) :
    Renamed ρ before
      { r with
        bookkeeping := r.bookkeeping.update name fun b => { b with factory := some factory }
        importFactories := r.importFactories.insert name factory }
      { r' with
        bookkeeping := r'.bookkeeping.update name fun b => { b with factory := some factory }
        importFactories := r'.importFactories.insert name factory } :=
  { h.updateBooks name fun _ _ hb => hb.bind (some factory) with
    importFactories := fun i => by rw [Table.get?_insert, Table.get?_insert, h.importFactories] }

theorem unbindImportFactory (h : Renamed ρ before r r') (name : String) :
    Renamed ρ before { r with importFactories := r.importFactories.erase name }
      { r' with importFactories := r'.importFactories.erase name } :=
  { h with
    importFactories := fun i => by rw [Table.get?_erase, Table.get?_erase, h.importFactories] }

theorem queueEndpoint (h : Renamed ρ before r r') (d : Endpoint) :
    Renamed ρ before (r.queueEndpoint d) (r'.queueEndpoint (ρ.endpoint d)) :=
  { h with toBeImported := by simp [Registry.queueEndpoint, h.toBeImported] }

theorem dequeueEndpoint (h : Renamed ρ before r r') (id : String) :
    Renamed ρ before { r with toBeImported := r.toBeImported.filter (·.id != id) }
      { r' with toBeImported := r'.toBeImported.filter (·.id != ρ.id id) } :=
  { h with
    toBeImported := by
      simp only [h.toBeImported, List.filter_map, Function.comp_def,
        Renaming.endpoint_id, Renaming.id_bne] }

theorem book (h : Renamed ρ before r r') (d : Endpoint) :
    Renamed ρ before (r.book d) (r'.book (ρ.endpoint d)) :=
  h.setBooks d.interface ((h.bookkeepingOf d.interface).addEndpoint d.id)

theorem unbook (h : Renamed ρ before r r') (d : Endpoint) :
    Renamed ρ before (r.unbook d) (r'.unbook (ρ.endpoint d)) := by
  have hbooks := h.bookkeeping d.interface
  rw [Registry.unbook, Registry.unbook, Renaming.endpoint_interface]
  generalize r.bookkeeping.get? d.interface = books,
    r'.bookkeeping.get? d.interface = books' at hbooks
  cases hbooks with
  | none => exact h
  | some hb =>
    have hstruck := hb.removeEndpoint d.id
    dsimp only
    rw [Renaming.endpoint_id, hstruck.isEmpty_endpoints]
    split
    · exact h.closeBooks d.interface
    · exact h.setBooks d.interface hstruck

theorem addEndpoint (h : Renamed ρ before r r') (d : Endpoint) :
    Renamed ρ before (r.addEndpoint d) (r'.addEndpoint (ρ.endpoint d)) := by
  rw [Registry.addEndpoint, Registry.addEndpoint, h.importLocalEndpoints, h.frameworkUuid,
    Renaming.endpoint_frameworkUuid, Renaming.endpoint_id, h.known?, Option.isSome_map]
  split
  · exact h
  · split
    · exact h
    · exact (h.book d).queueEndpoint d

theorem addImport (h : Renamed ρ before r r') (d : Endpoint) (proxy : O.Proxy) (factory : Factory) :
    Renamed ρ before (r.addImport d proxy factory)
      (r'.addImport (ρ.endpoint d) (ρ.proxy proxy) factory) := by
  have hbooks := h.updateBooks d.interface fun _ _ hb => hb.addRegistration d.id
  have hadded : Renamed ρ before
      { r with
        imports := r.imports ++ [⟨d, proxy, factory⟩]
        bookkeeping := r.bookkeeping.update d.interface (·.addRegistration d.id) }
      { r' with
        imports := r'.imports ++ [⟨ρ.endpoint d, ρ.proxy proxy, factory⟩]
        bookkeeping := r'.bookkeeping.update d.interface (·.addRegistration (ρ.id d.id)) } :=
    { hbooks with imports := by simp [h.imports, Renaming.imported] }
  exact hadded.emit (.register d proxy)

theorem dropImport (h : Renamed ρ before r r') (d : Endpoint) :
    Renamed ρ before (r.dropImport d) (r'.dropImport (ρ.endpoint d)) := by
  have hbooks := h.updateBooks d.interface fun _ _ hb => hb.removeRegistration d.id
  have hdropped : Renamed ρ before
      { r with
        imports := r.imports.filter (·.endpointId != d.id)
        bookkeeping := r.bookkeeping.update d.interface (·.removeRegistration d.id) }
      { r' with
        imports := r'.imports.filter (·.endpointId != ρ.id d.id)
        bookkeeping := r'.bookkeeping.update d.interface (·.removeRegistration (ρ.id d.id)) } :=
    { hbooks with
      imports := by
        simp only [h.imports, List.filter_map, Function.comp_def, Renaming.imported_endpointId,
        Renaming.id_bne] }
  exact hdropped.emit (.unregister d.id)

end Renamed

end Registry

end RemoteServices
