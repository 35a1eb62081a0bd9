import Mathlib.Data.List.Flatten
import RemoteServices.Proofs.Books

/-!
# A pass keeps order

A pass drains both queues and fills them again while it does, and everything that it tries may fail.
Whatever fails, what waits and what comes about keeps the order of the queues, all that waited is
tried, and what fails leaves no trace but that it waits: `Registry.Reachable.pass_in_order`.
-/
namespace RemoteServices

variable {O : Objects}

namespace Registry

/-- The interfaces that a service advertises, in this order; none when it is not tracked. -/
def advertised (r : Registry O) (serviceId : ServiceId) : List String :=
  match r.services.get? serviceId with
  | none => []
  | some service => service.properties.list Key.objectClass

theorem selected_sublist (r : Registry O) (serviceId : ServiceId) :
    (r.selected serviceId).Sublist (r.advertised serviceId) := by
  cases hservice : r.services.get? serviceId with
  | none => simp [selected, hservice]
  | some service =>
    cases hselect : selectInterfaces service.properties with
    | error fault => simp [selected, hservice, hselect, Except.toOption]
    | ok interfaces =>
      rw [selected_eq hservice hselect, advertised, hservice]
      exact sublist_of_selectInterfaces hselect

end Registry

namespace Session

/-- A pass creates these exports, makes these imports and calls transport and factories like this,
all in the order of the queues. -/
structure PassesInOrder (env : Environment O) (s s' : Session O) (created : List (Export O))
    (made : List (Import O)) (calls : Journal) : Prop where
  journal : s'.journal = calls ++ s.journal
  exports : s'.registry.exports = s.registry.exports ++ created
  imports : s'.registry.imports = s.registry.imports ++ made
  effects : s'.registry.effects = s.registry.effects ++
    (created.map (fun e => .publish e.description) ++ made.map fun i =>
      .register i.description i.proxy)
  /-- Export numbers and usage grow with what comes about, and that is just what factories made. -/
  numbers : created.map Export.exportId = List.range' s.registry.nextExportId created.length
  nextExportId : s'.registry.nextExportId = s.registry.nextExportId + created.length
  usage : ∀ interface, (s'.registry.bookkeepingOf interface).usage =
    (s.registry.bookkeepingOf interface).usage + made.countP (·.interface == interface)
  endpoints : calls.made = (created.map fun e => (e.factory, e.description)).reverse
  proxies : calls.proxied = (made.map fun i => (i.factory, i.description)).reverse
  /-- What waits, and what comes about, is in the order of the queues. -/
  toBeExported : s'.registry.toBeExported.Sublist s.registry.toBeExported
  toBeImported : s'.registry.toBeImported.Sublist s.registry.toBeImported
  exported : (created.map Export.pair).Sublist
    (s.registry.toBeExported.flatMap fun id => (s.registry.advertised id).map fun i => (id, i))
  imported : (made.map Import.description).Sublist s.registry.toBeImported
  /-- All that has a factory is tried with it, whatever failed before, -/
  exportTried : ∀ id ∈ s.registry.toBeExported, ∀ i ∈ s.registry.selected id, ∀ factory,
    s.registry.exportFactories.get? i = some factory →
      (id, i) ∈ s.registry.exports.map Export.pair ∨ Tried env s.journal calls factory id i
  importTried : ∀ d ∈ s.registry.toBeImported, ∀ factory,
    s.registry.importFactories.get? d.interface = some factory →
    ∃ created, .createProxy factory d created ∈ calls
  /-- and what does not come about is refused itself, -/
  exportRefused : ∀ id ∈ s.registry.toBeExported, ∀ i ∈ s.registry.selected id,
    (id, i) ∈ s'.registry.exports.map Export.pair ∨ s.registry.Refused env id i
  importRefused : ∀ d ∈ s.registry.toBeImported, d ∈ made.map Import.description ∨
    ∀ factory, s.registry.importFactories.get? d.interface = some factory → ∃ j cause,
    env.proxy j factory d = .error cause
  /-- and waits again, unless the service is forgotten. -/
  exportSettled : ∀ id ∈ s.registry.toBeExported, id ∈ s'.registry.toBeExported ∨
    s'.registry.services.get? id = none ∨ s'.registry.FullyExported id
  importSettled : ∀ d ∈ s.registry.toBeImported, d ∈ s'.registry.toBeImported ∨
    d ∈ made.map Import.description

variable {s s' : Session O}

theorem exportInterface_error {env : Environment O} {serviceId : ServiceId}
    {service : TrackedService O} {interface : String} {fault : RemoteError}
    (h : exportInterface env serviceId service interface s = (.error fault, s')) :
    s'.registry = s.registry ∧ s'.journal.made = s.journal.made := by
  rw [exportInterface] at h
  split at h
  · cases h
    exact ⟨rfl, rfl⟩
  · dsimp only at h
    split at h
    · cases h
      exact ⟨rfl, rfl⟩
    · split at h
      · cases h
        exact ⟨rfl, rfl⟩
      · cases h

/-- An endpoint that cannot be imported waits again, and but for that it only stands in the
books. -/
theorem importEndpoint_failed {env : Environment O} {d : Endpoint}
    (hnew : d.id ∉ s.registry.imports.map Import.endpointId)
    (hfails : ∀ factory, (s.registry.bookkeepingOf d.interface).factory = some factory →
      ∃ cause, env.proxy s.journal factory d = .error cause) :
    ∃ books, (importEndpoint env d s).registry =
        { s.registry with bookkeeping := books, toBeImported := s.registry.toBeImported ++ [d] } ∧
      (∀ interface, ((importEndpoint env d s).registry.bookkeepingOf interface).usage =
        (s.registry.bookkeepingOf interface).usage) ∧
      (importEndpoint env d s).journal.proxied = s.journal.proxied := by
  rcases importEndpoint_cases env hnew with
    ⟨factory, proxy, -, hfactory, hproxy⟩ | ⟨calls, heq, hcalls, -⟩
  · rw [Registry.factory_book] at hfactory
    obtain ⟨cause, hcause⟩ := hfails factory hfactory
    rw [hproxy] at hcause
    cases hcause
  · rw [heq]
    refine ⟨_, rfl, fun interface => ?_,
      by rw [Journal.proxied_append, Journal.proxied_of_refused hcalls, List.nil_append]⟩
    exact congrArg List.length (s.registry.registrations_book d interface)

theorem passesInOrder_reconcile (hmatched : s.registry.Matched) (hdistinct : s.registry.Distinct)
    (hbooked : s.registry.Booked s.registry.knownEndpoints) (env : Environment O) :
    ∃ created made calls, s.PassesInOrder env (s.reconcile env) created made calls := by
  have hbooked' := booked_reconcile hmatched hdistinct hbooked env
  have hfactory (interface : String) :
      (s.registry.bookkeepingOf interface).factory = s.registry.importFactories.get? interface :=
    (hbooked.bookkeepingOf interface).2.2.2
  obtain ⟨created, requeued, dropped, calls, made, waiting, books, calls',
      heq, hexports, himports⟩ :=
    reconcile_eq hmatched hdistinct env
  simp only [hfactory] at himports
  rw [heq] at hbooked' ⊢
  refine ⟨created, made, calls' ++ calls, ?_⟩
  exact {
    journal := (List.append_assoc ..).symm
    exports := rfl
    imports := rfl
    effects := List.append_assoc ..
    numbers := hexports.creates.numbers
    nextExportId := rfl
    usage interface := by
      rw [hbooked'.usage, hbooked.usage]
      exact List.countP_append
    endpoints := hexports.made_append himports
    proxies := himports.proxied_append hexports
    toBeExported := hexports.requeued_sublist
    toBeImported := himports.requeued_sublist
    exported := by
      refine hexports.ordered.trans (List.Sublist.flatMap_right _ fun id _ => ?_)
      exact (s.registry.selected_sublist id).map _
    imported := himports.made_sublist
    exportTried id hid i hi factory hbound := (hexports.tries id hid i hi factory hbound).imp_right
      fun h => h.before calls'
    importTried d hd factory hbound := by
      obtain ⟨answer, hcall⟩ := himports.tries d hd factory hbound
      exact ⟨answer, List.mem_append_left _ hcall⟩
    exportRefused id hid i hi := (hexports.tried id hid i hi).imp_right fun h => h.congr rfl rfl rfl
    importRefused d hd := by
      rcases List.mem_append.mp (himports.sorted.mem_iff.mpr hd) with hmade | hwaiting
      · exact .inl hmade
      · exact .inr (himports.waiting d hwaiting)
    exportSettled id hid := by
      by_cases hrequeued : id ∈ requeued
      · exact .inl hrequeued
      · by_cases hdropped : id ∈ dropped
        · refine .inr (.inl ?_)
          exact (get?_foldl_erase dropped s.registry.services id).trans (if_pos hdropped)
        · exact .inr (.inr (hexports.done id hid hrequeued hdropped))
    importSettled d hd := (List.mem_append.mp (himports.sorted.mem_iff.mpr hd)).symm }

end Session

/-- Whatever transport and factories answer, a pass keeps the order of the queues, tries all that
waits, and numbers and tells of what comes about in this order.  An attempt that fails changes
nothing but that its endpoint stands in the books and waits again. -/
theorem Registry.Reachable.pass_in_order {s : Session O} (h : s.registry.Reachable)
    (env : Environment O) :
    (∃ created made calls, s.PassesInOrder env (s.reconcile env) created made calls) ∧
    (∀ (t t' : Session O) serviceId service interface fault,
      Session.exportInterface env serviceId service interface t = (.error fault, t') →
        t'.registry = t.registry ∧ t'.journal.made = t.journal.made) ∧
    ∀ (t : Session O) d, d.id ∉ t.registry.imports.map Import.endpointId →
      (∀ factory, (t.registry.bookkeepingOf d.interface).factory = some factory →
        ∃ cause, env.proxy t.journal factory d = .error cause) →
      ∃ books, (Session.importEndpoint env d t).registry =
          { t.registry with bookkeeping := books, toBeImported := t.registry.toBeImported ++ [d] } ∧
        (∀ interface, ((Session.importEndpoint env d t).registry.bookkeepingOf interface).usage =
          (t.registry.bookkeepingOf interface).usage) ∧
        (Session.importEndpoint env d t).journal.proxied = t.journal.proxied := by
  exact ⟨Session.passesInOrder_reconcile h.matched h.distinct h.booked env,
    fun _ _ _ _ _ _ => Session.exportInterface_error, fun _ _ => Session.importEndpoint_failed⟩

/-- Of four services and four endpoints, the transport fails for one interface and rejects another,
a factory of either kind refuses and another one is missing; what is left comes about in order. -/
theorem Registry.Reachable.pass_in_order_mixed :
    let env : Environment .plain := { Environment.granting with
      connection := fun _ _ interface =>
        if interface = "B" then .error (.transport "down")
        else if interface = "D" then .error (.illegalArgument "D") else .ok ∅
      wrap := fun _ f _ _ => if f.tag = "h" then .error "refused" else .ok ()
      proxy := fun _ _ d => if d.id = "y" then .error "refused" else .ok () }
    let service (id interfaces : String) : Properties :=
      .ofList [(Key.serviceId, id), (Key.objectClass, interfaces), (Key.exportedInterfaces, "*")]
    let s := (Session.ofRegistry (.empty "here" false)).run env
      [.addExportFactory ⟨"f", "A"⟩ ∅, .addExportFactory ⟨"g", "B"⟩ ∅,
        .addExportFactory ⟨"h", "C"⟩ ∅, .addExportFactory ⟨"k", "D"⟩ ∅,
        .addImportFactory ⟨"l", "A"⟩ ∅, .addService () (service "3" "B, C, A"),
        .addService () (service "1" "X, A"), .addService () (service "4" "D"),
        .addService () (service "2" "A"),
        .addEndpoint (.make "x" 7 "there" "A" ∅), .addEndpoint (.make "y" 7 "there" "A" ∅),
        .addEndpoint (.make "z" 7 "there" "B" ∅), .addEndpoint (.make "w" 7 "there" "A" ∅)]
    let s' := s.reconcile env
    s.registry.Reachable ∧ s.registry.toBeExported = [3, 1, 4, 2] ∧
      s'.registry.toBeExported = [3, 1] ∧
      s'.registry.exports.map (fun e => (e.exportId, e.pair)) =
        [(1, 3, "A"), (2, 1, "A"), (3, 2, "A")] ∧
      s'.registry.toBeImported.map Endpoint.id = ["y", "z"] ∧
      s'.registry.imports.map Import.endpointId = ["x", "w"] ∧
      ∃ created made calls, s.PassesInOrder env s' created made calls := by
  intro env service s s'
  have h : s.registry.Reachable :=
    (Registry.Reachable.empty "here" false).run env (s := .ofRegistry _) _
  exact ⟨h, by decide +kernel, by decide +kernel, by decide +kernel,
    by decide +kernel, by decide +kernel, (h.pass_in_order env).1⟩

end RemoteServices
