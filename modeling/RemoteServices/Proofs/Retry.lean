import RemoteServices.Proofs.Terms

/-!
# A pass after a pass

When factories and transport answer alike each time, a pass has nothing to add to the one before:
what that one left to wait is refused once more, for reasons that lead to the same place, and waits
again in the same order.  `Session.unchanged_reconcile` says so of the whole registry, and
`Session.endsIn_reconcile` of each service that was tried, also of one that is forgotten.
-/
namespace RemoteServices

variable {O : Objects}

/-- Factories and transport answer alike each time, and do not look at the new id of an endpoint. -/
structure Environment.Steady (env : Environment O) : Prop where
  connection : ∀ j j' serviceId interface, env.connection j serviceId interface =
    env.connection j' serviceId interface
  wrap : ∀ j j' factory object id id' serviceId frameworkUuid interface p,
    (∃ handler, env.wrap j factory object
      (.make id serviceId frameworkUuid interface p) = .ok handler) →
      ∃ handler, env.wrap j' factory object
        (.make id' serviceId frameworkUuid interface p) = .ok handler
  proxy : ∀ j j' factory d, (∃ proxy, env.proxy j factory d = .ok proxy) → ∃ proxy,
    env.proxy j' factory d = .ok proxy

/-- A fault and one that is as good: the same, or the same refusal in other words. -/
inductive RemoteError.Alike : RemoteError → RemoteError → Prop
  | same (fault : RemoteError) : Alike fault fault
  | reworded (interface cause cause' : String) :
    Alike (.exportFailed interface cause) (.exportFailed interface cause')

/-- What becomes of a service that was tried. -/
inductive Fate
  | done
  | waits
  | forgotten

/-- What becomes of a service when one of its interfaces has no factory. -/
def Fate.delayed : Fate → Fate
  | .done => .waits
  | fate => fate

namespace Session.Outcome

def fate (o : Outcome) : Fate :=
  match o.failure with
  | some (.illegalArgument _) => .forgotten
  | some _ => .waits
  | none => if o.waiting then .waits else .done

theorem fate_waiting (o : Outcome) :
    ({ o with waiting := true } : Outcome).fate = o.fate.delayed := by
  obtain ⟨waiting, failure⟩ := o
  cases failure with
  | none => cases waiting <;> rfl
  | some fault => cases fault <;> rfl

theorem fate_cons {fault fault' : RemoteError} (hfault : fault.Alike fault')
    {others others' : Outcome} (hothers : others'.fate = others.fate) :
    (cons (.error fault') others').fate = (cons (.error fault) others).fate := by
  cases hfault with
  | same =>
    cases fault with
    | factoryUnavailable =>
      exact (fate_waiting others').trans (hothers ▸ (fate_waiting others).symm)
    | _ => rfl
  | reworded => rfl

end Session.Outcome

namespace Registry

/-- What a registry is when this has become of a service. -/
def settle (r : Registry O) (serviceId : ServiceId) : Fate → Registry O
  | .done => r
  | .waits => r.queueService serviceId
  | .forgotten => { r with services := r.services.erase serviceId }

/-- For the exports of one service the registries are alike. -/
structure AlikeFor (serviceId : ServiceId) (r r' : Registry O) : Prop where
  frameworkUuid : r'.frameworkUuid = r.frameworkUuid
  exportFactories : r'.exportFactories = r.exportFactories
  exported : ∀ i, r'.isExported serviceId i = r.isExported serviceId i

theorem AlikeFor.trans {serviceId : ServiceId} {r r' r'' : Registry O} (h : AlikeFor serviceId r r')
    (h' : AlikeFor serviceId r' r'') : AlikeFor serviceId r r'' :=
  ⟨h'.frameworkUuid.trans h.frameworkUuid, h'.exportFactories.trans h.exportFactories,
    fun i => (h'.exported i).trans (h.exported i)⟩

/-- Whenever the service is tried, nothing new is exported of it, and this becomes of it. -/
def EndsIn (r : Registry O) (env : Environment O) (serviceId : ServiceId) (fate : Fate) : Prop :=
  ∀ j, ∃ calls, Session.tryService env serviceId ⟨r, j⟩ = ⟨r.settle serviceId fate, calls ++ j⟩

/-- An endpoint stands in the books already, and the factory of its interface refuses it whenever it
is asked. -/
structure Denies (r : Registry O) (env : Environment O) (d : Endpoint) : Prop where
  new : d.id ∉ r.imports.map Import.endpointId
  booked : ∃ b, r.bookkeeping.get? d.interface = some b ∧ d.id ∈ b.endpoints ∧
    b.endpoints.Pairwise (· < ·) ∧
    ∀ factory, b.factory = some factory → ∀ j, ∃ cause, env.proxy j factory d = .error cause

/-- Nothing has changed that can be told apart; of tables these are the answers to look-ups. -/
structure Unchanged (r r' : Registry O) : Prop where
  frameworkUuid : r'.frameworkUuid = r.frameworkUuid
  importLocalEndpoints : r'.importLocalEndpoints = r.importLocalEndpoints
  services : ∀ serviceId, r'.services.get? serviceId = r.services.get? serviceId
  exportFactories : ∀ name, r'.exportFactories.get? name = r.exportFactories.get? name
  importFactories : ∀ name, r'.importFactories.get? name = r.importFactories.get? name
  exports : r'.exports = r.exports
  imports : r'.imports = r.imports
  bookkeeping : ∀ interface, r'.bookkeeping.get? interface = r.bookkeeping.get? interface
  toBeExported : r'.toBeExported = r.toBeExported
  toBeImported : r'.toBeImported = r.toBeImported
  nextExportId : r'.nextExportId = r.nextExportId
  effects : r'.effects = r.effects

theorem Unchanged.trans {r r' r'' : Registry O} (h : r.Unchanged r') (h' : r'.Unchanged r'') :
    r.Unchanged r'' where
  frameworkUuid := h'.frameworkUuid.trans h.frameworkUuid
  importLocalEndpoints := h'.importLocalEndpoints.trans h.importLocalEndpoints
  services id := (h'.services id).trans (h.services id)
  exportFactories name := (h'.exportFactories name).trans (h.exportFactories name)
  importFactories name := (h'.importFactories name).trans (h.importFactories name)
  exports := h'.exports.trans h.exports
  imports := h'.imports.trans h.imports
  bookkeeping interface := (h'.bookkeeping interface).trans (h.bookkeeping interface)
  toBeExported := h'.toBeExported.trans h.toBeExported
  toBeImported := h'.toBeImported.trans h.toBeImported
  nextExportId := h'.nextExportId.trans h.nextExportId
  effects := h'.effects.trans h.effects

end Registry

namespace Session

open Registry

variable {env : Environment O} {serviceId : ServiceId} {service : TrackedService O}

theorem notMem_created (hsteady : env.Steady) {r : Registry O}
    {interface : String} {fault : RemoteError}
    (hrefusal : Refusal env r serviceId service interface fault) {e : Export O}
    (hmade : e.MadeFor env r service) :
    e.pair ≠ (serviceId, interface) := by
  intro hpair
  obtain ⟨rfl, rfl⟩ := Prod.mk.inj hpair
  obtain ⟨i, j, connection, hconnection, hdescription⟩ := hmade.described
  cases hrefusal with
  | unbound hnone =>
    rw [hmade.bound] at hnone
    cases hnone
  | @unreachable j' _ hfault =>
    rw [hsteady.connection j' j, hconnection] at hfault
    cases hfault
  | @unwrapped factory hbound j' id' connection' hconnection' j'' cause hcause =>
    obtain rfl : factory = e.factory := Option.some.inj (hbound.symm.trans hmade.bound)
    rw [hsteady.connection j' j, hconnection] at hconnection'
    cases hconnection'
    obtain ⟨k, hwrapped⟩ := hmade.wrapped
    rw [hdescription] at hwrapped
    obtain ⟨handler, hhandler⟩ := hsteady.wrap k j'' _ _ (env.freshId i) id' _ _ _ _ ⟨_, hwrapped⟩
    rw [hcause] at hhandler
    cases hhandler

theorem exportInterface_again (hsteady : env.Steady) {interface : String}
    {s s' : Session O} {fault : RemoteError}
    (h : exportInterface env serviceId service interface s = (.error fault, s')) {t : Session O}
    (huuid : t.registry.frameworkUuid = s.registry.frameworkUuid)
    (hfactories : t.registry.exportFactories = s.registry.exportFactories) :
    ∃ fault' calls, exportInterface env serviceId service interface t = (.error fault',
      ⟨t.registry, calls ++ t.journal⟩) ∧
      fault.Alike fault' := by
  rw [exportInterface] at h ⊢
  rw [hfactories]
  cases hfactory : s.registry.exportFactories.get? interface with
  | none =>
    rw [hfactory] at h
    cases h
    exact ⟨_, [], rfl, .same _⟩
  | some factory =>
    simp only [hfactory, hsteady.connection t.journal s.journal] at h ⊢
    cases hconnection : env.connection s.journal serviceId interface with
    | error e =>
      rw [hconnection] at h
      cases h
      exact ⟨_, [.connection serviceId interface], rfl, .same _⟩
    | ok connection =>
      simp only [hconnection] at h ⊢
      split at h
      · rename_i cause hcause
        cases h
        split
        · exact ⟨_, [.createEndpoint _ _ false, .connection serviceId interface], rfl,
            .reworded _ _ _⟩
        · rename_i handler hhandler
          simp only [record, huuid] at hhandler
          obtain ⟨handler', hhandler'⟩ :=
            hsteady.wrap _ (s.record (.connection serviceId interface)).journal _ _ _
            (env.freshId (s.record (.connection serviceId interface)).journal) _ _ _ _ ⟨_, hhandler⟩
          cases hcause.symm.trans hhandler'
      · cases h

theorem isExported_withExports {r : Registry O} {interface : String}
    (h : r.isExported serviceId interface) (created : List (Export O)) :
    (r.withExports created).isExported serviceId interface := by
  rw [isExported_iff] at h ⊢
  rw [withExports, List.map_append]
  exact List.mem_append_left _ h

theorem not_isExported_withExports (hsteady : env.Steady) {r : Registry O}
    {interface : String} {fault : RemoteError} (hservice : r.services.get? serviceId = some service)
    (hrefusal : Refusal env r serviceId service interface fault)
    (hnot : ¬ r.isExported serviceId interface) {j calls : Journal} {created : List (Export O)}
    (hcreates : Creates env ⟨r, j⟩ created calls) :
    ¬ (r.withExports created).isExported serviceId interface := by
  rw [isExported_iff, withExports, List.map_append, List.mem_append, not_or]
  refine ⟨fun hmem => hnot (isExported_iff.mpr hmem), fun hmem => ?_⟩
  obtain ⟨e, he, hpair⟩ := List.mem_map.mp hmem
  obtain ⟨service', hservice', hmade⟩ := hcreates.origin e he
  have hid : e.serviceId = serviceId := congrArg Prod.fst hpair
  obtain rfl : service' = service := Option.some.inj ((hid ▸ hservice').symm.trans hservice)
  exact notMem_created hsteady hrefusal hmade hpair

/-- Of a service whose interfaces have been tried, just those are tried again that were refused, and
they are refused again. -/
theorem exportInterfaces_again (hsteady : env.Steady) (interfaces : List String)
    {s s' : Session O} {outcome : Outcome}
    (hservice : s.registry.services.get? serviceId = some service)
    (h : exportInterfaces env serviceId service interfaces s = (outcome, s')) {t : Session O}
    (halike : AlikeFor serviceId s'.registry t.registry) :
    ∃ outcome' calls, exportInterfaces env serviceId service interfaces t =
        (outcome', ⟨t.registry, calls ++ t.journal⟩) ∧ outcome'.fate = outcome.fate := by
  induction interfaces generalizing s t outcome with
  | nil =>
    cases h
    exact ⟨.complete, [], rfl, rfl⟩
  | cons interface interfaces ih =>
    rw [exportInterfaces] at h
    by_cases hdone : s.registry.isExported serviceId interface
    · rw [if_pos hdone] at h
      obtain ⟨_, created, _, heq, -⟩ := exportInterfaces_spec env interfaces hservice
      have hstill : t.registry.isExported serviceId interface := by
        rw [halike.exported, (Prod.mk.inj (h.symm.trans heq)).2]
        exact isExported_withExports hdone created
      rw [exportInterfaces, if_pos hstill]
      exact ih hservice h halike
    · rw [if_neg hdone] at h
      obtain ⟨calls, -, ⟨e, heq, -, hpair⟩ | ⟨fault, heq, -, hrefusal⟩⟩ :=
        exportInterface_cases env hservice hdone
      · rw [heq] at h
        obtain ⟨_, created, _, hrest, -⟩ := exportInterfaces_spec env interfaces
          (s := ⟨s.registry.withExports [e], calls ++ s.journal⟩) hservice
        dsimp only at h
        rw [hrest] at h
        obtain ⟨rfl, rfl⟩ := Prod.mk.inj h
        have hstill : t.registry.isExported serviceId interface := by
          rw [halike.exported, isExported_iff, ← hpair]
          exact List.mem_map_of_mem (by simp [withExports])
        rw [exportInterfaces, if_pos hstill]
        exact ih (s := ⟨s.registry.withExports [e], calls ++ s.journal⟩) hservice hrest halike
      · rw [heq] at h
        obtain ⟨others, created, calls', hrest, hattempt⟩ := exportInterfaces_spec env interfaces
          (s := ⟨s.registry, calls ++ s.journal⟩) hservice
        dsimp only at h
        rw [hrest] at h
        obtain ⟨rfl, rfl⟩ := Prod.mk.inj h
        have hnot : ¬ t.registry.isExported serviceId interface := by
          rw [halike.exported]
          exact not_isExported_withExports hsteady hservice hrefusal hdone hattempt.creates
        obtain ⟨fault', again, hagain, hlike⟩ :=
          exportInterface_again hsteady heq (t := t) halike.frameworkUuid halike.exportFactories
        obtain ⟨others', more, hmore, hfate⟩ := ih (s := ⟨s.registry, calls ++ s.journal⟩)
          (t := ⟨t.registry, again ++ t.journal⟩) hservice hrest halike
        refine ⟨.cons (.error fault') others', more ++ again, ?_, Outcome.fate_cons hlike hfate⟩
        rw [exportInterfaces, if_neg hnot, hagain]
        simp only [hmore, List.append_assoc]

theorem exportService_again (hsteady : env.Steady) {s s' : Session O} {outcome : Outcome}
    (h : exportService env serviceId s = (outcome, s')) {t : Session O}
    (hservice : t.registry.services.get? serviceId = s.registry.services.get? serviceId)
    (halike : AlikeFor serviceId s'.registry t.registry) :
    ∃ outcome' calls, exportService env serviceId t = (outcome', ⟨t.registry, calls ++ t.journal⟩) ∧
      outcome'.fate = outcome.fate := by
  rw [exportService] at h ⊢
  rw [hservice]
  cases hget : s.registry.services.get? serviceId with
  | none =>
    rw [hget] at h
    cases h
    exact ⟨_, [], rfl, rfl⟩
  | some service =>
    simp only [hget] at h ⊢
    cases hselect : selectInterfaces service.properties with
    | error fault =>
      rw [hselect] at h
      cases h
      exact ⟨_, [], rfl, rfl⟩
    | ok interfaces =>
      rw [hselect] at h
      exact exportInterfaces_again hsteady interfaces hget h halike

theorem tryService_eq (env : Environment O) (serviceId : ServiceId) (s : Session O) :
    tryService env serviceId s =
      (exportService env serviceId s).2.modify
        (·.settle serviceId (exportService env serviceId s).1.fate) := by
  rw [tryService]
  obtain ⟨⟨waiting, failure⟩, s'⟩ := exportService env serviceId s
  cases failure with
  | none => cases waiting <;> rfl
  | some fault => cases fault <;> rfl

theorem settle_alike (r : Registry O) (serviceId : ServiceId) (fate : Fate) :
    AlikeFor serviceId r (r.settle serviceId fate) := by
  cases fate <;> exact ⟨rfl, rfl, fun _ => rfl⟩

theorem endsIn_tryService (hsteady : env.Steady) (serviceId : ServiceId)
    (s : Session O) {r : Registry O}
    (hservice : r.services.get? serviceId = s.registry.services.get? serviceId)
    (halike : AlikeFor serviceId (tryService env serviceId s).registry r) :
    r.EndsIn env serviceId (exportService env serviceId s).1.fate := by
  intro j
  rw [tryService_eq] at halike
  cases hfirst : exportService env serviceId s with
  | mk outcome s' =>
    rw [hfirst] at halike
    obtain ⟨outcome', calls, heq, hfate⟩ :=
      exportService_again hsteady hfirst (t := ⟨r, j⟩) hservice
      ((settle_alike _ _ _).trans halike)
    exact ⟨calls, by rw [tryService_eq, heq, ← hfate]; rfl⟩

theorem exportAll_other (env : Environment O) {queue : List ServiceId}
    (hqueue : queue.Nodup) (s : Session O) (hid : serviceId ∉ queue) :
    AlikeFor serviceId s.registry (exportAll env queue s).registry ∧
      (exportAll env queue s).registry.services.get? serviceId =
        s.registry.services.get? serviceId ∧
      (serviceId ∈ (exportAll env queue s).registry.toBeExported ↔
        serviceId ∈ s.registry.toBeExported) := by
  obtain ⟨created, requeued, dropped, calls, heq, hpass⟩ := exportAll_eq env hqueue s
  have hcreated : ∀ e ∈ created, e.serviceId ≠ serviceId := by
    rintro e he rfl
    obtain ⟨id, hmem, hpair⟩ := List.mem_flatMap.mp (hpass.ordered.subset (List.mem_map_of_mem he))
    obtain ⟨i, -, hi⟩ := List.mem_map.mp hpair
    obtain rfl : id = e.serviceId := congrArg Prod.fst hi
    exact hid hmem
  have hdropped : serviceId ∉ dropped := fun h => hid (hpass.dropped_sublist.subset h)
  have hrequeued : serviceId ∉ requeued := fun h => hid (hpass.requeued_sublist.subset h)
  rw [heq]
  refine ⟨⟨rfl, rfl, fun i => ?_⟩, ?_, ?_⟩
  · have hnone : created.any (fun e => e.serviceId == serviceId && e.interface == i) = false := by
      rw [List.any_eq_false]
      intro e he
      simp [hcreated e he]
    simp [isExported, afterExports, withExports, hnone]
  · rw [afterExports, get?_foldl_erase, if_neg hdropped]
  · simp [afterExports, hrequeued]

/-- Every service that a pass tries ends the same way when it is tried again.  Whether it waits or
is forgotten tells which way. -/
theorem endsIn_exportAll (hsteady : env.Steady) {queue : List ServiceId}
    (hqueue : queue.Nodup) (s : Session O) (hid : serviceId ∈ queue)
    (hnew : serviceId ∉ s.registry.toBeExported)
    (htracked : (s.registry.services.get? serviceId).isSome) :
    ∃ fate, (∀ r : Registry O, AlikeFor serviceId (exportAll env queue s).registry r →
        r.services.get? serviceId = s.registry.services.get? serviceId →
        r.EndsIn env serviceId fate) ∧
      (serviceId ∈ (exportAll env queue s).registry.toBeExported → fate = .waits) ∧
      ((exportAll env queue s).registry.services.get? serviceId = none → fate = .forgotten) := by
  induction queue generalizing s with
  | nil => cases hid
  | cons n queue ih =>
    obtain ⟨hn, hrest⟩ := List.nodup_cons.mp hqueue
    rw [exportAll]
    by_cases hsame : serviceId = n
    · subst hsame
      obtain ⟨halike, hservices, hwaiting⟩ :=
        exportAll_other env hrest (tryService env serviceId s) hn
      obtain ⟨outcome, created, calls, heq, -⟩ := exportService_spec env serviceId s
      refine ⟨(exportService env serviceId s).1.fate, fun r hr hservice => ?_,
        fun hmem => ?_, fun hnone => ?_⟩
      · exact endsIn_tryService hsteady serviceId s hservice (halike.trans hr)
      · rw [hwaiting, tryService_eq, heq] at hmem
        rw [heq]
        cases hfate : outcome.fate with
        | waits => rfl
        | _ =>
          simp only [hfate] at hmem
          exact absurd hmem hnew
      · rw [hservices, tryService_eq, heq] at hnone
        rw [heq]
        cases hfate : outcome.fate with
        | forgotten => rfl
        | _ =>
          simp only [hfate] at hnone
          exact absurd hnone (Option.isSome_iff_ne_none.mp htracked)
    · obtain ⟨-, hservices, hwaiting⟩ := exportAll_other env (List.nodup_singleton n) s
        (by simpa using hsame : serviceId ∉ [n])
      rw [exportAll, exportAll] at hservices hwaiting
      have hmem : serviceId ∈ queue := (List.mem_cons.mp hid).resolve_left hsame
      rw [← hservices]
      exact ih hrest _ hmem (fun h => hnew (hwaiting.mp h)) (hservices ▸ htracked)

theorem exportAll_append (env : Environment O) (queue queue' : List ServiceId) (s : Session O) :
    exportAll env (queue ++ queue') s = exportAll env queue' (exportAll env queue s) := by
  induction queue generalizing s with
  | nil => rfl
  | cons n queue ih => exact ih _

theorem exportAll_waits {queue : List ServiceId} {r : Registry O} (waiting : List ServiceId)
    (h : ∀ id ∈ queue, ∀ q, ({ r with toBeExported := q } : Registry O).EndsIn env id .waits)
    (j : Journal) :
    ∃ calls, exportAll env queue ⟨{ r with toBeExported := waiting }, j⟩ =
      ⟨{ r with toBeExported := waiting ++ queue }, calls ++ j⟩ := by
  induction queue generalizing waiting j with
  | nil => exact ⟨[], by rw [List.append_nil]; rfl⟩
  | cons n queue ih =>
    obtain ⟨calls, heq⟩ := h n List.mem_cons_self waiting j
    obtain ⟨more, hmore⟩ :=
      ih (waiting ++ [n]) (fun id hid => h id (List.mem_cons_of_mem n hid)) (calls ++ j)
    refine ⟨more ++ calls, ?_⟩
    rw [exportAll, heq, List.append_assoc, List.append_cons]
    exact hmore

end Session

theorem Bookkeeping.insertText_of_mem {s : String} {ts : List String} (h : ts.Pairwise (· < ·))
    (hs : s ∈ ts) :
    insertText s ts = ts := by
  induction ts with
  | nil => cases hs
  | cons t ts ih =>
    obtain ⟨ht, hts⟩ := List.pairwise_cons.mp h
    rw [insertText]
    rcases List.mem_cons.mp hs with rfl | hs
    · rw [if_neg (String.lt_irrefl _), if_pos rfl]
    · have hlt : t < s := ht s hs
      have hne : s ≠ t := by
        rintro rfl
        exact String.lt_irrefl _ hlt
      rw [if_neg (String.lt_asymm hlt), if_neg hne, ih hts hs]

namespace Session

open Registry

variable {env : Environment O} {serviceId : ServiceId} {service : TrackedService O}

theorem importEndpoint_again {d : Endpoint} {r : Registry O} (h : r.Denies env d) (j : Journal) :
    ∃ books calls, importEndpoint env d ⟨r, j⟩ =
        ⟨{ r with bookkeeping := books, toBeImported := r.toBeImported ++ [d] }, calls ++ j⟩ ∧
      ∀ i, books.get? i = r.bookkeeping.get? i := by
  obtain ⟨b, hb, hmem, hascending, hdenied⟩ := h.booked
  have hbookkeeping : r.bookkeepingOf d.interface = b := by rw [bookkeepingOf, hb, Option.getD_some]
  rcases importEndpoint_cases env (s := ⟨r, j⟩) h.new with
    ⟨factory, proxy, -, hfactory, hproxy⟩ | ⟨calls, heq, -⟩
  · rw [factory_book, hbookkeeping] at hfactory
    obtain ⟨cause, hcause⟩ := hdenied factory hfactory j
    rw [hproxy] at hcause
    cases hcause
  · refine ⟨(r.book d).bookkeeping, calls, heq, fun i => ?_⟩
    rw [book, Table.get?_insert, hbookkeeping, Bookkeeping.addEndpoint,
      Bookkeeping.insertText_of_mem hascending hmem]
    by_cases hi : i = d.interface
    · rw [if_pos hi, hi, hb]
    · rw [if_neg hi]

theorem importAll_again {queue : List Endpoint} {r : Registry O} (h : ∀ d ∈ queue, r.Denies env d)
    (j : Journal) :
    ∃ books calls, importAll env queue ⟨r, j⟩ =
        ⟨{ r with bookkeeping := books, toBeImported := r.toBeImported ++ queue }, calls ++ j⟩ ∧
      ∀ i, books.get? i = r.bookkeeping.get? i := by
  induction queue generalizing r j with
  | nil => exact ⟨r.bookkeeping, [], by simp [importAll], fun _ => rfl⟩
  | cons d queue ih =>
    obtain ⟨books, calls, heq, hbooks⟩ := importEndpoint_again (h d List.mem_cons_self) j
    have hnext : ∀ e ∈ queue,
        ({ r with bookkeeping := books, toBeImported := r.toBeImported ++ [d] } :
          Registry O).Denies env e := by
      intro e he
      obtain ⟨hnew, b, hb, hdenied⟩ := h e (List.mem_cons_of_mem d he)
      exact ⟨hnew, b, (hbooks _).trans hb, hdenied⟩
    obtain ⟨books', calls', heq', hbooks'⟩ := ih hnext (calls ++ j)
    refine ⟨books', calls' ++ calls, ?_, fun i => (hbooks' i).trans (hbooks i)⟩
    rw [importAll, heq, heq']
    simp

section

variable {s : Session O} (hsteady : env.Steady) (hmatched : s.registry.Matched)
  (hdistinct : s.registry.Distinct)

include hsteady hmatched

theorem endsIn_reconcile (hid : serviceId ∈ s.registry.toBeExported) :
    ∃ fate, (∀ r : Registry O, AlikeFor serviceId (s.reconcile env).registry r →
        r.services.get? serviceId = s.registry.services.get? serviceId →
        r.EndsIn env serviceId fate) ∧
      (serviceId ∈ (s.reconcile env).registry.toBeExported → fate = .waits) ∧
      ((s.reconcile env).registry.services.get? serviceId = none → fate = .forgotten) := by
  obtain ⟨fate, hends, hwaits, hforgotten⟩ := endsIn_exportAll hsteady hmatched.queue_nodup
    (s.modify fun r => { r with toBeExported := [] }) hid List.not_mem_nil
      (hmatched.queue_tracked serviceId hid)
  -- The pass over the endpoints leaves all of this alone.
  have hside : (s.reconcile env).registry.exportSide =
      (exportAll env s.registry.toBeExported
        (s.modify fun r => { r with toBeExported := [] })).registry.exportSide := by
    rw [reconcile, exportSide_importAll]
    rfl
  simp only [exportSide, ExportSide.mk.injEq] at hside
  obtain ⟨huuid, hservices, hfactories, hexports, hqueue, -⟩ := hside
  rw [hqueue, hservices]
  refine ⟨fate, fun r halike => hends r (AlikeFor.trans ⟨huuid, hfactories, fun i => ?_⟩ halike),
    hwaits, hforgotten⟩
  rw [isExported, hexports, isExported]

include hdistinct

theorem exportAll_reconcile {services : Table ServiceId (TrackedService O)}
    (hservices : ∀ id ∈ (s.reconcile env).registry.toBeExported,
      services.get? id = (s.reconcile env).registry.services.get? id) (j : Journal) :
    ∃ calls, exportAll env (s.reconcile env).registry.toBeExported
        ⟨{ (s.reconcile env).registry with services := services, toBeExported := [] }, j⟩ =
      ⟨{ (s.reconcile env).registry with services := services }, calls ++ j⟩ := by
  refine exportAll_waits (r := { (s.reconcile env).registry with services := services })
    [] (fun id hid q => ?_) j
  obtain ⟨created, requeued, dropped, _, _, _, _, _, heq, hpass, -⟩ :=
    reconcile_eq hmatched hdistinct env
  have hrequeued : id ∈ requeued := by
    rw [heq] at hid
    exact hid
  obtain ⟨fate, hends, hwaits, -⟩ :=
    endsIn_reconcile hsteady hmatched (hpass.requeued_sublist.subset hrequeued)
  have hkept : (s.reconcile env).registry.services.get? id = s.registry.services.get? id := by
    rw [heq]
    change (dropped.foldl Table.erase s.registry.services).get? id = _
    rw [get?_foldl_erase, if_neg (hpass.disjoint id hrequeued)]
  rw [← hwaits hid]
  exact hends _ ⟨rfl, rfl, fun _ => rfl⟩ ((hservices id hid).trans hkept)

theorem denies_reconcile (hbooked : s.registry.Booked s.registry.knownEndpoints) {d : Endpoint}
    (hd : d ∈ (s.reconcile env).registry.toBeImported) :
    (s.reconcile env).registry.Denies env d := by
  have hbooked' := booked_reconcile hmatched hdistinct hbooked env
  have hknown : d ∈ (s.reconcile env).registry.knownEndpoints := List.mem_append_right _ hd
  obtain ⟨b, hb⟩ := Option.isSome_iff_exists.mp (hbooked'.opened d hknown)
  have hagrees := hbooked'.kept _ b hb
  refine ⟨(distinct_apply hmatched hdistinct env .reconcile).waiting.2 d hd, b, hb,
    (hagrees.endpoints _).mpr ⟨d, hknown, rfl, rfl⟩, hagrees.ascending,
    fun factory hfactory j => ?_⟩
  obtain ⟨j', cause, hcause⟩ := unproxied_reconcile hmatched hdistinct hbooked env hd
    (hagrees.factory.symm.trans hfactory)
  cases hproxy : env.proxy j factory d with
  | error cause => exact ⟨cause, rfl⟩
  | ok proxy =>
    obtain ⟨proxy', hproxy'⟩ := hsteady.proxy j j' factory d ⟨proxy, hproxy⟩
    rw [hcause] at hproxy'
    cases hproxy'

/-- When the services come out of the next pass as they came out of the one before, so does
everything. -/
theorem unchanged_of_exportAll (hbooked : s.registry.Booked s.registry.knownEndpoints)
    {u : Session O} {services : Table ServiceId (TrackedService O)} {j : Journal}
    (heq : exportAll env u.registry.toBeExported (u.modify fun r => { r with toBeExported := [] }) =
      ⟨{ (s.reconcile env).registry with services := services }, j⟩)
    (hservices : ∀ id, services.get? id = (s.reconcile env).registry.services.get? id) :
    (s.reconcile env).registry.Unchanged (u.reconcile env).registry := by
  have hdenies : ∀ d ∈ (s.reconcile env).registry.toBeImported,
      Registry.Denies { (s.reconcile env).registry with
        services := services, toBeImported := [] } env d := fun d hd =>
    ⟨(denies_reconcile hsteady hmatched hdistinct hbooked hd).new,
      (denies_reconcile hsteady hmatched hdistinct hbooked hd).booked⟩
  obtain ⟨books, calls, hpass, hbooks⟩ := importAll_again hdenies j
  have hu : (u.reconcile env).registry =
      { (s.reconcile env).registry with services := services, bookkeeping := books } := by
    rw [reconcile.eq_1 env u, heq]
    dsimp only [modify]
    rw [hpass]
    rfl
  rw [hu]
  exact ⟨rfl, rfl, hservices, fun _ => rfl, fun _ => rfl, rfl, rfl, hbooks, rfl, rfl, rfl, rfl⟩

theorem unchanged_reconcile (hbooked : s.registry.Booked s.registry.knownEndpoints) :
    (s.reconcile env).registry.Unchanged ((s.reconcile env).reconcile env).registry := by
  obtain ⟨calls, heq⟩ := exportAll_reconcile hsteady hmatched hdistinct (fun _ _ => rfl)
    (s.reconcile env).journal
  exact unchanged_of_exportAll hsteady hmatched hdistinct hbooked
    (u := s.reconcile env) heq fun _ => rfl

theorem unchanged_requeued (hbooked : s.registry.Booked s.registry.knownEndpoints)
    (hservice : s.registry.services.get? serviceId = some service)
    (hforgotten : (s.reconcile env).registry.services.get? serviceId = none) {u : Session O}
    (hu : u.registry = { (s.reconcile env).registry with
      services := (s.reconcile env).registry.services.insert serviceId service
      toBeExported := (s.reconcile env).registry.toBeExported ++ [serviceId] }) :
    (s.reconcile env).registry.Unchanged (u.reconcile env).registry := by
  have hwaiting : ∀ id ∈ (s.reconcile env).registry.toBeExported,
      ((s.reconcile env).registry.services.insert serviceId service).get? id =
        (s.reconcile env).registry.services.get? id := by
    intro id hid
    have htracked := (matched_reconcile hmatched env).queue_tracked id hid
    have hne : id ≠ serviceId := by
      rintro rfl
      simp [Table.contains, hforgotten] at htracked
    rw [Table.get?_insert, if_neg hne]
  obtain ⟨calls, heq⟩ := exportAll_reconcile hsteady hmatched hdistinct hwaiting u.journal
  obtain ⟨_, _, dropped, _, _, _, _, _, hpass, hexports, -⟩ := reconcile_eq hmatched hdistinct env
  have hqueued : serviceId ∈ s.registry.toBeExported := by
    have hget : (s.reconcile env).registry.services =
        dropped.foldl Table.erase s.registry.services := by
      rw [hpass]
      rfl
    rw [hget, get?_foldl_erase, hservice] at hforgotten
    refine hexports.dropped_sublist.subset (Classical.byContradiction fun hnot => ?_)
    rw [if_neg hnot] at hforgotten
    cases hforgotten
  obtain ⟨fate, hends, -, hfate⟩ := endsIn_reconcile hsteady hmatched hqueued
  obtain ⟨more, hmore⟩ := hends { (s.reconcile env).registry with
    services := (s.reconcile env).registry.services.insert serviceId service }
      ⟨rfl, rfl, fun _ => rfl⟩
    (by rw [Table.get?_insert, if_pos rfl, hservice]) (calls ++ u.journal)
  rw [hfate hforgotten] at hmore
  have hagain : exportAll env u.registry.toBeExported
      (u.modify fun r => { r with toBeExported := [] }) =
      ⟨{ (s.reconcile env).registry with
        services :=
          ((s.reconcile env).registry.services.insert serviceId service).erase serviceId },
        more ++ (calls ++ u.journal)⟩ := by
    rw [modify, hu, exportAll_append, heq, exportAll, exportAll]
    exact hmore
  refine unchanged_of_exportAll hsteady hmatched hdistinct hbooked hagain fun id => ?_
  rw [Table.get?_erase, Table.get?_insert]
  split
  · rename_i hsame
    rw [hsame, hforgotten]
  · rfl

end

end Session

end RemoteServices
