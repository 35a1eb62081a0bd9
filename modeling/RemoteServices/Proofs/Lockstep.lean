import RemoteServices.Proofs.Renaming

/-!
# Sessions in lockstep

Two sessions whose registries are the same but for a renaming, one of them with a past, are told the
same, and factories and transport answer both alike.  Then whatever they are told they stay the same
but for the renaming: `Session.Renamed.apply` for one operation, `Session.Renamed.runEach` for a
run.
-/
namespace RemoteServices

variable {O : Objects}

namespace Session

/-- The same session under other ids and numbers, but for what happened `before`: effects that were
queued and calls in the `past`. -/
structure Renamed (ρ : Renaming O) (before : List (Effect O)) (past : Journal) (s s' : Session O) :
    Prop where
  registry : s.registry.Renamed ρ before s'.registry
  journal : s'.journal = s.journal.map ρ.call ++ past

/-- Tells a registry one thing after the other, each in an environment of its own. -/
def runEach (steps : List (Environment O × Operation O)) (s : Session O) : Session O :=
  steps.foldl (fun s step => s.apply step.1 step.2) s

namespace Renamed

variable {ρ : Renaming O} {before : List (Effect O)} {past : Journal} {s s' : Session O}

theorem modify (h : Renamed ρ before past s s') (f f' : Registry O → Registry O)
    (hf : (f s.registry).Renamed ρ before (f' s'.registry)) :
    Renamed ρ before past (s.modify f) (s'.modify f') :=
  ⟨hf, h.journal⟩

theorem record (h : Renamed ρ before past s s') (c : Call) :
    Renamed ρ before past (s.record c) (s'.record (ρ.call c)) :=
  ⟨h.registry, by simp [Session.record, h.journal]⟩

theorem foldl {α : Type} {f : Session O → α → Session O} {g : α → α}
    (hf : ∀ {s s' : Session O}, Renamed ρ before past s s' → ∀ a,
      Renamed ρ before past (f s a) (f s' (g a)))
    (h : Renamed ρ before past s s') (as : List α) :
    Renamed ρ before past (as.foldl f s) ((as.map g).foldl f s') := by
  induction as generalizing s s' with
  | nil => exact h
  | cons a as ih => exact ih (hf h a)

theorem tearDown (h : Renamed ρ before past s s') (exportId : Nat) :
    Renamed ρ before past (s.tearDown exportId) (s'.tearDown (exportId + ρ.later)) := by
  rw [Session.tearDown, Session.tearDown, h.registry.exportOf?]
  cases s.registry.exportOf? exportId with
  | none => exact h
  | some e =>
    have hrecord := h.record (.removeEndpoint e.factory e.description)
    exact hrecord.modify _ _ (hrecord.registry.dropExport e)

theorem filter_exports (h : Renamed ρ before past s s') {p : Export O → Bool}
    (hp : ∀ e, p (ρ.exported e) = p e) :
    s'.registry.exports.filter p = (s.registry.exports.filter p).map ρ.exported := by
  simp only [h.registry.exports, List.filter_map, Function.comp_def, hp]

theorem tearDownAll (h : Renamed ρ before past s s') {p : Export O → Bool}
    (hp : ∀ e, p (ρ.exported e) = p e) :
    Renamed ρ before past (s.tearDownAll p) (s'.tearDownAll p) := by
  have hids : (s'.registry.exports.filter p).map Export.exportId =
      ((s.registry.exports.filter p).map Export.exportId).map (· + ρ.later) := by
    simp only [h.filter_exports hp, List.map_map, Function.comp_def, Renaming.exported_exportId]
  rw [Session.tearDownAll, Session.tearDownAll, hids]
  exact foldl (fun h exportId => h.tearDown exportId) h _

theorem removeService (h : Renamed ρ before past s s') (p : Properties) :
    Renamed ρ before past (s.removeService p) (s'.removeService p) := by
  rw [Session.removeService, Session.removeService]
  split
  · exact h
  · rename_i serviceId _
    have hforgotten := h.registry.forgetService serviceId
    refine tearDownAll (h.modify _ _ ?_) fun e => rfl
    exact { hforgotten with toBeExported := by simp only [h.registry.toBeExported] }

theorem revoke (h : Renamed ρ before past s s') (e : Export O) :
    Renamed ρ before past (s.revoke e) (s'.revoke (ρ.exported e)) := by
  have htorn := h.tearDown e.exportId
  exact htorn.modify _ _ (htorn.registry.requeueService e.serviceId)

theorem detachExportFactory (h : Renamed ρ before past s s') (name : String) (factory : Factory) :
    Renamed ρ before past (s.detachExportFactory name factory)
      (s'.detachExportFactory name factory) := by
  have hunbound : Renamed ρ before past
      (s.modify fun r => { r with exportFactories := r.exportFactories.erase name })
      (s'.modify fun r => { r with exportFactories := r.exportFactories.erase name }) :=
    h.modify _ _ (h.registry.unbindExportFactory name)
  have hrevoked := foldl (fun h e => h.revoke e) hunbound
    (s.registry.exports.filter (·.factory == factory))
  rw [← h.filter_exports (p := (·.factory == factory)) fun e => rfl] at hrevoked
  exact hrevoked

theorem addExportFactory (h : Renamed ρ before past s s') (factory : Factory) (p : Properties) :
    Renamed ρ before past (s.addExportFactory factory p) (s'.addExportFactory factory p) := by
  rw [Session.addExportFactory, Session.addExportFactory]
  dsimp only
  rw [h.registry.exportFactories]
  split
  · exact h.modify _ _ (h.registry.bindExportFactory _ factory)
  · rename_i bound _
    split
    · exact h
    · have hdetached := h.detachExportFactory (factory.boundName p) bound
      exact hdetached.modify _ _ (hdetached.registry.bindExportFactory _ factory)

theorem removeExportFactory (h : Renamed ρ before past s s') (factory : Factory) (p : Properties) :
    Renamed ρ before past (s.removeExportFactory factory p) (s'.removeExportFactory factory p) := by
  rw [Session.removeExportFactory, Session.removeExportFactory, h.registry.exportFactories]
  split
  · exact h.detachExportFactory _ factory
  · exact h

theorem removeImport (h : Renamed ρ before past s s') (d : Endpoint) :
    Renamed ρ before past (s.removeImport d) (s'.removeImport (ρ.endpoint d)) := by
  rw [Session.removeImport, Session.removeImport, Renaming.endpoint_id, h.registry.importOf?]
  cases s.registry.importOf? d.id with
  | none => exact h
  | some i =>
    have hrecord := h.record (.removeProxy i.factory i.description)
    exact hrecord.modify _ _ (hrecord.registry.dropImport d)

theorem release (h : Renamed ρ before past s s') (i : Import O) :
    Renamed ρ before past (s.release i) (s'.release (ρ.imported i)) := by
  have hremoved := h.removeImport i.description
  exact hremoved.modify _ _ (hremoved.registry.queueEndpoint i.description)

theorem withdraw (h : Renamed ρ before past s s') (d : Endpoint) :
    Renamed ρ before past (s.withdraw d) (s'.withdraw (ρ.endpoint d)) :=
  (h.modify _ _ (h.registry.dequeueEndpoint d.id)).removeImport d

theorem removeEndpoint (h : Renamed ρ before past s s') (d : Endpoint) :
    Renamed ρ before past (s.removeEndpoint d) (s'.removeEndpoint (ρ.endpoint d)) := by
  rw [Session.removeEndpoint, Session.removeEndpoint, Renaming.endpoint_id, h.registry.known?]
  cases s.registry.known? d.id with
  | none => exact h
  | some known =>
    have hwithdrawn := h.withdraw known
    exact hwithdrawn.modify _ _ (hwithdrawn.registry.unbook known)

variable {env env' : Environment O}

theorem order (h : Renamed ρ before past s s') (henv : env.Follows ρ past env')
    (imports : List (Import O)) :
    env'.order s'.journal
      (imports.map ρ.imported) = (env.order s.journal imports).map ρ.imported := by
  rw [h.journal, henv.order]

theorem detachImportFactory (h : Renamed ρ before past s s') (henv : env.Follows ρ past env')
    (interface : String) :
    Renamed ρ before past (s.detachImportFactory env interface)
      (s'.detachImportFactory env' interface) := by
  have hunbound : Renamed ρ before past
      (s.modify fun r => { r with importFactories := r.importFactories.erase interface })
      (s'.modify fun r => { r with importFactories := r.importFactories.erase interface }) :=
    h.modify _ _ (h.registry.unbindImportFactory interface)
  have hfilter : s'.registry.imports.filter (·.interface == interface) =
      (s.registry.imports.filter (·.interface == interface)).map ρ.imported := by
    simp only [h.registry.imports, List.filter_map, Function.comp_def, Renaming.imported_interface]
  have hreleased := foldl (fun h i => h.release i) hunbound
    (env.order s.journal (s.registry.imports.filter (·.interface == interface)))
  rw [← h.order henv, ← hfilter] at hreleased
  rw [Session.detachImportFactory, Session.detachImportFactory]
  refine hreleased.modify _ _ ?_
  exact hreleased.registry.updateBooks interface fun _ _ hb => hb.bind none

theorem addImportFactory (h : Renamed ρ before past s s') (henv : env.Follows ρ past env')
    (factory : Factory) (p : Properties) : Renamed ρ before past (s.addImportFactory env factory p)
      (s'.addImportFactory env' factory p) := by
  rw [Session.addImportFactory, Session.addImportFactory]
  dsimp only
  rw [h.registry.importFactories]
  split
  · exact h.modify _ _ (h.registry.bindImportFactory _ factory)
  · split
    · exact h
    · have hdetached := h.detachImportFactory henv (factory.boundName p)
      exact hdetached.modify _ _ (hdetached.registry.bindImportFactory _ factory)

theorem removeImportFactory (h : Renamed ρ before past s s') (henv : env.Follows ρ past env')
    (factory : Factory) (p : Properties) :
    Renamed ρ before past (s.removeImportFactory env factory p)
    (s'.removeImportFactory env' factory p) := by
  rw [Session.removeImportFactory, Session.removeImportFactory, h.registry.importFactories]
  split
  · exact h.detachImportFactory henv _
  · exact h

theorem clear (h : Renamed ρ before past s s') (henv : env.Follows ρ past env') :
    Renamed ρ before past (s.clear env) (s'.clear env') := by
  have htorn := h.tearDownAll (p := fun _ => true) fun e => rfl
  have hremoved := foldl (f := fun s i => s.removeImport i.description) (g := ρ.imported)
    (fun h i => h.removeImport i.description) htorn
    (env.order (s.tearDownAll fun _ => true).journal (s.tearDownAll fun _ => true).registry.imports)
  rw [← htorn.order henv, ← htorn.registry.imports] at hremoved
  rw [Session.clear, Session.clear]
  refine hremoved.modify _ _ ?_
  exact { hremoved.registry with
    services := fun _ => rfl
    bookkeeping := fun _ => .none
    toBeExported := rfl
    toBeImported := rfl }

theorem exportInterface (h : Renamed ρ before past s s') (henv : env.Follows ρ past env')
    (serviceId : ServiceId) (service : TrackedService O) (interface : String) :
    Renamed ρ before past (Session.exportInterface env serviceId service interface s).2
      (Session.exportInterface env' serviceId service interface s').2 ∧
    ∀ others others' : Outcome, others'.fate = others.fate →
      (Outcome.cons (Session.exportInterface env' serviceId service interface s').1
        others').fate =
      (Outcome.cons (Session.exportInterface env serviceId service interface s).1
        others).fate := by
  have hsame (fault : RemoteError) (others others' : Outcome)
      (hothers : others'.fate = others.fate) :
      (Outcome.cons (.error fault) others').fate = (Outcome.cons (.error fault) others).fate :=
    Outcome.fate_cons (.same fault) hothers
  rw [Session.exportInterface, Session.exportInterface, h.registry.exportFactories]
  cases s.registry.exportFactories.get? interface with
  | none => exact ⟨h, hsame _⟩
  | some factory =>
    have hasked : Renamed ρ before past (s.record (.connection serviceId interface))
        (s'.record (.connection serviceId interface)) := h.record (.connection serviceId interface)
    have hconnection : env'.connection s'.journal serviceId interface =
        env.connection s.journal serviceId interface := by
      rw [h.journal, henv.connection]
    dsimp only
    rw [hconnection]
    generalize s.record (.connection serviceId interface) = asked,
      s'.record (.connection serviceId interface) = asked' at hasked ⊢
    cases env.connection s.journal serviceId interface with
    | error fault => exact ⟨hasked, hsame fault⟩
    | ok connection =>
      have hd : Endpoint.make (env'.freshId asked'.journal) serviceId
          asked'.registry.frameworkUuid interface
          (endpointProperties service.properties connection env'.configurationType) =
        ρ.endpoint (.make (env.freshId asked.journal) serviceId
          asked.registry.frameworkUuid interface
          (endpointProperties service.properties connection env.configurationType)) := by
        rw [Renaming.endpoint_make, hasked.journal, henv.freshId, hasked.registry.frameworkUuid,
          henv.configurationType]
      dsimp only
      rw [hd]
      generalize Endpoint.make (env.freshId asked.journal) serviceId
        asked.registry.frameworkUuid interface _ = d
      have hwrap := henv.wrap asked.journal factory service.object d
      rw [← hasked.journal] at hwrap
      -- Both factories refuse, perhaps in other words, or both make a handler.
      obtain ⟨cause, cause', hanswer, hanswer'⟩ | ⟨handler, hanswer, hanswer'⟩ :=
        eq_error_or_eq_ok_of_toOption hwrap
      · rw [hanswer, hanswer']
        exact ⟨hasked.record (.createEndpoint factory d false), fun _ _ => Outcome.fate_cons
          (.reworded interface cause cause')⟩
      · rw [hanswer, hanswer']
        have hrecord := hasked.record (.createEndpoint factory d true)
        dsimp only
        exact ⟨hrecord.modify _ _
          (hrecord.registry.addExport serviceId service.object d handler factory), fun _ _ => id⟩

theorem exportInterfaces (h : Renamed ρ before past s s') (henv : env.Follows ρ past env')
    (serviceId : ServiceId) (service : TrackedService O) (interfaces : List String) :
    Renamed ρ before past (Session.exportInterfaces env serviceId service interfaces s).2
        (Session.exportInterfaces env' serviceId service interfaces s').2 ∧
      (Session.exportInterfaces env' serviceId service interfaces s').1.fate =
        (Session.exportInterfaces env serviceId service interfaces s).1.fate := by
  induction interfaces generalizing s s' with
  | nil => exact ⟨h, rfl⟩
  | cons interface interfaces ih =>
    rw [Session.exportInterfaces, Session.exportInterfaces, h.registry.isExported]
    split
    · exact ih h
    · obtain ⟨hfirst, hfate⟩ := h.exportInterface henv serviceId service interface
      obtain ⟨hothers, hothersFate⟩ := ih hfirst
      exact ⟨hothers, hfate _ _ hothersFate⟩

theorem tryService (h : Renamed ρ before past s s') (henv : env.Follows ρ past env')
    (serviceId : ServiceId) :
    Renamed ρ before past (Session.tryService env serviceId s)
      (Session.tryService env' serviceId s') := by
  have hservice : Renamed ρ before past (exportService env serviceId s).2
    (exportService env' serviceId s').2 ∧
      (exportService env' serviceId s').1.fate = (exportService env serviceId s).1.fate := by
    rw [exportService, exportService, h.registry.services]
    split
    · exact ⟨h, rfl⟩
    · split
      · exact ⟨h, rfl⟩
      · exact h.exportInterfaces henv serviceId _ _
  obtain ⟨htried, hfate⟩ := hservice
  rw [tryService_eq, tryService_eq, hfate]
  refine htried.modify _ _ ?_
  cases (exportService env serviceId s).1.fate with
  | done => exact htried.registry
  | waits => exact htried.registry.queueService serviceId
  | forgotten => exact htried.registry.forgetService serviceId

theorem exportAll (h : Renamed ρ before past s s') (henv : env.Follows ρ past env')
    (queue : List ServiceId) :
    Renamed ρ before past (Session.exportAll env queue s) (Session.exportAll env' queue s') := by
  induction queue generalizing s s' with
  | nil => exact h
  | cons serviceId queue ih => exact ih (h.tryService henv serviceId)

theorem importEndpoint (h : Renamed ρ before past s s') (henv : env.Follows ρ past env')
    (d : Endpoint) :
    Renamed ρ before past (Session.importEndpoint env d s)
      (Session.importEndpoint env' (ρ.endpoint d) s') := by
  rw [Session.importEndpoint, Session.importEndpoint, Renaming.endpoint_id,
    h.registry.importOf?, Option.isSome_map]
  split
  · exact h
  · have hbooked : Renamed ρ before past (s.modify (·.book d))
        (s'.modify (·.book (ρ.endpoint d))) :=
      h.modify _ _ (h.registry.book d)
    dsimp only
    generalize s.modify (·.book d) = booked,
      s'.modify (·.book (ρ.endpoint d)) = booked' at hbooked ⊢
    rw [Renaming.endpoint_interface, (hbooked.registry.bookkeepingOf d.interface).factory]
    cases (booked.registry.bookkeepingOf d.interface).factory with
    | none => exact hbooked.modify _ _ (hbooked.registry.queueEndpoint d)
    | some factory =>
      have hproxy := henv.proxy booked.journal factory d
      rw [← hbooked.journal] at hproxy
      dsimp only
      obtain ⟨cause, cause', hanswer, hanswer'⟩ | ⟨proxy, hanswer, hanswer'⟩ :=
        eq_error_or_eq_ok_of_toOption hproxy
      · rw [hanswer, hanswer']
        have hrecord := hbooked.record (.createProxy factory d false)
        exact hrecord.modify _ _ (hrecord.registry.queueEndpoint d)
      · rw [hanswer, hanswer']
        have hrecord := hbooked.record (.createProxy factory d true)
        exact hrecord.modify _ _ (hrecord.registry.addImport d proxy factory)

theorem importAll (h : Renamed ρ before past s s') (henv : env.Follows ρ past env')
    (queue : List Endpoint) :
    Renamed ρ before past (Session.importAll env queue s)
      (Session.importAll env' (queue.map ρ.endpoint) s') := by
  induction queue generalizing s s' with
  | nil => exact h
  | cons d queue ih => exact ih (h.importEndpoint henv d)

theorem reconcile (h : Renamed ρ before past s s') (henv : env.Follows ρ past env') :
    Renamed ρ before past (s.reconcile env) (s'.reconcile env') := by
  have hidle : Renamed ρ before past (s.modify fun r => { r with toBeExported := [] })
      (s'.modify fun r => { r with toBeExported := [] }) :=
        h.modify _ _ { h.registry with toBeExported := rfl }
  have hexported := hidle.exportAll henv s.registry.toBeExported
  rw [Session.reconcile, Session.reconcile, h.registry.toBeExported]
  generalize Session.exportAll env _ _ = t, Session.exportAll env' _ _ = t' at hexported ⊢
  have hidle' : Renamed ρ before past (t.modify fun r => { r with toBeImported := [] })
      (t'.modify fun r => { r with toBeImported := [] }) :=
        hexported.modify _ _ { hexported.registry with toBeImported := rfl }
  rw [hexported.registry.toBeImported]
  exact hidle'.importAll henv t.registry.toBeImported

/-- Told the same, the sessions stay the same but for the renaming. -/
theorem apply (h : Renamed ρ before past s s') (henv : env.Follows ρ past env') (op : Operation O) :
    Renamed ρ before past (s.apply env op) (s'.apply env' (ρ.operation op)) := by
  cases op with
  | addService object p =>
    exact h.modify (·.addService object p) (·.addService object p) (h.registry.addService object p)
  | removeService p => exact h.removeService p
  | addExportFactory f p => exact h.addExportFactory f p
  | removeExportFactory f p => exact h.removeExportFactory f p
  | addImportFactory f p => exact h.addImportFactory henv f p
  | removeImportFactory f p => exact h.removeImportFactory henv f p
  | addEndpoint d =>
    exact h.modify (·.addEndpoint d) (·.addEndpoint (ρ.endpoint d)) (h.registry.addEndpoint d)
  | removeEndpoint d => exact h.removeEndpoint d
  | reconcile => exact h.reconcile henv
  | clear => exact h.clear henv

theorem runEach (h : Renamed ρ before past s s') {steps steps' : List (Environment O × Operation O)}
    (hsteps : List.Forall₂ (fun a b => a.1.Follows ρ past b.1 ∧
      b.2 = ρ.operation a.2) steps steps') :
    Renamed ρ before past (s.runEach steps) (s'.runEach steps') := by
  induction hsteps generalizing s s' with
  | nil => exact h
  | @cons a b steps steps' hstep _ ih =>
    have happlied := h.apply hstep.1 a.2
    rw [← hstep.2] at happlied
    exact ih happlied

end Renamed

end Session

end RemoteServices
