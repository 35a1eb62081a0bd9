import RemoteServices.Proofs.Custody
import RemoteServices.Proofs.Lockstep
import RemoteServices.Proofs.Redelivery

/-!
# Shutting down

When a registry is cleared, all that it exported and imported is taken down and nothing is left but
the factories.  What comes after goes as with a registry that was never used (`Session.NewWith`),
except that exports are numbered on and that the calls and the effects of the past are still there:
`Registry.Reachable.starts_over`.
-/
namespace RemoteServices

variable {O : Objects}

/-- The operation binds a factory. -/
def Operation.Binds : Operation O → Prop
  | .addExportFactory _ _ => True
  | .addImportFactory _ _ => True
  | _ => False

namespace Registry

/-- A registry that knows factories and nothing else. -/
def withFactories (frameworkUuid : String) (importLocalEndpoints : Bool)
    (exportFactories importFactories : Table String Factory) :
    Registry O :=
  { Registry.empty frameworkUuid importLocalEndpoints with
    exportFactories := exportFactories, importFactories := importFactories }

end Registry

namespace Session

/-- A session that has just begun, with the factories that are bound in the registry `r`. -/
structure NewWith (r : Registry O) (new : Session O) : Prop where
  eq : ∃ exportFactories importFactories,
    new = .ofRegistry
      (.withFactories r.frameworkUuid r.importLocalEndpoints exportFactories importFactories)
  exportFactories : ∀ name, new.registry.exportFactories.get? name = r.exportFactories.get? name
  importFactories : ∀ name, new.registry.importFactories.get? name = r.importFactories.get? name

/-- Factories that are bound before anything else meet nothing. -/
theorem runEach_binds (frameworkUuid : String) (importLocalEndpoints : Bool)
    {binds : List (Environment O × Operation O)} (hbinds : ∀ step ∈ binds, step.2.Binds)
    (exportFactories importFactories : Table String Factory) :
    ∃ exportFactories' importFactories',
      (Session.ofRegistry (.withFactories frameworkUuid importLocalEndpoints
        exportFactories importFactories)).runEach binds =
      .ofRegistry (.withFactories frameworkUuid importLocalEndpoints
        exportFactories' importFactories') := by
  induction binds generalizing exportFactories importFactories with
  | nil => exact ⟨_, _, rfl⟩
  | cons step binds ih =>
    obtain ⟨env, op⟩ := step
    obtain ⟨hop, hbinds⟩ := List.forall_mem_cons.mp hbinds
    have hstep : ∃ exportFactories' importFactories',
        (Session.ofRegistry (.withFactories frameworkUuid importLocalEndpoints
          exportFactories importFactories)).apply env op =
        .ofRegistry (.withFactories frameworkUuid importLocalEndpoints
          exportFactories' importFactories') := by
      cases op with
      | addExportFactory f p =>
        rw [apply, addExportFactory]
        dsimp only
        split
        · exact ⟨_, _, rfl⟩
        · split <;> exact ⟨_, _, rfl⟩
      | addImportFactory f p =>
        rw [apply, addImportFactory]
        dsimp only
        split
        · exact ⟨_, _, rfl⟩
        · split
          · exact ⟨_, _, rfl⟩
          · obtain ⟨imports, hperm, heq⟩ := detachImportFactory_eq (s := .ofRegistry
              (.withFactories frameworkUuid importLocalEndpoints exportFactories importFactories))
                List.nodup_nil env (f.boundName p)
            obtain rfl : imports = [] := List.perm_nil.mp hperm
            rw [heq]
            exact ⟨_, _, rfl⟩
      | _ => exact hop.elim
    obtain ⟨exportFactories', importFactories', heq⟩ := hstep
    obtain ⟨exportFactories'', importFactories'', hrest⟩ :=
      ih hbinds exportFactories' importFactories'
    exact ⟨_, _, (congrArg (runEach binds) heq).trans hrest⟩

theorem newWith_runEach {r : Registry O} {binds : List (Environment O × Operation O)}
    (hbinds : ∀ step ∈ binds, step.2.Binds) {new : Session O}
    (hnew : new =
      (Session.ofRegistry (.empty r.frameworkUuid r.importLocalEndpoints)).runEach binds)
    (hexport : ∀ name, new.registry.exportFactories.get? name = r.exportFactories.get? name)
    (himport : ∀ name, new.registry.importFactories.get? name = r.importFactories.get? name) :
    new.NewWith r := by
  obtain ⟨exportFactories, importFactories, heq⟩ :=
    runEach_binds r.frameworkUuid r.importLocalEndpoints hbinds ∅ ∅
  exact ⟨⟨exportFactories, importFactories, hnew.trans heq⟩, hexport, himport⟩

end Session

namespace Renaming

/-- The renaming that only numbers exports later. -/
def shift (later : Nat) : Renaming O :=
  ⟨fun s => s, fun _ _ h => h, fun handler => handler, fun proxy => proxy, later⟩

theorem shift_endpoint (later : Nat) (d : Endpoint) :
    (shift later : Renaming O).endpoint d = d := by
  obtain ⟨id, serviceId, frameworkUuid, interface, p, hid, hserviceId, huuid,
      hinterface, himported⟩ := d
  have hproperties : Endpoint.identify id serviceId frameworkUuid interface p = p :=
    Properties.ext_get? fun key => by
      rw [Endpoint.get?_identify]
      split_ifs with h₁ h₂ h₃ h₄ h₅ <;> simp_all
  simp only [shift, endpoint, Endpoint.make, hproperties]

theorem shift_imported (later : Nat) (i : Import O) : (shift later).imported i = i := by
  obtain ⟨d, proxy, factory⟩ := i
  simp only [imported, shift_endpoint]
  rfl

theorem shift_call (later : Nat) (c : Call) : (shift later : Renaming O).call c = c := by
  cases c <;> simp only [call, shift_endpoint]

theorem shift_operation (later : Nat) (op : Operation O) : (shift later).operation op = op := by
  cases op <;> simp only [operation, shift_endpoint]

end Renaming

namespace Environment

/-- The environment as it answers to someone with this past. -/
def after (past : Journal) (env : Environment O) : Environment O where
  configurationType := env.configurationType
  freshId j := env.freshId (j ++ past)
  connection j := env.connection (j ++ past)
  wrap j := env.wrap (j ++ past)
  proxy j := env.proxy (j ++ past)
  order j := env.order (j ++ past)
  order_perm j := env.order_perm (j ++ past)

theorem follows_after (later : Nat) (past : Journal) (env : Environment O) :
    (env.after past).Follows (.shift later) past env := by
  have hjournal (j : Journal) : j.map (Renaming.shift later : Renaming O).call = j :=
    List.map_id'' (Renaming.shift_call later) j
  have himports (imports : List (Import O)) :
      imports.map (Renaming.shift later).imported = imports :=
    List.map_id'' (Renaming.shift_imported later) imports
  refine ⟨rfl, fun j => ?_, fun j serviceId interface => ?_, fun j factory object d =>
    ?_, fun j factory d => ?_, fun j imports => ?_⟩
  · rw [hjournal]
    rfl
  · rw [hjournal]
    rfl
  · rw [hjournal, Renaming.shift_endpoint]
    exact Option.map_id'.symm
  · rw [hjournal, Renaming.shift_endpoint]
    exact Option.map_id'.symm
  · rw [hjournal, himports, himports]
    rfl

end Environment

namespace Session

/-- A session whose registry knows nothing but factories is new, but for what happened before. -/
theorem NewWith.renamed {new s : Session O} {r : Registry O} (hnew : new.NewWith r) {ρ : Renaming O}
    {before : List (Effect O)} (hs : s.registry = { r with
      services := ∅, exports := [], imports := [], bookkeeping := ∅, toBeExported := [],
      toBeImported := [], effects := before })
    (hnumber : r.nextExportId = ρ.later + 1) : new.Renamed ρ before s.journal s := by
  obtain ⟨⟨exportFactories, importFactories, rfl⟩, hexport, himport⟩ := hnew
  refine ⟨?_, rfl⟩
  rw [hs]
  exact {
    frameworkUuid := rfl
    importLocalEndpoints := rfl
    services := fun _ => rfl
    exportFactories := fun name => (hexport name).symm
    importFactories := fun name => (himport name).symm
    exports := rfl
    imports := rfl
    bookkeeping := fun _ => .none
    toBeExported := rfl
    toBeImported := rfl
    nextExportId := hnumber.trans (Nat.add_comm _ _)
    effects := (List.append_nil before).symm }

end Session

theorem Session.nextExportId_le {s : Session O} (hmatched : s.registry.Matched)
    (hdistinct : s.registry.Distinct) (env : Environment O) (op : Operation O) :
    s.registry.nextExportId ≤ (s.apply env op).registry.nextExportId := by
  have hdetach (name : String) (factory : Factory) :
      (s.detachExportFactory name factory).registry.nextExportId = s.registry.nextExportId := by
    obtain ⟨q, heq, -⟩ := detachExportFactory_eq hmatched.toNumbered name factory
    rw [heq]
    rfl
  have hside {t : Session O} (h : t.registry.exportSide = s.registry.exportSide) :
      s.registry.nextExportId ≤ t.registry.nextExportId := (congrArg ExportSide.nextExportId h).ge
  cases op with
  | addService object p =>
    obtain ⟨services, queue, heq⟩ := s.registry.addService_eq object p
    rw [apply, modify, heq]
  | removeService p =>
    cases hp : p.int64? Key.serviceId with
    | none => rw [apply, removeService, hp]
    | some serviceId =>
      rw [apply, removeService_eq hmatched.toNumbered hp]
      exact Nat.le_refl _
  | addExportFactory f p =>
    rw [apply, addExportFactory]
    dsimp only
    split
    · exact Nat.le_refl _
    · split
      · exact Nat.le_refl _
      · exact (hdetach _ _).ge
  | removeExportFactory f p =>
    rw [apply, removeExportFactory]
    split
    · exact (hdetach _ _).ge
    · exact Nat.le_refl _
  | addImportFactory f p => exact hside (exportSide_addImportFactory env f p s)
  | removeImportFactory f p => exact hside (exportSide_removeImportFactory env f p s)
  | addEndpoint d =>
    exact hside (t := s.modify (·.addEndpoint d)) (s.registry.exportSide_addEndpoint d)
  | removeEndpoint d => exact hside (exportSide_removeEndpoint d s)
  | reconcile =>
    obtain ⟨created, requeued, dropped, calls, made, waiting, books, calls', heq, -⟩ :=
      reconcile_eq hmatched hdistinct env
    rw [apply, heq]
    exact Nat.le_add_right _ _
  | clear =>
    obtain ⟨imports, -, heq⟩ := clear_eq hmatched.toNumbered hdistinct.imports env
    rw [apply, heq]

theorem Registry.Reachable.nextExportId_pos {r : Registry O} (h : r.Reachable) :
    0 < r.nextExportId := by
  induction h with
  | empty => exact Nat.one_pos
  | apply env op h ih =>
    exact Nat.lt_of_lt_of_le ih (Session.nextExportId_le h.matched h.distinct env op)
  | takeEffect _ he ih =>
    rw [(takeEffect_eq_some.mp he).2]
    exact ih

theorem Session.History.made_by {s : Session O} {told : List (Effect O)} (h : s.History told) :
    (∀ e ∈ s.registry.exports, .createEndpoint e.factory e.description true ∈ s.journal) ∧
      ∀ i ∈ s.registry.imports, .createProxy i.factory i.description true ∈ s.journal := by
  refine ⟨fun e he => ?_, fun i hi => ?_⟩
  · obtain ⟨earlier, later, hsplit, -⟩ := ((Hook.paired_of_held? h.holds.endpoints).mem_iff _ _).mp
      (List.mem_map_of_mem he)
    refine Journal.take_mem_hooks ?_
    rw [hsplit]
    exact List.mem_append_right _ List.mem_cons_self
  · obtain ⟨earlier, later, hsplit, -⟩ := ((Hook.paired_of_held? h.holds.proxies).mem_iff _ _).mp
      (List.mem_map_of_mem hi)
    have htake : Hook.take (i.factory, i.description) ∈ s.journal.hooks Call.proxyHook? := by
      rw [hsplit]
      exact List.mem_append_right _ List.mem_cons_self
    obtain ⟨c, hc, hhook⟩ := List.mem_filterMap.mp htake
    cases c with
    | createProxy f d created =>
      cases created with
      | false => cases hhook
      | true =>
        obtain ⟨rfl, rfl⟩ := Prod.mk.inj (Hook.take.inj (Option.some.inj hhook))
        exact List.mem_reverse.mp hc
    | _ => cases hhook

/-- Clearing a registry, whatever it has been through, takes down each export and each import once,
by the factory that made it, and tells so, the exports in their order before the imports; nothing is
left but the factories and the next number, and there is nothing to be done then.  From there on the
registry lives as a new one with the same factories does, whatever both are told and whatever they
are answered: but for ids and numbers it has the same services, queues, books, exports and imports,
and tells the same. -/
theorem Registry.Reachable.starts_over {s : Session O} (h : s.registry.Reachable)
    (env : Environment O) :
    (∃ imports : List (Import O), imports.Perm s.registry.imports ∧ s.clear env =
      ⟨{ s.registry with
          services := ∅, exports := [], imports := [], bookkeeping := ∅,
          toBeExported := [], toBeImported := []
          effects :=
            s.registry.effects ++ s.registry.exports.map (fun e => .retract e.description) ++
            imports.map fun i => .unregister i.endpointId },
        (imports.map fun i => .removeProxy i.factory i.description).reverse ++
          ((s.registry.exports.map fun e => .removeEndpoint e.factory e.description).reverse ++
            s.journal)⟩) ∧
    (∀ told, s.History told →
      (∀ e ∈ s.registry.exports, .createEndpoint e.factory e.description true ∈ s.journal) ∧
      ∀ i ∈ s.registry.imports, .createProxy i.factory i.description true ∈ s.journal) ∧
    (∀ env', (s.clear env).reconcile env' = s.clear env) ∧
    (∀ new : Session O, new.NewWith s.registry → ∀ ρ : Renaming O,
      s.registry.nextExportId = ρ.later + 1 →
      ∀ steps steps', List.Forall₂ (fun a b => a.1.Follows ρ (s.clear env).journal b.1 ∧
        b.2 = ρ.operation a.2) steps steps' →
        (new.runEach steps).Renamed ρ (s.clear env).registry.effects (s.clear env).journal
          ((s.clear env).runEach steps')) ∧
    (∀ new : Session O, new.NewWith s.registry → ∀ steps : List (Environment O × Operation O),
      (new.runEach (steps.map fun step => (step.1.after (s.clear env).journal, step.2))).Renamed
        (.shift (s.registry.nextExportId - 1)) (s.clear env).registry.effects (s.clear env).journal
        ((s.clear env).runEach steps)) ∧
    ∀ (binds : List (Environment O × Operation O)) (new : Session O),
      (∀ step ∈ binds, step.2.Binds) →
      new = (Session.ofRegistry
        (.empty s.registry.frameworkUuid s.registry.importLocalEndpoints)).runEach binds →
      (∀ name, new.registry.exportFactories.get? name = s.registry.exportFactories.get? name) →
      (∀ name, new.registry.importFactories.get? name = s.registry.importFactories.get? name) →
      new.NewWith s.registry := by
  obtain ⟨imports, hperm, heq⟩ := Session.clear_eq h.matched.toNumbered h.distinct.imports env
  have hrenamed (new : Session O) (hnew : new.NewWith s.registry) (ρ : Renaming O)
      (hnumber : s.registry.nextExportId = ρ.later + 1) :
      new.Renamed ρ (s.clear env).registry.effects (s.clear env).journal (s.clear env) :=
    hnew.renamed (by rw [heq]) hnumber
  refine ⟨⟨imports, hperm, heq⟩, fun told htold => htold.made_by, fun env' => ?_,
    fun new hnew ρ hnumber steps steps' hsteps => ?_, fun new hnew steps => ?_,
    fun binds new hbinds heq hexport himport => Session.newWith_runEach hbinds heq hexport himport⟩
  · rw [heq]
    exact Session.reconcile_of_idle env' rfl rfl
  · exact (hrenamed new hnew ρ hnumber).runEach hsteps
  · have hnumber : s.registry.nextExportId = s.registry.nextExportId - 1 + 1 := by
      have hpos := h.nextExportId_pos
      omega
    refine (hrenamed new hnew (.shift _) hnumber).runEach ?_
    refine List.forall₂_map_left_iff.mpr (List.forall₂_same.mpr fun step _ => ?_)
    exact ⟨Environment.follows_after _ _ step.1, (Renaming.shift_operation _ step.2).symm⟩

/-- An export whose service the transport called illegal is shut down, and so is an import.  Then a
service is added, and exported as it would be by a new registry, but under another id and number. -/
theorem Registry.Reachable.starts_over_forgotten :
    let service (interfaces : String) : Properties :=
      .ofList [(Key.serviceId, "7"), (Key.objectClass, interfaces), (Key.exportedInterfaces, "*")]
    let env : Environment .plain := { Environment.granting with
      freshId := fun j => .ofList (List.replicate j.length 'i')
      connection :=
        fun _ _ i => if i = "B" then .error (.illegalArgument "unreachable") else .ok ∅ }
    let binds : List (Environment .plain × Operation .plain) :=
      [(env, .addExportFactory ⟨"f", "A"⟩ ∅), (env, .addExportFactory ⟨"g", "B"⟩ ∅),
        (env, .addImportFactory ⟨"h", "C"⟩ ∅)]
    let new := (Session.ofRegistry (.empty "here" false)).runEach binds
    let s := new.run env
      [.addService () (service "A, B"), .addEndpoint (.make "x" 8 "there" "C" ∅), .reconcile]
    let steps : List (Environment .plain × Operation .plain) :=
      [(env, .addService () (service "A")), (env, .reconcile)]
    ∃ ρ : Renaming .plain, s.registry.Reachable ∧ s.registry.exports.map Export.pair = [(7, "A")] ∧
      s.registry.services.get? 7 = none ∧ s.registry.imports.map Import.endpointId = ["x"] ∧
      (s.clear env).registry.effects.length = 4 ∧ (s.clear env).reconcile env = s.clear env ∧
      new.NewWith s.registry ∧
      (new.runEach steps).Renamed ρ (s.clear env).registry.effects (s.clear env).journal
        ((s.clear env).runEach steps) ∧
      (new.runEach steps).registry.exports.map (fun e => (e.exportId, e.description.id)) =
        [(1, "i")] ∧
      ((s.clear env).runEach steps).registry.exports.map (fun e => (e.exportId, e.description.id)) =
        [(2, "iiiiiii")] := by
  intro service env binds new s steps
  let ρ : Renaming .plain := {
    id := fun text => .ofList (List.replicate (s.clear env).journal.length 'i' ++ text.toList)
    injective :=
      fun a b h => String.toList_injective (List.append_cancel_left (String.ofList_injective h))
    handler := fun handler => handler
    proxy := fun proxy => proxy
    later := 1 }
  have hfollows : env.Follows ρ (s.clear env).journal env := by
    refine ⟨rfl, fun j => ?_, fun _ _ _ => rfl, fun _ _ _ _ => rfl,
      fun _ _ _ => rfl, fun _ _ => rfl⟩
    simp only [env, ρ, List.length_append, List.length_map, String.toList_ofList,
      List.replicate_append_replicate, Nat.add_comm]
  have h : s.registry.Reachable := by
    have hempty :
        (Session.ofRegistry (Registry.empty "here" false : Registry .plain)).registry.Reachable :=
      .empty "here" false
    have hbound := hempty.run env
      [.addExportFactory ⟨"f", "A"⟩ ∅, .addExportFactory ⟨"g", "B"⟩ ∅,
        .addImportFactory ⟨"h", "C"⟩ ∅]
    exact hbound.run env _
  obtain ⟨-, -, hidle, hcompare, -, hnew⟩ := h.starts_over env
  have hnew : new.NewWith s.registry := by
    have hframework : s.registry.frameworkUuid = "here" := by decide +kernel
    have hlocal : s.registry.importLocalEndpoints = false := by decide +kernel
    have hexport : new.registry.exportFactories = s.registry.exportFactories := by decide +kernel
    have himport : new.registry.importFactories = s.registry.importFactories := by decide +kernel
    refine hnew binds new ?_ ?_ (fun name => ?_) fun name => ?_
    · simp [binds, Operation.Binds]
    · rw [hframework, hlocal]
    · rw [hexport]
    · rw [himport]
  refine ⟨ρ, h, by decide +kernel, by decide +kernel, by decide +kernel, by decide +kernel,
    hidle env, hnew, ?_, by decide +kernel, by decide +kernel⟩
  refine hcompare new hnew ρ (by decide +kernel) steps steps ?_
  simp [steps, hfollows, Renaming.operation]

end RemoteServices
