import RemoteServices.Registry.Operation

/-!
# The two sides of a registry

Services, export factories and exports on the one side and endpoints, import factories and imports
on the other share nothing but the queue of effects.  What concerns one side leaves the other as it
is.
-/
namespace RemoteServices

/-- What a registry knows about exports. -/
structure ExportSide (O : Objects) where
  frameworkUuid : String
  services : Table ServiceId (TrackedService O)
  factories : Table String Factory
  exports : List (Export O)
  waiting : List ServiceId
  nextExportId : Nat

/-- What a registry knows about imports. -/
structure ImportSide (O : Objects) where
  frameworkUuid : String
  importLocalEndpoints : Bool
  factories : Table String Factory
  imports : List (Import O)
  books : Table String Bookkeeping
  waiting : List Endpoint

variable {O : Objects}

namespace Registry

def exportSide (r : Registry O) : ExportSide O :=
  ⟨r.frameworkUuid, r.services, r.exportFactories, r.exports, r.toBeExported, r.nextExportId⟩

def importSide (r : Registry O) : ImportSide O :=
  ⟨r.frameworkUuid, r.importLocalEndpoints, r.importFactories, r.imports,
    r.bookkeeping, r.toBeImported⟩

theorem importSide_requeueService (r : Registry O) (serviceId : ServiceId) :
    (r.requeueService serviceId).importSide = r.importSide := by
  rw [requeueService]
  split <;> rfl

theorem addService_eq (r : Registry O) (object : O.Service) (p : Properties) :
    ∃ services queue,
      r.addService object p = { r with services := services, toBeExported := queue } := by
  rw [addService]
  split
  · exact ⟨_, _, rfl⟩
  · split
    · exact ⟨_, _, rfl⟩
    · exact ⟨_, _, rfl⟩

theorem addEndpoint_eq (r : Registry O) (d : Endpoint) :
    ∃ books queue, r.addEndpoint d = { r with bookkeeping := books, toBeImported := queue } := by
  rw [addEndpoint]
  split
  · exact ⟨_, _, rfl⟩
  · split
    · exact ⟨_, _, rfl⟩
    · exact ⟨_, _, rfl⟩

theorem unbook_eq (r : Registry O) (d : Endpoint) :
    ∃ books, r.unbook d = { r with bookkeeping := books } := by
  rw [unbook]
  split
  · exact ⟨_, rfl⟩
  · dsimp only
    split
    · exact ⟨_, rfl⟩
    · exact ⟨_, rfl⟩

theorem importSide_addService (r : Registry O) (object : O.Service) (p : Properties) :
    (r.addService object p).importSide = r.importSide := by
  obtain ⟨services, queue, heq⟩ := r.addService_eq object p
  rw [heq]
  rfl

theorem exportSide_addEndpoint (r : Registry O) (d : Endpoint) :
    (r.addEndpoint d).exportSide = r.exportSide := by
  obtain ⟨books, queue, heq⟩ := r.addEndpoint_eq d
  rw [heq]
  rfl

theorem exportSide_unbook (r : Registry O) (d : Endpoint) :
    (r.unbook d).exportSide = r.exportSide := by
  obtain ⟨books, heq⟩ := r.unbook_eq d
  rw [heq]
  rfl

end Registry

namespace Session

theorem foldl_keeps {α β : Type} {f : Session O → α → Session O} {side : Registry O → β}
    (h : ∀ s a, side (f s a).registry = side s.registry) (as : List α) (s : Session O) :
    side (as.foldl f s).registry = side s.registry := by
  induction as generalizing s with
  | nil => rfl
  | cons a as ih => rw [List.foldl_cons, ih, h]

theorem importSide_tearDown (s : Session O) (exportId : Nat) :
    (s.tearDown exportId).registry.importSide = s.registry.importSide := by
  rw [tearDown]
  split <;> rfl

theorem importSide_tearDownAll (p : Export O → Bool) (s : Session O) :
    (s.tearDownAll p).registry.importSide = s.registry.importSide :=
  foldl_keeps importSide_tearDown _ s

theorem importSide_removeService (p : Properties) (s : Session O) :
    (s.removeService p).registry.importSide = s.registry.importSide := by
  rw [removeService]
  split
  · rfl
  · exact importSide_tearDownAll _ _

theorem importSide_revoke (s : Session O) (e : Export O) :
    (s.revoke e).registry.importSide = s.registry.importSide := by
  rw [revoke, modify, Registry.importSide_requeueService, importSide_tearDown]

theorem importSide_detachExportFactory (name : String) (factory : Factory) (s : Session O) :
    (s.detachExportFactory name factory).registry.importSide = s.registry.importSide :=
  foldl_keeps importSide_revoke _ _

theorem importSide_addExportFactory (factory : Factory) (p : Properties) (s : Session O) :
    (s.addExportFactory factory p).registry.importSide = s.registry.importSide := by
  rw [addExportFactory]
  dsimp only
  split
  · rfl
  · split
    · rfl
    · exact importSide_detachExportFactory _ _ s

theorem importSide_removeExportFactory (factory : Factory) (p : Properties) (s : Session O) :
    (s.removeExportFactory factory p).registry.importSide = s.registry.importSide := by
  rw [removeExportFactory]
  split
  · exact importSide_detachExportFactory _ _ s
  · rfl

theorem importSide_exportInterface (env : Environment O) (serviceId : ServiceId)
    (service : TrackedService O) (interface : String) (s : Session O) :
    (exportInterface env serviceId service interface s).2.registry.importSide =
      s.registry.importSide := by
  rw [exportInterface]
  split
  · rfl
  · dsimp only
    split
    · rfl
    · split <;> rfl

theorem importSide_exportInterfaces (env : Environment O) (serviceId : ServiceId)
    (service : TrackedService O) (interfaces : List String) (s : Session O) :
    (exportInterfaces env serviceId service interfaces s).2.registry.importSide =
      s.registry.importSide := by
  induction interfaces generalizing s with
  | nil => rfl
  | cons interface interfaces ih =>
    rw [exportInterfaces]
    split
    · exact ih s
    · exact (ih _).trans (importSide_exportInterface env serviceId service interface s)

theorem importSide_tryService (env : Environment O) (serviceId : ServiceId) (s : Session O) :
    (tryService env serviceId s).registry.importSide = s.registry.importSide := by
  have hservice : (exportService env serviceId s).2.registry.importSide =
      s.registry.importSide := by
    rw [exportService]
    split
    · rfl
    · split
      · rfl
      · exact importSide_exportInterfaces env serviceId _ _ s
  rw [tryService]
  dsimp only
  split
  · exact hservice
  · exact hservice
  · split <;> exact hservice

theorem importSide_exportAll (env : Environment O) (queue : List ServiceId) (s : Session O) :
    (exportAll env queue s).registry.importSide = s.registry.importSide := by
  induction queue generalizing s with
  | nil => rfl
  | cons serviceId queue ih => rw [exportAll, ih, importSide_tryService]

theorem exportSide_removeImport (s : Session O) (d : Endpoint) :
    (s.removeImport d).registry.exportSide = s.registry.exportSide := by
  rw [removeImport]
  split <;> rfl

theorem exportSide_release (s : Session O) (i : Import O) :
    (s.release i).registry.exportSide = s.registry.exportSide :=
  exportSide_removeImport s i.description

theorem exportSide_detachImportFactory (env : Environment O) (interface : String) (s : Session O) :
    (s.detachImportFactory env interface).registry.exportSide = s.registry.exportSide :=
  foldl_keeps exportSide_release _ _

theorem exportSide_addImportFactory (env : Environment O) (factory : Factory) (p : Properties)
    (s : Session O) :
    (s.addImportFactory env factory p).registry.exportSide = s.registry.exportSide := by
  rw [addImportFactory]
  dsimp only
  split
  · rfl
  · split
    · rfl
    · exact exportSide_detachImportFactory env _ s

theorem exportSide_removeImportFactory (env : Environment O) (factory : Factory) (p : Properties)
    (s : Session O) :
    (s.removeImportFactory env factory p).registry.exportSide = s.registry.exportSide := by
  rw [removeImportFactory]
  split
  · exact exportSide_detachImportFactory env _ s
  · rfl

theorem exportSide_removeEndpoint (d : Endpoint) (s : Session O) :
    (s.removeEndpoint d).registry.exportSide = s.registry.exportSide := by
  rw [removeEndpoint]
  split
  · rfl
  · rw [modify, Registry.exportSide_unbook, withdraw, exportSide_removeImport]
    rfl

theorem exportSide_importEndpoint (env : Environment O) (d : Endpoint) (s : Session O) :
    (importEndpoint env d s).registry.exportSide = s.registry.exportSide := by
  rw [importEndpoint]
  split
  · rfl
  · dsimp only
    split
    · rfl
    · split <;> rfl

theorem exportSide_importAll (env : Environment O) (queue : List Endpoint) (s : Session O) :
    (importAll env queue s).registry.exportSide = s.registry.exportSide := by
  induction queue generalizing s with
  | nil => rfl
  | cons d queue ih => rw [importAll, ih, exportSide_importEndpoint]

end Session

end RemoteServices
