import RemoteServices.Proofs.TearDown

/-!
# Taking imports down

What is left of a registry when imports are taken down one after the other, in any order: each is
struck from the imports and from the books of its interface, its factory is told once, and its
withdrawal is queued once.
-/
namespace RemoteServices

variable {O : Objects}

@[simp] theorem Import.description_id (i : Import O) : i.description.id = i.endpointId := rfl

@[simp] theorem Import.description_interface (i : Import O) :
    i.description.interface = i.interface := rfl

@[simp] theorem Import.interface_mk (d : Endpoint) (proxy : O.Proxy) (factory : Factory) :
    Import.interface ⟨d, proxy, factory⟩ = d.interface := rfl

namespace Registry

/-- The books without the registrations of the given imports. -/
def strike (books : Table String Bookkeeping) (imports : List (Import O)) :
    Table String Bookkeeping :=
  imports.foldl (fun t i => t.update i.interface (·.removeRegistration i.endpointId)) books

/-- What is left without the given imports, taken down in this order. -/
def withoutImports (imports : List (Import O)) (r : Registry O) : Registry O :=
  { r with
    imports := r.imports.filter fun i => i.endpointId ∉ imports.map Import.endpointId
    bookkeeping := strike r.bookkeeping imports
    effects := r.effects ++ imports.map fun i => .unregister i.endpointId }

theorem get?_strike (books : Table String Bookkeeping) (imports : List (Import O))
    (interface : String) :
    (strike books imports).get? interface = (books.get? interface).map fun b =>
      { b with registrations := b.registrations.filter fun id =>
          id ∉ (imports.filter (·.interface == interface)).map Import.endpointId } := by
  induction imports generalizing books with
  | nil => simp [strike]
  | cons i imports ih =>
    change (strike (books.update i.interface _) imports).get? interface = _
    rw [ih, Table.get?_update]
    by_cases h : interface = i.interface
    · subst h
      rw [if_pos rfl, Option.map_map]
      refine Option.map_congr fun b _ => ?_
      simp [Bookkeeping.removeRegistration, List.filter_filter, Bool.and_comm, bne]
      rfl
    · have hne : (i.interface == interface) = false := by
        simpa using fun he : i.interface = interface => h he.symm
      rw [if_neg h, List.filter_cons_of_neg (by simp [hne])]

end Registry

namespace Session

/-- The calls by which factories are told of imports that are gone, the latest first. -/
def farewells (imports : List (Import O)) : Journal :=
  (imports.map fun i => .removeProxy i.factory i.description).reverse

theorem removeImport_of_mem {s : Session O} (h : (s.registry.imports.map Import.endpointId).Nodup)
    {i : Import O} (hi : i ∈ s.registry.imports) :
    s.removeImport i.description =
      ⟨s.registry.dropImport i.description, .removeProxy i.factory i.description :: s.journal⟩ := by
  have hfind : s.registry.importOf? i.description.id = some i := find?_key h hi
  rw [removeImport, hfind]
  rfl

theorem foldl_removeImport (imports : List (Import O)) {s : Session O}
    (h : (s.registry.imports.map Import.endpointId).Nodup)
    (hnodup : (imports.map Import.endpointId).Nodup)
    (hmem : ∀ i ∈ imports, i ∈ s.registry.imports) :
    imports.foldl (fun s i => s.removeImport i.description) s =
      ⟨s.registry.withoutImports imports, farewells imports ++ s.journal⟩ := by
  induction imports generalizing s with
  | nil => simp [farewells, Registry.withoutImports, Registry.strike]
  | cons i imports ih =>
    obtain ⟨hne, hnodup⟩ := List.nodup_cons.mp hnodup
    have hs := removeImport_of_mem h (hmem i List.mem_cons_self)
    have hsub : (s.registry.dropImport i.description).imports.Sublist s.registry.imports :=
      List.filter_sublist
    have hstay : ∀ k ∈ imports, k ∈ (s.registry.dropImport i.description).imports := by
      intro k hk
      refine List.mem_filter.mpr ⟨hmem k (List.mem_cons_of_mem _ hk), ?_⟩
      simpa using fun hki : k.endpointId = i.endpointId => hne (hki ▸ List.mem_map_of_mem hk)
    rw [List.foldl_cons, hs, ih (h.sublist (hsub.map _)) hnodup hstay]
    simp [Registry.dropImport, Registry.emit, Registry.withoutImports, Registry.strike, farewells,
      List.filter_filter, Bool.and_comm, bne]
    rfl

/-- Queueing an endpoint again does not touch the imports, so all of it may be left to the end. -/
theorem foldl_release (imports : List (Import O)) (s : Session O) :
    imports.foldl release s =
      (imports.foldl (fun s i => s.removeImport i.description) s).modify fun r =>
      { r with toBeImported := r.toBeImported ++ imports.map Import.description } := by
  have later (is : List (Import O)) (d : Endpoint) (s : Session O) :
      is.foldl (fun s i => s.removeImport i.description) (s.modify (·.queueEndpoint d)) =
        (is.foldl (fun s i => s.removeImport i.description) s).modify (·.queueEndpoint d) := by
    induction is generalizing s with
    | nil => rfl
    | cons i is ih =>
      have hcomm : (s.modify (·.queueEndpoint d)).removeImport i.description =
          (s.removeImport i.description).modify (·.queueEndpoint d) := by
        simp only [removeImport, modify, Registry.importOf?, Registry.queueEndpoint]
        split <;> rfl
      rw [List.foldl_cons, hcomm, ih, List.foldl_cons]
  induction imports generalizing s with
  | nil => simp [modify]
  | cons i imports ih =>
    rw [List.foldl_cons, ih, release, later]
    simp [modify, Registry.queueEndpoint]

theorem detachImportFactory_eq {s : Session O}
    (h : (s.registry.imports.map Import.endpointId).Nodup)
    (env : Environment O) (interface : String) :
    ∃ imports, imports.Perm (s.registry.imports.filter (·.interface == interface)) ∧
      s.detachImportFactory env interface =
        ⟨{ s.registry.withoutImports imports with
            importFactories := s.registry.importFactories.erase interface
            toBeImported := s.registry.toBeImported ++ imports.map Import.description
            bookkeeping := (Registry.strike s.registry.bookkeeping imports).update interface
              fun b => { b with factory := none } },
          farewells imports ++ s.journal⟩ := by
  let unbound := s.modify fun r => { r with importFactories := r.importFactories.erase interface }
  have hperm := env.order_perm s.journal (s.registry.imports.filter (·.interface == interface))
  refine ⟨_, hperm, ?_⟩
  have hmem : ∀ i ∈ env.order s.journal (s.registry.imports.filter (·.interface == interface)),
      i ∈ unbound.registry.imports := fun i hi => List.mem_of_mem_filter (hperm.mem_iff.mp hi)
  have hnodup := (hperm.map Import.endpointId).nodup_iff.mpr
    (h.sublist (List.filter_sublist.map Import.endpointId))
  have hfold := foldl_removeImport _ (s := unbound) h hnodup hmem
  rw [detachImportFactory]
  change ((env.order s.journal (s.registry.imports.filter (·.interface == interface))).foldl release
    unbound).modify _ = _
  rw [foldl_release, hfold]
  rfl

theorem clear_eq {s : Session O} (hexports : s.registry.Numbered)
    (himports : (s.registry.imports.map Import.endpointId).Nodup) (env : Environment O) :
    ∃ imports, imports.Perm s.registry.imports ∧ s.clear env =
      ⟨{ s.registry with
          services := ∅, exports := [], imports := [], bookkeeping := ∅,
          toBeExported := [], toBeImported := []
          effects :=
            s.registry.effects ++ s.registry.exports.map (fun e => .retract e.description) ++
            imports.map fun i => .unregister i.endpointId },
        farewells imports ++ (removals s.registry.exports ++ s.journal)⟩ := by
  have htear := tearDownAll_eq hexports fun _ => true
  rw [List.filter_true] at htear
  let torn : Session O :=
    ⟨s.registry.withoutExports fun _ => true, removals s.registry.exports ++ s.journal⟩
  have hperm := env.order_perm torn.journal torn.registry.imports
  have hfold := foldl_removeImport _ (s := torn) himports
    ((hperm.map Import.endpointId).nodup_iff.mpr himports) fun i hi => hperm.mem_iff.mp hi
  refine ⟨_, hperm, ?_⟩
  have hnone :
      (torn.registry.withoutImports (env.order torn.journal torn.registry.imports)).imports =
      [] := by
    refine List.filter_eq_nil_iff.mpr fun i hi => ?_
    simpa using ⟨i, hperm.mem_iff.mpr hi, rfl⟩
  simp only [clear, htear]
  rw [hfold, modify]
  simp only [hnone]
  simp [Registry.withoutImports, Registry.withoutExports, torn]

end Session

end RemoteServices
