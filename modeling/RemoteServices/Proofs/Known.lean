import RemoteServices.Proofs.ExportMatching
import RemoteServices.Proofs.ImportPass
import RemoteServices.Proofs.Withdrawal

/-!
# The endpoints that a registry knows

An endpoint is known when it is imported or waits for its import.  Endpoints wander between the two,
but what is known only changes when an endpoint is announced, disappears, or everything is taken
down: `knownEndpoints_apply`.
-/
namespace RemoteServices

variable {O : Objects}

namespace Registry

/-- The known endpoints, the imported ones first. -/
def knownEndpoints (r : Registry O) : List Endpoint :=
  r.imports.map Import.description ++ r.toBeImported

/-- Endpoints of this kind are taken up: those of other processes, and those of this one if such
ones count. -/
def wants (r : Registry O) (d : Endpoint) : Bool :=
  r.importLocalEndpoints || d.frameworkUuid != r.frameworkUuid

/-- No endpoint is known twice. -/
def Distinct (r : Registry O) : Prop := (r.knownEndpoints.map Endpoint.id).Nodup

theorem known?_eq_find? (r : Registry O) (endpointId : String) :
    r.known? endpointId = r.knownEndpoints.find? (·.id == endpointId) := by
  have himport : (r.imports.map Import.description).find? (·.id == endpointId) =
      (r.importOf? endpointId).map Import.description := List.find?_map
  rw [known?, knownEndpoints, List.find?_append, himport]
  cases r.importOf? endpointId <;> rfl

theorem Distinct.imports {r : Registry O} (h : r.Distinct) :
    (r.imports.map Import.endpointId).Nodup := by
  have hsub : (r.imports.map Import.endpointId).Sublist (r.knownEndpoints.map Endpoint.id) := by
    rw [knownEndpoints, List.map_append, List.map_map]
    exact List.sublist_append_left _ _
  exact h.sublist hsub

/-- What a registry knows when it has been told `op`. -/
def knownAfter (r : Registry O) : Operation O → List Endpoint
  | .addEndpoint d =>
    if r.wants d && ! r.knownEndpoints.any (·.id == d.id) then r.knownEndpoints ++ [d] else
      r.knownEndpoints
  | .removeEndpoint d => r.knownEndpoints.filter (·.id != d.id)
  | .clear => []
  | _ => r.knownEndpoints

theorem mem_knownAfter {r : Registry O} {op : Operation O} (hop : op ≠ .clear) {d : Endpoint} :
    d ∈ r.knownAfter op ↔ (d ∈ r.knownEndpoints ∧ ∀ e, op = .removeEndpoint e → d.id ≠ e.id) ∨
      (op = .addEndpoint d ∧ r.wants d ∧ ∀ k ∈ r.knownEndpoints, k.id ≠ d.id) := by
  cases op with
  | addEndpoint e =>
    simp only [knownAfter, Bool.and_eq_true, Bool.not_eq_true', List.any_eq_false, beq_iff_eq]
    split
    · rename_i hnew
      simp only [List.mem_append, List.mem_singleton, reduceCtorEq, false_implies,
        implies_true, and_true, Operation.addEndpoint.injEq]
      refine or_congr_right ⟨?_, fun h => h.1.symm⟩
      rintro rfl
      exact ⟨rfl, hnew⟩
    · rename_i hold
      simp only [reduceCtorEq, false_implies, implies_true, and_true, Operation.addEndpoint.injEq]
      exact ⟨.inl, fun h => h.elim id fun h => absurd (h.1 ▸ h.2) hold⟩
  | removeEndpoint e => simp [knownAfter, List.mem_filter]
  | clear => exact absurd rfl hop
  | _ => simp [knownAfter]

theorem knownEndpoints_of_importSide {r r' : Registry O} (h : r'.importSide = r.importSide) :
    r'.knownEndpoints = r.knownEndpoints := by
  simp only [importSide, ImportSide.mk.injEq] at h
  rw [knownEndpoints, knownEndpoints, h.2.2.2.1, h.2.2.2.2.2]

theorem knownEndpoints_addEndpoint (r : Registry O) (d : Endpoint) :
    (r.addEndpoint d).knownEndpoints = r.knownAfter (.addEndpoint d) := by
  have hknown : (r.known? d.id).isSome = r.knownEndpoints.any (·.id == d.id) := by
    rw [known?_eq_find?, List.isSome_find?]
  rw [addEndpoint, knownAfter, ← hknown, wants]
  cases hlocal : r.importLocalEndpoints <;> cases huuid : d.frameworkUuid == r.frameworkUuid <;>
    cases (r.known? d.id).isSome <;>
    simp [bne, huuid, knownEndpoints, book, queueEndpoint]

theorem Distinct.waiting {r : Registry O} (h : r.Distinct) :
    (r.toBeImported.map Endpoint.id).Nodup ∧
      ∀ d ∈ r.toBeImported, d.id ∉ r.imports.map Import.endpointId := by
  rw [Distinct, knownEndpoints, List.map_append, List.map_map] at h
  obtain ⟨-, hwaiting, hdisjoint⟩ := List.nodup_append.mp h
  exact ⟨hwaiting, fun d hd hmem => hdisjoint _ hmem _ (List.mem_map_of_mem hd) rfl⟩

end Registry

namespace Session

theorem withdraw_eq {s : Session O} (h : s.registry.Distinct) {known : Endpoint}
    (hknown : s.registry.known? known.id = some known) :
    s.withdraw known =
      ⟨{ s.registry.withoutImports (s.registry.imports.filter (·.endpointId == known.id)) with
          toBeImported := s.registry.toBeImported.filter (·.id != known.id) },
        farewells (s.registry.imports.filter (·.endpointId == known.id)) ++ s.journal⟩ := by
  cases hfind : s.registry.importOf? known.id with
  | none =>
    have hempty : s.registry.imports.filter (·.endpointId == known.id) = [] :=
      List.filter_eq_nil_iff.mpr (List.find?_eq_none.mp hfind)
    rw [hempty, withdraw, removeImport]
    simp only [modify, Registry.importOf?] at hfind ⊢
    rw [hfind]
    simp [Registry.withoutImports, Registry.strike, farewells]
  | some i =>
    obtain ⟨hi, hid⟩ := mem_of_find?_key hfind
    have hdescription : i.description = known := by simpa [Registry.known?, hfind] using hknown
    have honly : s.registry.imports.filter (·.endpointId == known.id) = [i] :=
      hid ▸ filter_key h.imports hi
    rw [honly, withdraw, ← hdescription]
    exact foldl_removeImport [i] (s := s.modify fun r =>
      { r with toBeImported := r.toBeImported.filter (·.id != i.description.id) }) h.imports
      (List.nodup_singleton _) (by simpa [modify] using hi)

theorem removeEndpoint_eq {s : Session O} (h : s.registry.Distinct) (d : Endpoint) :
    ∃ books, s.removeEndpoint d =
      ⟨{ s.registry.withoutImports (s.registry.imports.filter (·.endpointId == d.id)) with
          toBeImported := s.registry.toBeImported.filter (·.id != d.id)
          bookkeeping := books },
        farewells (s.registry.imports.filter (·.endpointId == d.id)) ++ s.journal⟩ := by
  rw [removeEndpoint]
  split
  · rename_i hfind
    rw [Registry.known?_eq_find?, find?_key_eq_none] at hfind
    have himports : s.registry.imports.filter (·.endpointId == d.id) = [] := by
      refine List.filter_eq_nil_iff.mpr fun i hi => ?_
      simpa using hfind i.description (List.mem_append_left _ (List.mem_map_of_mem hi))
    have hwaiting : s.registry.toBeImported.filter (·.id != d.id) = s.registry.toBeImported := by
      refine List.filter_eq_self.mpr fun e he => ?_
      simpa using hfind e (List.mem_append_right _ he)
    rw [himports, hwaiting]
    exact ⟨s.registry.bookkeeping, by simp [Registry.withoutImports, farewells]⟩
  · rename_i known hknown
    have hid : known.id = d.id := (mem_of_find?_key (s.registry.known?_eq_find? d.id ▸ hknown)).2
    rw [withdraw_eq h (hid ▸ hknown), hid, modify]
    obtain ⟨books, hbooks⟩ := Registry.unbook_eq _ known
    exact ⟨books, by rw [hbooks]⟩

theorem knownEndpoints_removeEndpoint {s : Session O} (h : s.registry.Distinct) (d : Endpoint) :
    (s.removeEndpoint d).registry.knownEndpoints = s.registry.knownEndpoints.filter
      (·.id != d.id) := by
  obtain ⟨books, heq⟩ := removeEndpoint_eq h d
  have hleft := filter_keys_notMem h.imports (·.endpointId == d.id)
  rw [heq, Registry.knownEndpoints, Registry.knownEndpoints, List.filter_append, List.filter_map]
  simp only [Registry.withoutImports, hleft]
  rfl

theorem knownEndpoints_detachImportFactory {s : Session O} (h : s.registry.Distinct)
    (env : Environment O) (interface : String) :
    (s.detachImportFactory env interface).registry.knownEndpoints.Perm
      s.registry.knownEndpoints := by
  obtain ⟨imports, hperm, heq⟩ := detachImportFactory_eq h.imports env interface
  have hleft : s.registry.imports.filter (fun i => i.endpointId ∉ imports.map Import.endpointId) =
      s.registry.imports.filter fun i => ! (i.interface == interface) := by
    rw [← filter_keys_notMem h.imports]
    simp only [(hperm.map Import.endpointId).mem_iff]
  have hsplit :=
    (List.filter_append_perm (·.interface == interface) s.registry.imports).map Import.description
  rw [List.map_append] at hsplit
  rw [heq]
  simp only [Registry.knownEndpoints, Registry.withoutImports, hleft]
  refine (List.Perm.append_left _ List.perm_append_comm).trans ?_
  rw [← List.append_assoc]
  refine List.Perm.append_right _ ?_
  exact (List.perm_append_comm.trans ((hperm.map _).append_right _)).trans hsplit

theorem knownEndpoints_addImportFactory {s : Session O} (h : s.registry.Distinct)
    (env : Environment O) (factory : Factory) (p : Properties) :
    (s.addImportFactory env factory p).registry.knownEndpoints.Perm s.registry.knownEndpoints := by
  rw [addImportFactory]
  dsimp only
  split
  · exact .refl _
  · split
    · exact .refl _
    · exact knownEndpoints_detachImportFactory h env _

theorem knownEndpoints_removeImportFactory {s : Session O} (h : s.registry.Distinct)
    (env : Environment O) (factory : Factory) (p : Properties) :
    (s.removeImportFactory env factory p).registry.knownEndpoints.Perm
      s.registry.knownEndpoints := by
  rw [removeImportFactory]
  split
  · exact knownEndpoints_detachImportFactory h env _
  · exact .refl _

section

variable {env : Environment O} {s : Session O} {queue : List ServiceId} {created : List (Export O)}
  {requeued dropped : List ServiceId} {calls : Journal} {factoryOf : String → Option Factory}
  {waiting : List Endpoint} {made : List (Import O)} {requeued' : List Endpoint} {calls' : Journal}

theorem ExportPass.made_append (h : ExportPass env queue s created requeued dropped calls)
    (h' : ImportPass env factoryOf waiting made requeued' calls') :
    Journal.made (calls' ++ calls) = (created.map fun e => (e.factory, e.description)).reverse := by
  have hnone : calls'.made = [] := by
    refine List.filterMap_eq_nil_iff.mpr fun c hc => ?_
    obtain ⟨factory, d, -, created, rfl⟩ := h'.asked c hc
    rfl
  rw [Journal.made_append, hnone, List.nil_append, h.creates.made]

theorem ImportPass.proxied_append (h' : ImportPass env factoryOf waiting made requeued' calls')
    (h : ExportPass env queue s created requeued dropped calls) :
    Journal.proxied (calls' ++ calls) = (made.map fun i => (i.factory, i.description)).reverse := by
  have hnone : calls.proxied = [] := by
    refine List.filterMap_eq_nil_iff.mpr fun c hc => ?_
    obtain ⟨pair, hpair, -⟩ := h.creates.asked c hc
    cases c with
    | createProxy factory d created => cases hpair
    | _ => rfl
  rw [Journal.proxied_append, hnone, List.append_nil, h'.proxied]

end

/-- What the registry is after both passes. -/
theorem reconcile_eq {s : Session O} (hmatched : s.registry.Matched)
    (hdistinct : s.registry.Distinct) (env : Environment O) :
    ∃ created requeued dropped calls made waiting books calls',
      s.reconcile env =
        ⟨({ ({ s.registry with toBeExported := [] } : Registry O).afterExports
              created requeued dropped with toBeImported := [] } : Registry O).afterImports
            made waiting books, calls' ++ (calls ++ s.journal)⟩ ∧
      ExportPass env s.registry.toBeExported (s.modify fun r => { r with toBeExported := [] })
        created requeued dropped calls ∧
      ImportPass env (fun interface => (s.registry.bookkeepingOf interface).factory)
        s.registry.toBeImported made waiting calls' := by
  obtain ⟨created, requeued, dropped, calls, heq, hpass⟩ := exportAll_eq env hmatched.queue_nodup
    (s.modify fun r => { r with toBeExported := [] })
  obtain ⟨hnodup, hnew⟩ := hdistinct.waiting
  obtain ⟨made, waiting, books, calls', heq', hpass'⟩ := importAll_eq env (s :=
    ⟨{ ({ s.registry with toBeExported := [] } : Registry O).afterExports
        created requeued dropped with toBeImported := [] }, calls ++ s.journal⟩) hnodup hnew
  refine ⟨created, requeued, dropped, calls, made, waiting, books, calls', ?_, hpass, hpass'⟩
  rw [reconcile, heq]
  exact heq'

theorem knownEndpoints_reconcile {s : Session O} (hmatched : s.registry.Matched)
    (hdistinct : s.registry.Distinct) (env : Environment O) :
    (s.reconcile env).registry.knownEndpoints.Perm s.registry.knownEndpoints := by
  obtain ⟨created, requeued, dropped, calls, made, waiting, books, calls', heq, -, hpass⟩ :=
    reconcile_eq hmatched hdistinct env
  rw [heq]
  change ((s.registry.imports ++ made).map Import.description ++ ([] ++ waiting)).Perm _
  rw [List.map_append, List.append_assoc]
  exact hpass.sorted.append_left _

/-- Each operation does to the known endpoints what its meaning says, whatever factories and
transport answer. -/
theorem knownEndpoints_apply {s : Session O} (hmatched : s.registry.Matched)
    (hdistinct : s.registry.Distinct) (env : Environment O) (op : Operation O) :
    (s.apply env op).registry.knownEndpoints.Perm (s.registry.knownAfter op) := by
  cases op with
  | addService object p =>
    exact .of_eq (Registry.knownEndpoints_of_importSide (s.registry.importSide_addService object p))
  | removeService p =>
    exact .of_eq (Registry.knownEndpoints_of_importSide (importSide_removeService p s))
  | addExportFactory f p =>
    exact .of_eq (Registry.knownEndpoints_of_importSide (importSide_addExportFactory f p s))
  | removeExportFactory f p =>
    exact .of_eq (Registry.knownEndpoints_of_importSide (importSide_removeExportFactory f p s))
  | addImportFactory f p => exact knownEndpoints_addImportFactory hdistinct env f p
  | removeImportFactory f p => exact knownEndpoints_removeImportFactory hdistinct env f p
  | addEndpoint d => exact .of_eq (s.registry.knownEndpoints_addEndpoint d)
  | removeEndpoint d => exact .of_eq (knownEndpoints_removeEndpoint hdistinct d)
  | reconcile => exact knownEndpoints_reconcile hmatched hdistinct env
  | clear =>
    obtain ⟨imports, -, heq⟩ := clear_eq hmatched.toNumbered hdistinct.imports env
    exact .of_eq (by rw [apply, heq]; rfl)

theorem distinct_apply {s : Session O} (hmatched : s.registry.Matched)
    (hdistinct : s.registry.Distinct) (env : Environment O) (op : Operation O) :
    (s.apply env op).registry.Distinct := by
  have hperm := (knownEndpoints_apply hmatched hdistinct env op).map Endpoint.id
  refine hperm.nodup_iff.mpr ?_
  cases op with
  | addEndpoint d =>
    rw [Registry.knownAfter]
    split
    · rename_i hnew
      simp only [Bool.and_eq_true, Bool.not_eq_true', List.any_eq_false, beq_iff_eq] at hnew
      refine nodup_concat_key hdistinct fun hmem => ?_
      obtain ⟨e, he, heq⟩ := List.mem_map.mp hmem
      exact hnew.2 e he heq
    · exact hdistinct
  | removeEndpoint d => exact hdistinct.sublist (List.filter_sublist.map _)
  | clear => exact List.nodup_nil
  | _ => exact hdistinct

theorem identity_apply {s : Session O} (hmatched : s.registry.Matched)
    (hdistinct : s.registry.Distinct) (env : Environment O) (op : Operation O) :
    (s.apply env op).registry.frameworkUuid = s.registry.frameworkUuid ∧
      (s.apply env op).registry.importLocalEndpoints = s.registry.importLocalEndpoints := by
  have hside {r : Registry O} (h : r.importSide = s.registry.importSide) :
      r.frameworkUuid = s.registry.frameworkUuid ∧
      r.importLocalEndpoints = s.registry.importLocalEndpoints :=
    ⟨congrArg ImportSide.frameworkUuid h, congrArg ImportSide.importLocalEndpoints h⟩
  have hdetach (name : String) :
      (s.detachImportFactory env name).registry.frameworkUuid = s.registry.frameworkUuid ∧
        (s.detachImportFactory env name).registry.importLocalEndpoints =
          s.registry.importLocalEndpoints := by
    obtain ⟨imports, -, heq⟩ := detachImportFactory_eq hdistinct.imports env name
    rw [heq]
    exact ⟨rfl, rfl⟩
  cases op with
  | addService object p => exact hside (s.registry.importSide_addService object p)
  | removeService p => exact hside (importSide_removeService p s)
  | addExportFactory f p => exact hside (importSide_addExportFactory f p s)
  | removeExportFactory f p => exact hside (importSide_removeExportFactory f p s)
  | addImportFactory f p =>
    rw [apply, addImportFactory]
    dsimp only
    split
    · exact ⟨rfl, rfl⟩
    · split
      · exact ⟨rfl, rfl⟩
      · exact hdetach _
  | removeImportFactory f p =>
    rw [apply, removeImportFactory]
    split
    · exact hdetach _
    · exact ⟨rfl, rfl⟩
  | addEndpoint e =>
    obtain ⟨books, queue, heq⟩ := s.registry.addEndpoint_eq e
    rw [apply, modify, heq]
    exact ⟨rfl, rfl⟩
  | removeEndpoint e =>
    obtain ⟨books, heq⟩ := removeEndpoint_eq hdistinct e
    rw [apply, heq]
    exact ⟨rfl, rfl⟩
  | reconcile =>
    obtain ⟨_, _, _, _, _, _, _, _, heq, -, -⟩ := reconcile_eq hmatched hdistinct env
    rw [apply, heq]
    exact ⟨rfl, rfl⟩
  | clear =>
    obtain ⟨imports, -, heq⟩ := clear_eq hmatched.toNumbered hdistinct.imports env
    rw [apply, heq]
    exact ⟨rfl, rfl⟩

theorem wants_apply {s : Session O} (hmatched : s.registry.Matched)
    (hdistinct : s.registry.Distinct) (env : Environment O) (op : Operation O) (d : Endpoint) :
    (s.apply env op).registry.wants d = s.registry.wants d := by
  obtain ⟨huuid, hlocal⟩ := identity_apply hmatched hdistinct env op
  rw [Registry.wants, huuid, hlocal, Registry.wants]

end Session

theorem Registry.Reachable.distinct {r : Registry O} (h : r.Reachable) : r.Distinct := by
  induction h with
  | empty => exact List.nodup_nil
  | apply env op hs ih => exact Session.distinct_apply hs.matched ih env op
  | takeEffect _ he ih =>
    rw [(takeEffect_eq_some.mp he).2]
    exact ih

theorem Registry.Told.identity {P : Environment O → Prop} {frameworkUuid : String}
    {importLocalEndpoints : Bool} {ops : List (Operation O)} {r : Registry O}
    (h : r.Told P frameworkUuid importLocalEndpoints ops) :
    r.frameworkUuid = frameworkUuid ∧ r.importLocalEndpoints = importLocalEndpoints := by
  induction h with
  | empty => exact ⟨rfl, rfl⟩
  | apply _ op h ih =>
    obtain ⟨huuid, hlocal⟩ := Session.identity_apply h.reachable.matched h.reachable.distinct _ op
    exact ⟨huuid.trans ih.1, hlocal.trans ih.2⟩
  | takeEffect _ he ih =>
    rw [(takeEffect_eq_some.mp he).2]
    exact ih

end RemoteServices
