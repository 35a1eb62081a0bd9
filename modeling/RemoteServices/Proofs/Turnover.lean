import RemoteServices.Proofs.Known

/-!
# What an operation changes

Whatever a registry is told, some exports and imports go and others come, and just these changes are
queued for the outside, behind all that waits there.  Which ones go is decided by the operation
(`Operation.closes`, `Operation.withdraws`), and for each one that goes its factory is told:
`Session.moves_apply`.
-/
namespace RemoteServices

variable {O : Objects}

namespace Operation

/-- The operation takes the export down: its service is removed, its factory is unbound, or
everything goes. -/
def closes (op : Operation O) (r : Registry O) (e : Export O) : Bool :=
  match op with
  | .removeService p => p.int64? Key.serviceId == some e.serviceId
  | .addExportFactory f p =>
    (r.exportFactories.get? (f.boundName p)).any fun bound => bound != f && e.factory == bound
  | .removeExportFactory f p => r.exportFactories.get? (f.boundName p) == some f && e.factory == f
  | .clear => true
  | _ => false

/-- The operation takes the import down: its endpoint disappears, the factory of its interface is
unbound, or everything goes. -/
def withdraws (op : Operation O) (r : Registry O) (i : Import O) : Bool :=
  match op with
  | .removeEndpoint d => i.endpointId == d.id
  | .addImportFactory f p =>
    (r.importFactories.get? (f.boundName p)).any (· != f) && i.interface == f.boundName p
  | .removeImportFactory f p =>
    r.importFactories.get? (f.boundName p) == some f && i.interface == f.boundName p
  | .clear => true
  | _ => false

end Operation

/-- Exports and imports that go and others that come. -/
structure Turnover (O : Objects) where
  closed : List (Export O)
  withdrawn : List (Import O)
  created : List (Export O)
  made : List (Import O)

namespace Turnover

def none : Turnover O := ⟨[], [], [], []⟩

/-- What the outside is told of them. -/
def effects (t : Turnover O) : List (Effect O) :=
  t.closed.map (fun e => .retract e.description) ++ t.withdrawn.map
    (fun i => .unregister i.endpointId) ++
    (t.created.map (fun e => .publish e.description) ++ t.made.map fun i =>
      .register i.description i.proxy)

end Turnover

namespace Registry

/-- One registry becomes the other when exports and imports go and come like this. -/
structure Turns (env : Environment O) (r r' : Registry O) (t : Turnover O) : Prop where
  closed : t.closed.Sublist r.exports
  withdrawn : ∀ i ∈ t.withdrawn, i ∈ r.imports
  withdrawn_nodup : (t.withdrawn.map Import.endpointId).Nodup
  exports : r'.exports = r.exports.filter
    (fun e => e.exportId ∉ t.closed.map Export.exportId) ++ t.created
  imports : r'.imports = r.imports.filter
    (fun i => i.endpointId ∉ t.withdrawn.map Import.endpointId) ++ t.made
  effects : r'.effects = r.effects ++ t.effects
  /-- What comes is of a service that selects its interface, and was made for it. -/
  created : ∀ e ∈ t.created, ∃ service, r.services.get? e.serviceId = some service ∧
    e.interface ∈ r.selected e.serviceId ∧ e.MadeFor env r service
  made : ∀ i ∈ t.made, ∃ j, env.proxy j i.factory i.description = .ok i.proxy

variable {env : Environment O} {r r' : Registry O}

theorem turns_none (hexports : r'.exports = r.exports) (himports : r'.imports = r.imports)
    (heffects : r'.effects = r.effects) : r.Turns env r' .none where
  closed := List.nil_sublist _
  withdrawn := by simp [Turnover.none]
  withdrawn_nodup := List.nodup_nil
  exports := by simp [Turnover.none, hexports]
  imports := by simp [Turnover.none, himports]
  effects := by simp [Turnover.none, Turnover.effects, heffects]
  created := by simp [Turnover.none]
  made := by simp [Turnover.none]

theorem turns_withoutExports (h : r.Numbered) (p : Export O → Bool)
    (hexports : r'.exports = (r.withoutExports p).exports) (himports : r'.imports = r.imports)
    (heffects : r'.effects = (r.withoutExports p).effects) :
    r.Turns env r' { Turnover.none with closed := r.exports.filter p } where
  closed := List.filter_sublist
  withdrawn := by simp [Turnover.none]
  withdrawn_nodup := List.nodup_nil
  exports := by
    rw [hexports, withoutExports, filter_keys_notMem h.nodup]
    simp [Turnover.none]
  imports := by simp [Turnover.none, himports]
  effects := by simp [Turnover.none, Turnover.effects, heffects, withoutExports]
  created := by simp [Turnover.none]
  made := by simp [Turnover.none]

theorem turns_withoutImports {imports : List (Import O)} (hmem : ∀ i ∈ imports, i ∈ r.imports)
    (hnodup : (imports.map Import.endpointId).Nodup) (hexports : r'.exports = r.exports)
    (himports : r'.imports = (r.withoutImports imports).imports)
    (heffects : r'.effects = (r.withoutImports imports).effects) :
    r.Turns env r' { Turnover.none with withdrawn := imports } where
  closed := List.nil_sublist _
  withdrawn := hmem
  withdrawn_nodup := hnodup
  exports := by simp [Turnover.none, hexports]
  imports := by simp [Turnover.none, himports, withoutImports]
  effects := by simp [Turnover.none, Turnover.effects, heffects, withoutImports]
  created := by simp [Turnover.none]
  made := by simp [Turnover.none]

end Registry

namespace Session

open Registry

/-- One session becomes the other when a registry is told `op`: just the exports and imports go that
the operation takes down, their factories are told, and for those that come transport and factories
are asked. -/
structure Moves (env : Environment O) (op : Operation O) (s s' : Session O) (t : Turnover O)
    (asks : Journal) : Prop where
  turns : s.registry.Turns env s'.registry t
  closed : t.closed = s.registry.exports.filter (op.closes s.registry)
  withdrawn : t.withdrawn.Perm (s.registry.imports.filter (op.withdraws s.registry))
  journal : s'.journal = asks ++ (farewells t.withdrawn ++ (removals t.closed ++ s.journal))
  made : asks.made = (t.created.map fun e => (e.factory, e.description)).reverse
  proxied : asks.proxied = (t.made.map fun i => (i.factory, i.description)).reverse
  /-- Nothing is asked for that is exported or imported already. -/
  asked : ∀ c ∈ asks, (∃ pair, c.asked? = some pair ∧ pair ∉ s.registry.exports.map Export.pair) ∨
    ∃ factory d created, c = .createProxy factory d created ∧
    d.id ∉ s.registry.imports.map Import.endpointId

variable {env : Environment O} {op : Operation O} {s s' : Session O}

theorem Moves.asks_new {t : Turnover O} {asks : Journal} (h : Moves env op s s' t asks) :
    (∀ f d, .removeEndpoint f d ∉ asks) ∧ ∀ f d, .removeProxy f d ∉ asks := by
  have hasked {c : Call} (hc : c ∈ asks) : (c.asked?).isSome ∨ ∃ factory d created,
      c = .createProxy factory d created := by
    rcases h.asked c hc with ⟨pair, hpair, -⟩ | ⟨factory, d, created, rfl, -⟩
    · exact .inl (by rw [hpair]; rfl)
    · exact .inr ⟨factory, d, created, rfl⟩
  exact ⟨fun f d hc => by simpa [Call.asked?] using hasked hc, fun f d hc =>
    by simpa [Call.asked?] using hasked hc⟩

theorem moves_none (hcloses : ∀ e ∈ s.registry.exports, op.closes s.registry e = false)
    (hwithdraws : ∀ i ∈ s.registry.imports, op.withdraws s.registry i = false)
    (hexports : s'.registry.exports = s.registry.exports)
    (himports : s'.registry.imports = s.registry.imports)
    (heffects : s'.registry.effects = s.registry.effects) (hjournal : s'.journal = s.journal) :
    Moves env op s s' .none [] where
  turns := turns_none hexports himports heffects
  closed := (List.filter_eq_nil_iff.mpr (by simpa using hcloses)).symm
  withdrawn := .of_eq (List.filter_eq_nil_iff.mpr (by simpa using hwithdraws)).symm
  journal := hjournal
  made := rfl
  proxied := rfl
  asked := by simp

theorem moves_withoutExports (hnumbered : s.registry.Numbered) {p : Export O → Bool}
    (hcloses : op.closes s.registry = p)
    (hwithdraws : ∀ i ∈ s.registry.imports, op.withdraws s.registry i = false)
    (hexports : s'.registry.exports = (s.registry.withoutExports p).exports)
    (himports : s'.registry.imports = s.registry.imports)
    (heffects : s'.registry.effects = (s.registry.withoutExports p).effects)
    (hjournal : s'.journal = removals (s.registry.exports.filter p) ++ s.journal) :
    Moves env op s s' { Turnover.none with closed := s.registry.exports.filter p } [] where
  turns := turns_withoutExports hnumbered p hexports himports heffects
  closed := by rw [hcloses]
  withdrawn := .of_eq (List.filter_eq_nil_iff.mpr (by simpa using hwithdraws)).symm
  journal := hjournal
  made := rfl
  proxied := rfl
  asked := by simp

/-- Imports that go together may go in any order. -/
theorem moves_withoutImports (hdistinct : s.registry.Distinct) {imports : List (Import O)}
    (hcloses : ∀ e ∈ s.registry.exports, op.closes s.registry e = false)
    (hperm : imports.Perm (s.registry.imports.filter (op.withdraws s.registry)))
    (hexports : s'.registry.exports = s.registry.exports)
    (himports : s'.registry.imports = (s.registry.withoutImports imports).imports)
    (heffects : s'.registry.effects = (s.registry.withoutImports imports).effects)
    (hjournal : s'.journal = farewells imports ++ s.journal) :
    Moves env op s s' { Turnover.none with withdrawn := imports } [] where
  turns := by
    refine turns_withoutImports
      (fun i hi => List.mem_of_mem_filter (hperm.mem_iff.mp hi)) ?_ hexports himports heffects
    exact (hperm.map _).nodup_iff.mpr (hdistinct.imports.sublist (List.filter_sublist.map _))
  closed := (List.filter_eq_nil_iff.mpr (by simpa using hcloses)).symm
  withdrawn := hperm
  journal := hjournal
  made := rfl
  proxied := rfl
  asked := by simp

theorem moves_addService (env : Environment O) (s : Session O)
    (object : O.Service) (p : Properties) :
    Moves env (.addService object p) s (s.modify (·.addService object p)) .none [] := by
  obtain ⟨services, queue, heq⟩ := s.registry.addService_eq object p
  rw [modify, heq]
  exact moves_none (fun _ _ => rfl) (fun _ _ => rfl) rfl rfl rfl rfl

theorem moves_removeService (hnumbered : s.registry.Numbered)
    (env : Environment O) (p : Properties) :
    ∃ t, Moves env (.removeService p) s (s.removeService p) t [] := by
  cases hp : p.int64? Key.serviceId with
  | none =>
    rw [removeService, hp]
    exact ⟨_, moves_none (by simp [Operation.closes, hp]) (fun _ _ => rfl) rfl rfl rfl rfl⟩
  | some serviceId =>
    rw [removeService_eq hnumbered hp]
    refine ⟨_, moves_withoutExports hnumbered (p := (·.serviceId == serviceId)) ?_
      (fun _ _ => rfl) rfl rfl rfl rfl⟩
    funext e
    simp [Operation.closes, hp, Bool.beq_comm]

theorem moves_addExportFactory (hnumbered : s.registry.Numbered)
    (env : Environment O) (factory : Factory) (p : Properties) :
    ∃ t, Moves env (.addExportFactory factory p) s (s.addExportFactory factory p) t [] := by
  rw [addExportFactory]
  dsimp only
  split
  · rename_i hfree
    exact ⟨_, moves_none (by simp [Operation.closes, hfree]) (fun _ _ => rfl) rfl rfl rfl rfl⟩
  · rename_i bound hbound
    split
    · rename_i hsame
      exact ⟨_, moves_none (by simp [Operation.closes, hbound, hsame])
        (fun _ _ => rfl) rfl rfl rfl rfl⟩
    · rename_i hother
      obtain ⟨q, heq, -⟩ := detachExportFactory_eq hnumbered (factory.boundName p) bound
      rw [heq]
      refine ⟨_, moves_withoutExports hnumbered (p := (·.factory == bound)) ?_
        (fun _ _ => rfl) rfl rfl rfl rfl⟩
      funext e
      simp [Operation.closes, hbound, hother]

theorem moves_removeExportFactory (hnumbered : s.registry.Numbered)
    (env : Environment O) (factory : Factory) (p : Properties) :
    ∃ t, Moves env (.removeExportFactory factory p) s (s.removeExportFactory factory p) t [] := by
  rw [removeExportFactory]
  split
  · rename_i hbound
    obtain ⟨q, heq, -⟩ := detachExportFactory_eq hnumbered (factory.boundName p) factory
    rw [heq]
    refine ⟨_, moves_withoutExports hnumbered (p := (·.factory == factory)) ?_
      (fun _ _ => rfl) rfl rfl rfl rfl⟩
    funext e
    simp [Operation.closes, hbound]
  · rename_i hfree
    exact ⟨_, moves_none (by simp [Operation.closes, hfree]) (fun _ _ => rfl) rfl rfl rfl rfl⟩

theorem moves_addImportFactory (hdistinct : s.registry.Distinct)
    (env : Environment O) (factory : Factory) (p : Properties) :
    ∃ t, Moves env (.addImportFactory factory p) s (s.addImportFactory env factory p) t [] := by
  rw [addImportFactory]
  dsimp only
  split
  · rename_i hfree
    exact ⟨_, moves_none (fun _ _ => rfl) (by simp [Operation.withdraws, hfree]) rfl rfl rfl rfl⟩
  · rename_i bound hbound
    split
    · rename_i hsame
      exact ⟨_, moves_none (fun _ _ => rfl)
        (by simp [Operation.withdraws, hbound, hsame]) rfl rfl rfl rfl⟩
    · rename_i hother
      obtain ⟨imports, hperm, heq⟩ :=
        detachImportFactory_eq hdistinct.imports env (factory.boundName p)
      have hwithdraws : (Operation.addImportFactory factory p).withdraws s.registry =
          fun i => i.interface == factory.boundName p := by
        funext i
        simp [Operation.withdraws, hbound, hother]
      rw [heq]
      exact ⟨_, moves_withoutImports hdistinct (fun _ _ => rfl)
        (hwithdraws ▸ hperm) rfl rfl rfl rfl⟩

theorem moves_removeImportFactory (hdistinct : s.registry.Distinct)
    (env : Environment O) (factory : Factory) (p : Properties) :
    ∃ t, Moves env (.removeImportFactory factory p) s
      (s.removeImportFactory env factory p) t [] := by
  rw [removeImportFactory]
  split
  · rename_i hbound
    obtain ⟨imports, hperm, heq⟩ :=
      detachImportFactory_eq hdistinct.imports env (factory.boundName p)
    have hwithdraws : (Operation.removeImportFactory factory p).withdraws s.registry =
        fun i => i.interface == factory.boundName p := by
      funext i
      simp [Operation.withdraws, hbound]
    rw [heq]
    exact ⟨_, moves_withoutImports hdistinct (fun _ _ => rfl) (hwithdraws ▸ hperm) rfl rfl rfl rfl⟩
  · rename_i hfree
    exact ⟨_, moves_none (fun _ _ => rfl) (by simp [Operation.withdraws, hfree]) rfl rfl rfl rfl⟩

theorem moves_addEndpoint (env : Environment O) (s : Session O) (d : Endpoint) :
    Moves env (.addEndpoint d) s (s.modify (·.addEndpoint d)) .none [] := by
  obtain ⟨books, queue, heq⟩ := s.registry.addEndpoint_eq d
  rw [modify, heq]
  exact moves_none (fun _ _ => rfl) (fun _ _ => rfl) rfl rfl rfl rfl

theorem moves_removeEndpoint (hdistinct : s.registry.Distinct)
    (env : Environment O) (d : Endpoint) :
    ∃ t, Moves env (.removeEndpoint d) s (s.removeEndpoint d) t [] := by
  obtain ⟨books, heq⟩ := removeEndpoint_eq hdistinct d
  rw [heq]
  exact ⟨_, moves_withoutImports hdistinct (fun _ _ => rfl) (.refl _) rfl rfl rfl rfl⟩

theorem moves_reconcile (hmatched : s.registry.Matched) (hdistinct : s.registry.Distinct)
    (env : Environment O) :
    ∃ t asks, Moves env .reconcile s (s.reconcile env) t asks := by
  obtain ⟨created, requeued, dropped, calls, made, waiting, books, calls',
      heq, hexports, himports⟩ :=
    reconcile_eq hmatched hdistinct env
  rw [heq]
  refine ⟨{ Turnover.none with created := created, made := made }, calls' ++ calls,
    ⟨List.nil_sublist _, ?_, List.nodup_nil, ?_, ?_, ?_, fun e he => ?_, himports.origin⟩, ?_, ?_,
    ?_, ?_, ?_, fun c hc => ?_⟩
  · simp [Turnover.none]
  · simp [Turnover.none, afterImports, afterExports, withExports]
  · simp [Turnover.none, afterImports, afterExports, withExports]
  · simp [Turnover.none, Turnover.effects, afterImports, afterExports, withExports]
  · obtain ⟨service, hservice, hmade⟩ := hexports.creates.origin e he
    have hpair := hexports.ordered.subset (List.mem_map_of_mem he)
    obtain ⟨id, -, hid⟩ := List.mem_flatMap.mp hpair
    obtain ⟨i, hi, heq⟩ := List.mem_map.mp hid
    cases heq
    exact ⟨service, hservice, hi, hmade.service_eq, hmade.bound, hmade.described, hmade.wrapped⟩
  · exact (List.filter_eq_nil_iff.mpr fun _ _ => Bool.false_ne_true).symm
  · exact .of_eq (List.filter_eq_nil_iff.mpr fun _ _ => Bool.false_ne_true).symm
  · simp [Turnover.none, farewells, removals]
  · exact hexports.made_append himports
  · exact himports.proxied_append hexports
  · rcases List.mem_append.mp hc with hc | hc
    · obtain ⟨factory, d, hd, created, rfl⟩ := himports.asked c hc
      exact .inr ⟨factory, d, created, rfl, hdistinct.waiting.2 d hd⟩
    · exact .inl (hexports.creates.asked c hc)

theorem moves_clear (hnumbered : s.registry.Numbered) (hdistinct : s.registry.Distinct)
    (env : Environment O) :
    ∃ t, Moves env .clear s (s.clear env) t [] := by
  obtain ⟨imports, hperm, heq⟩ := clear_eq hnumbered hdistinct.imports env
  rw [heq]
  refine ⟨{ Turnover.none with closed := s.registry.exports, withdrawn := imports },
    ⟨List.Sublist.refl _, fun i hi => hperm.mem_iff.mp hi,
      (hperm.map _).nodup_iff.mpr hdistinct.imports, ?_, ?_, ?_, ?_, ?_⟩,
    (List.filter_true _).symm, hperm.trans (.of_eq (List.filter_true _).symm),
    rfl, rfl, rfl, by simp⟩
  · have hnone : s.registry.exports.filter
        (fun e => e.exportId ∉ s.registry.exports.map Export.exportId) = [] :=
      List.filter_eq_nil_iff.mpr fun e he => by simpa using ⟨e, he, rfl⟩
    simp only [hnone]
    rfl
  · have hnone : s.registry.imports.filter
        (fun i => i.endpointId ∉ imports.map Import.endpointId) = [] :=
      List.filter_eq_nil_iff.mpr fun i hi => by simpa using ⟨i, hperm.mem_iff.mpr hi, rfl⟩
    simp only [hnone]
    rfl
  · simp [Turnover.none, Turnover.effects]
  · simp [Turnover.none]
  · simp [Turnover.none]

/-- Whatever a registry is told, some exports and imports go and others come. -/
theorem moves_apply (hmatched : s.registry.Matched) (hdistinct : s.registry.Distinct)
    (env : Environment O) (op : Operation O) :
    ∃ t asks, Moves env op s (s.apply env op) t asks := by
  have quiet {t : Turnover O} (h : Moves env op s (s.apply env op) t []) :
      ∃ t asks, Moves env op s (s.apply env op) t asks := ⟨t, [], h⟩
  cases op with
  | addService object p => exact quiet (moves_addService env s object p)
  | removeService p => exact (moves_removeService hmatched.toNumbered env p).elim fun _ => quiet
  | addExportFactory f p =>
    exact (moves_addExportFactory hmatched.toNumbered env f p).elim fun _ => quiet
  | removeExportFactory f p =>
    exact (moves_removeExportFactory hmatched.toNumbered env f p).elim fun _ => quiet
  | addImportFactory f p => exact (moves_addImportFactory hdistinct env f p).elim fun _ => quiet
  | removeImportFactory f p =>
    exact (moves_removeImportFactory hdistinct env f p).elim fun _ => quiet
  | addEndpoint d => exact quiet (moves_addEndpoint env s d)
  | removeEndpoint d => exact (moves_removeEndpoint hdistinct env d).elim fun _ => quiet
  | reconcile => exact moves_reconcile hmatched hdistinct env
  | clear => exact (moves_clear hmatched.toNumbered hdistinct env).elim fun _ => quiet

theorem turns_apply (hmatched : s.registry.Matched) (hdistinct : s.registry.Distinct)
    (env : Environment O) (op : Operation O) :
    ∃ t, s.registry.Turns env (s.apply env op).registry t := by
  obtain ⟨t, asks, h⟩ := moves_apply hmatched hdistinct env op
  exact ⟨t, h.turns⟩

end Session

end RemoteServices
