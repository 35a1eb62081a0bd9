import RemoteServices.Proofs.Keyed
import RemoteServices.Registry.Operation

/-!
# A pass over the endpoints that wait

Whatever factories answer, an endpoint of the queue is imported or queues again.  `importAll_eq`
says what the registry is after the pass, up to its books.
-/
namespace RemoteServices

variable {O : Objects}

/-- The endpoints that import factories made proxies for, the latest first. -/
def Journal.proxied (j : Journal) : List (Factory × Endpoint) :=
  j.filterMap fun
    | .createProxy f d true => some (f, d)
    | _ => none

theorem Journal.proxied_append (i j : Journal) :
    Journal.proxied (i ++ j) = i.proxied ++ j.proxied :=
  List.filterMap_append

theorem Journal.mem_proxied {j : Journal} {f : Factory} {d : Endpoint} :
    (f, d) ∈ j.proxied ↔ .createProxy f d true ∈ j := by
  refine ⟨fun h => ?_, fun h => List.mem_filterMap.mpr ⟨_, h, rfl⟩⟩
  obtain ⟨c, hc, hcall⟩ := List.mem_filterMap.mp h
  cases c with
  | createProxy g e created =>
    cases created with
    | true =>
      cases hcall
      exact hc
    | false => cases hcall
  | _ => cases hcall

theorem Journal.proxied_of_refused {j : Journal} {d : Endpoint}
    (h : ∀ c ∈ j, ∃ factory, c = .createProxy factory d false) :
    j.proxied = [] := by
  refine List.filterMap_eq_nil_iff.mpr fun c hc => ?_
  obtain ⟨factory, rfl⟩ := h c hc
  rfl

namespace Registry

/-- What is there with new imports and with endpoints that queue again. -/
def afterImports (made : List (Import O)) (requeued : List Endpoint)
    (books : Table String Bookkeeping) (r : Registry O) : Registry O :=
  { r with
    imports := r.imports ++ made
    toBeImported := r.toBeImported ++ requeued
    bookkeeping := books
    effects := r.effects ++ made.map fun i => .register i.description i.proxy }

theorem importOf?_eq_none {r : Registry O} {endpointId : String} :
    r.importOf? endpointId = none ↔ endpointId ∉ r.imports.map Import.endpointId := by
  simp [importOf?, List.find?_eq_none]

theorem factory_book (r : Registry O) (d : Endpoint) (interface : String) :
    ((r.book d).bookkeepingOf interface).factory = (r.bookkeepingOf interface).factory := by
  rw [book, bookkeepingOf, Table.get?_insert]
  by_cases h : interface = d.interface
  · subst h
    rw [if_pos rfl]
    rfl
  · rw [if_neg h]
    rfl

theorem registrations_book (r : Registry O) (d : Endpoint) (interface : String) :
    ((r.book d).bookkeepingOf interface).registrations =
      (r.bookkeepingOf interface).registrations := by
  rw [book, bookkeepingOf, Table.get?_insert]
  by_cases h : interface = d.interface
  · subst h
    rw [if_pos rfl]
    rfl
  · rw [if_neg h]
    rfl

theorem factory_addImport (r : Registry O) (d : Endpoint) (proxy : O.Proxy)
    (factory : Factory) (interface : String) :
    ((r.addImport d proxy factory).bookkeepingOf interface).factory =
      (r.bookkeepingOf interface).factory := by
  rw [addImport, emit, bookkeepingOf, bookkeepingOf, Table.get?_update]
  by_cases h : interface = d.interface
  · subst h
    rw [if_pos rfl]
    cases r.bookkeeping.get? d.interface <;> rfl
  · rw [if_neg h]

end Registry

namespace Session

theorem importEndpoint_cases (env : Environment O) {d : Endpoint} {s : Session O}
    (hnew : d.id ∉ s.registry.imports.map Import.endpointId) :
    (∃ factory proxy, importEndpoint env d s = ⟨(s.registry.book d).addImport d proxy factory,
        .createProxy factory d true :: s.journal⟩ ∧
      ((s.registry.book d).bookkeepingOf d.interface).factory = some factory ∧
      env.proxy s.journal factory d = .ok proxy) ∨
    ∃ calls, importEndpoint env d s = ⟨(s.registry.book d).queueEndpoint d, calls ++ s.journal⟩ ∧
      (∀ c ∈ calls, ∃ factory, c = .createProxy factory d false) ∧
      ∀ factory, ((s.registry.book d).bookkeepingOf d.interface).factory = some factory →
        .createProxy factory d false ∈ calls ∧
        ∃ cause, env.proxy s.journal factory d = .error cause := by
  have hnone : (s.registry.importOf? d.id).isSome = false := by
    rw [Registry.importOf?_eq_none.mpr hnew]
    rfl
  rw [importEndpoint, hnone]
  simp only [Bool.false_eq_true, if_false, modify]
  cases hfactory : ((s.registry.book d).bookkeepingOf d.interface).factory with
  | none => exact .inr ⟨[], rfl, by simp, by simp⟩
  | some factory =>
    cases hproxy : env.proxy s.journal factory d with
    | error cause =>
      exact .inr ⟨[.createProxy factory d false], by simp [hproxy, record],
        by simp, by simp [hproxy]⟩
    | ok proxy => exact .inl ⟨factory, proxy, by simp [hproxy, record], rfl, hproxy⟩

theorem notMem_importEndpoint (env : Environment O) {d e : Endpoint}
    {s : Session O} (hne : e.id ≠ d.id) (hd : d.id ∉ s.registry.imports.map Import.endpointId)
    (he : e.id ∉ s.registry.imports.map Import.endpointId) :
    e.id ∉ (importEndpoint env d s).registry.imports.map Import.endpointId := by
  rcases importEndpoint_cases env hd with ⟨factory, proxy, heq, -, -⟩ | ⟨calls, heq, -, -⟩
  · rw [heq]
    simp only [Registry.addImport, Registry.emit, Registry.book, List.map_append, List.mem_append]
    rintro (hmem | hmem)
    · exact he hmem
    · exact hne (List.mem_singleton.mp hmem)
  · rw [heq]
    exact he

theorem factory_importEndpoint (env : Environment O) {d : Endpoint} {s : Session O}
    (hnew : d.id ∉ s.registry.imports.map Import.endpointId) (interface : String) :
    ((importEndpoint env d s).registry.bookkeepingOf interface).factory =
      (s.registry.bookkeepingOf interface).factory := by
  have hbook := s.registry.factory_book d interface
  rcases importEndpoint_cases env hnew with ⟨factory, proxy, heq, -, -⟩ | ⟨calls, heq, -, -⟩
  · rw [heq, ← hbook]
    exact Registry.factory_addImport _ d proxy factory interface
  · rw [heq]
    exact hbook

/-- What a pass over `queue` comes to, when the interfaces have these factories. -/
structure ImportPass (env : Environment O) (factoryOf : String → Option Factory)
    (queue : List Endpoint) (made : List (Import O)) (requeued : List Endpoint) (calls : Journal) :
    Prop where
  made_sublist : (made.map Import.description).Sublist queue
  requeued_sublist : requeued.Sublist queue
  /-- Each endpoint is imported or queues again. -/
  sorted : (made.map Import.description ++ requeued).Perm queue
  origin : ∀ i ∈ made, ∃ j, env.proxy j i.factory i.description = .ok i.proxy
  waiting : ∀ d ∈ requeued, ∀ factory, factoryOf d.interface = some factory →
    ∃ j cause, env.proxy j factory d = .error cause
  proxied : calls.proxied = (made.map fun i => (i.factory, i.description)).reverse
  /-- Only the endpoints of the queue are asked for, -/
  asked : ∀ c ∈ calls, ∃ factory, ∃ d ∈ queue, ∃ created, c = .createProxy factory d created
  /-- and each of them is, whatever failed before, when there is a factory. -/
  tries : ∀ d ∈ queue, ∀ factory, factoryOf d.interface = some factory →
    ∃ created, .createProxy factory d created ∈ calls

theorem ImportPass.silent {env : Environment O} {factoryOf : String → Option Factory}
    {queue : List Endpoint} {made : List (Import O)} {requeued : List Endpoint} {calls : Journal}
    (h : ImportPass env factoryOf queue made requeued calls) : calls.newIds = [] := by
  refine List.filterMap_eq_nil_iff.mpr fun c hc => ?_
  obtain ⟨factory, d, -, created, rfl⟩ := h.asked c hc
  rfl

section

variable {env : Environment O} {factoryOf : String → Option Factory} {queue : List Endpoint}
  {made : List (Import O)} {requeued : List Endpoint} {calls calls' : Journal} {d : Endpoint}

theorem ImportPass.nil (env : Environment O) (factoryOf : String → Option Factory) :
    ImportPass env factoryOf [] [] [] [] where
  made_sublist := .slnil
  requeued_sublist := .slnil
  sorted := .nil
  origin := by simp
  waiting := by simp
  proxied := rfl
  asked := by simp
  tries := by simp

theorem ImportPass.asked_cons (h : ImportPass env factoryOf queue made requeued calls)
    (hcalls : ∀ c ∈ calls', ∃ factory created, c = .createProxy factory d created) :
    ∀ c ∈ calls ++ calls', ∃ factory, ∃ e ∈ d :: queue, ∃ created,
      c = .createProxy factory e created := by
  intro c hc
  rcases List.mem_append.mp hc with hc | hc
  · obtain ⟨factory, e, he, created, rfl⟩ := h.asked c hc
    exact ⟨factory, e, List.mem_cons_of_mem d he, created, rfl⟩
  · obtain ⟨factory, created, rfl⟩ := hcalls c hc
    exact ⟨factory, d, List.mem_cons_self, created, rfl⟩

theorem ImportPass.tries_cons (h : ImportPass env factoryOf queue made requeued calls)
    (hcalls : ∀ factory, factoryOf d.interface = some factory → ∃ created,
      .createProxy factory d created ∈ calls') :
    ∀ e ∈ d :: queue, ∀ factory, factoryOf e.interface = some factory →
      ∃ created, .createProxy factory e created ∈ calls ++ calls' := by
  refine List.forall_mem_cons.mpr ⟨fun factory hfactory => ?_, fun e he factory hfactory => ?_⟩
  · obtain ⟨created, hmem⟩ := hcalls factory hfactory
    exact ⟨created, List.mem_append_right _ hmem⟩
  · obtain ⟨created, hmem⟩ := h.tries e he factory hfactory
    exact ⟨created, List.mem_append_left _ hmem⟩

theorem ImportPass.made_cons (h : ImportPass env factoryOf queue made requeued calls)
    {factory : Factory} (hfactory : factoryOf d.interface = some factory)
    {j : Journal} {proxy : O.Proxy} (hproxy : env.proxy j factory d = .ok proxy) :
    ImportPass env factoryOf (d :: queue) (⟨d, proxy, factory⟩ :: made) requeued
      (calls ++ [.createProxy factory d true]) where
  made_sublist := h.made_sublist.cons_cons d
  requeued_sublist := h.requeued_sublist.cons d
  sorted := h.sorted.cons d
  origin := List.forall_mem_cons.mpr ⟨⟨j, hproxy⟩, h.origin⟩
  waiting := h.waiting
  proxied := by
    rw [Journal.proxied_append, h.proxied, List.map_cons, List.reverse_cons]
    rfl
  asked := h.asked_cons fun c hc => ⟨factory, true, List.mem_singleton.mp hc⟩
  tries := by
    refine h.tries_cons fun factory' hfactory' => ⟨true, ?_⟩
    rw [← Option.some.inj (hfactory.symm.trans hfactory')]
    exact List.mem_singleton_self _

theorem ImportPass.requeued_cons (h : ImportPass env factoryOf queue made requeued calls)
    (hcalls : ∀ c ∈ calls', ∃ factory, c = .createProxy factory d false)
    (hrefused : ∀ factory, factoryOf d.interface = some factory →
      .createProxy factory d false ∈ calls' ∧ ∃ j cause, env.proxy j factory d = .error cause) :
    ImportPass env factoryOf (d :: queue) made (d :: requeued) (calls ++ calls') where
  made_sublist := h.made_sublist.cons d
  requeued_sublist := h.requeued_sublist.cons_cons d
  sorted := List.perm_middle.trans (h.sorted.cons d)
  origin := h.origin
  waiting :=
    List.forall_mem_cons.mpr ⟨fun factory hfactory => (hrefused factory hfactory).2, h.waiting⟩
  proxied := by
    rw [Journal.proxied_append, h.proxied, Journal.proxied_of_refused hcalls, List.append_nil]
  asked := h.asked_cons fun c hc => (hcalls c hc).imp fun _ heq => ⟨false, heq⟩
  tries := h.tries_cons fun factory hfactory => ⟨false, (hrefused factory hfactory).1⟩

end

/-- What the registry is after a pass over a queue of new endpoints. -/
theorem importAll_eq (env : Environment O) {queue : List Endpoint} {s : Session O}
    (hqueue : (queue.map Endpoint.id).Nodup)
    (hnew : ∀ d ∈ queue, d.id ∉ s.registry.imports.map Import.endpointId) :
    ∃ made requeued books calls, importAll env queue s =
        ⟨s.registry.afterImports made requeued books, calls ++ s.journal⟩ ∧
      ImportPass env (fun interface => (s.registry.bookkeepingOf interface).factory)
        queue made requeued calls := by
  induction queue generalizing s with
  | nil =>
    exact ⟨[], [], s.registry.bookkeeping, [],
      by simp [importAll, Registry.afterImports], .nil env _⟩
  | cons d queue ih =>
    obtain ⟨hd, hqueue⟩ := List.nodup_cons.mp hqueue
    have hd' := hnew d List.mem_cons_self
    have hnew' : ∀ e ∈ queue,
        e.id ∉ (importEndpoint env d s).registry.imports.map Import.endpointId := by
      intro e he
      have hne : e.id ≠ d.id := fun heq => hd (heq ▸ List.mem_map_of_mem he)
      exact notMem_importEndpoint env hne hd' (hnew e (List.mem_cons_of_mem d he))
    obtain ⟨made, requeued, books, calls', heq', hpass⟩ := ih hqueue hnew'
    simp only [factory_importEndpoint env hd'] at hpass
    rw [importAll, heq']
    rcases importEndpoint_cases env hd' with
      ⟨factory, proxy, heq, hfactory, hproxy⟩ | ⟨calls, heq, hcalls, hrefused⟩
    · rw [Registry.factory_book] at hfactory
      rw [heq]
      refine ⟨_, requeued, books, _, ?_, hpass.made_cons hfactory hproxy⟩
      simp [Registry.afterImports, Registry.addImport, Registry.emit, Registry.book]
    · simp only [Registry.factory_book] at hrefused
      rw [heq]
      refine ⟨made, _, books, _, ?_, hpass.requeued_cons hcalls fun factory hfactory => ?_⟩
      · simp [Registry.afterImports, Registry.queueEndpoint, Registry.book]
      · exact (hrefused factory hfactory).imp_right fun h => ⟨_, h⟩

end Session

end RemoteServices
