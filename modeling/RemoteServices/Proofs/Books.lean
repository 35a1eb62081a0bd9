import RemoteServices.Proofs.Known

/-!
# The books agree with what is known

For every interface the registry keeps books: the known endpoints, the live imports and the bound
factory, all of which it also knows from elsewhere.  `Registry.Booked` says that the copies agree,
and every operation keeps them so.
-/
namespace RemoteServices

variable {O : Objects}

namespace Bookkeeping

theorem mem_insertText {s t : String} {ts : List String} :
    t ∈ insertText s ts ↔ t = s ∨ t ∈ ts := by
  induction ts with
  | nil => simp [insertText]
  | cons u ts ih =>
    rw [insertText]
    split
    · simp
    · split
      · rename_i hsame
        simp [hsame]
      · simp only [List.mem_cons, ih]
        tauto

theorem pairwise_insertText {s : String} {ts : List String} (h : ts.Pairwise (· < ·)) :
    (insertText s ts).Pairwise (· < ·) := by
  induction ts with
  | nil => exact List.pairwise_singleton _ _
  | cons u ts ih =>
    obtain ⟨hu, hts⟩ := List.pairwise_cons.mp h
    rw [insertText]
    split
    · rename_i hlt
      refine List.pairwise_cons.mpr ⟨?_, h⟩
      rintro t (_ | ⟨_, ht⟩)
      · exact hlt
      · exact String.lt_trans hlt (hu t ht)
    · split
      · exact h
      · rename_i hle hne
        have hlt : u < s := by
          by_contra hnot
          exact hne (String.le_antisymm (String.not_lt.mp hnot) (String.not_lt.mp hle))
        refine List.pairwise_cons.mpr ⟨fun t ht => ?_, ih hts⟩
        rcases mem_insertText.mp ht with rfl | ht
        · exact hlt
        · exact hu t ht

/-- The books of an interface say what is known of it. -/
structure Agrees (known : List Endpoint) (imports : List (Import O))
    (factories : Table String Factory) (interface : String) (b : Bookkeeping) : Prop where
  inUse : ∃ d ∈ known, d.interface = interface
  endpoints : ∀ id, id ∈ b.endpoints ↔ ∃ d ∈ known, d.interface = interface ∧ d.id = id
  ascending : b.endpoints.Pairwise (· < ·)
  registrations : b.registrations =
    (imports.filter (·.interface == interface)).map Import.endpointId
  factory : b.factory = factories.get? interface

theorem Agrees.congr {known known' : List Endpoint} {imports : List (Import O)}
    {factories : Table String Factory} {interface : String} {b : Bookkeeping}
    (h : b.Agrees known imports factories interface)
    (hsame : ∀ d, d.interface = interface → (d ∈ known' ↔ d ∈ known)) :
    b.Agrees known' imports factories interface where
  inUse := by
    obtain ⟨d, hd, hinterface⟩ := h.inUse
    exact ⟨d, (hsame d hinterface).mpr hd, hinterface⟩
  endpoints id := by
    rw [h.endpoints]
    exact exists_congr fun d => and_congr_left fun hd => (hsame d hd.1).symm
  ascending := h.ascending
  registrations := h.registrations
  factory := h.factory

theorem Agrees.mem_removeEndpoint {known : List Endpoint} {imports : List (Import O)}
    {factories : Table String Factory} {interface : String} {b : Bookkeeping}
    (h : b.Agrees known imports factories interface) (id : String) {other : String} :
    other ∈ (b.removeEndpoint id).endpoints ↔
      ∃ d ∈ known.filter (·.id != id), d.interface = interface ∧ d.id = other := by
  simp only [removeEndpoint, List.mem_filter, h.endpoints, bne_iff_ne]
  constructor
  · rintro ⟨⟨d, hd, hinterface, rfl⟩, hne⟩
    exact ⟨d, ⟨hd, hne⟩, hinterface, rfl⟩
  · rintro ⟨d, ⟨hd, hne⟩, hinterface, rfl⟩
    exact ⟨⟨d, hd, hinterface, rfl⟩, hne⟩

theorem Agrees.removeEndpoint {known : List Endpoint} {imports : List (Import O)}
    {factories : Table String Factory} {interface : String} {b : Bookkeeping}
    (h : b.Agrees known imports factories interface) {id : String}
    (hopen : (b.removeEndpoint id).endpoints ≠ []) :
    (b.removeEndpoint id).Agrees (known.filter (·.id != id)) imports factories interface where
  inUse := by
    obtain ⟨other, hother⟩ := List.exists_mem_of_ne_nil _ hopen
    obtain ⟨d, hd, hinterface, -⟩ := (h.mem_removeEndpoint id).mp hother
    exact ⟨d, hd, hinterface⟩
  endpoints _ := h.mem_removeEndpoint id
  ascending := h.ascending.sublist List.filter_sublist
  registrations := h.registrations
  factory := h.factory

end Bookkeeping

namespace Registry

open Bookkeeping

/-- The books of a registry that knows these endpoints. -/
structure Booked (known : List Endpoint) (r : Registry O) : Prop where
  imported : ∀ i ∈ r.imports, i.description ∈ known
  opened : ∀ d ∈ known, (r.bookkeeping.get? d.interface).isSome
  kept : ∀ interface b, r.bookkeeping.get? interface = some b →
    b.Agrees known r.imports r.importFactories interface
  bound : ∀ i ∈ r.imports, r.importFactories.get? i.interface = some i.factory

theorem Booked.congr {known known' : List Endpoint} {r r' : Registry O} (h : Booked known r)
    (hmem : ∀ d, d ∈ known' ↔ d ∈ known) (himports : r'.imports = r.imports)
    (hbooks : r'.bookkeeping = r.bookkeeping)
    (hfactories : r'.importFactories = r.importFactories) :
    Booked known' r' where
  imported i hi := (hmem _).mpr (h.imported i (himports ▸ hi))
  opened d hd := hbooks ▸ h.opened d ((hmem d).mp hd)
  kept interface b hb := by
    rw [himports, hfactories]
    exact (h.kept interface b (hbooks ▸ hb)).congr fun d _ => hmem d
  bound i hi := hfactories ▸ h.bound i (himports ▸ hi)

theorem Booked.bookkeepingOf {known : List Endpoint} {r : Registry O}
    (h : Booked known r) (interface : String) :
    (∀ id, id ∈ (r.bookkeepingOf interface).endpoints ↔ ∃ d ∈ known,
      d.interface = interface ∧ d.id = id) ∧
      (r.bookkeepingOf interface).endpoints.Pairwise (· < ·) ∧
      (r.bookkeepingOf interface).registrations =
        (r.imports.filter (·.interface == interface)).map Import.endpointId ∧
      (r.bookkeepingOf interface).factory = r.importFactories.get? interface := by
  rw [Registry.bookkeepingOf]
  cases hb : r.bookkeeping.get? interface with
  | some b =>
    have hagrees := h.kept interface b hb
    exact ⟨hagrees.endpoints, hagrees.ascending, hagrees.registrations, hagrees.factory⟩
  | none =>
    have hunknown : ∀ d ∈ known, d.interface ≠ interface := by
      rintro d hd rfl
      simpa [hb] using h.opened d hd
    have hempty : r.imports.filter (·.interface == interface) = [] := by
      refine List.filter_eq_nil_iff.mpr fun i hi => ?_
      simpa using hunknown i.description (h.imported i hi)
    rw [hempty]
    refine ⟨fun id => ?_, List.Pairwise.nil, rfl, rfl⟩
    simp only [Option.getD_none, ofFactory, List.not_mem_nil, false_iff, not_exists, not_and]
    exact fun d hd hinterface => absurd hinterface (hunknown d hd)

theorem Booked.usage {known : List Endpoint} {r : Registry O}
    (h : Booked known r) (interface : String) :
    (r.bookkeepingOf interface).usage = r.imports.countP (·.interface == interface) := by
  rw [Bookkeeping.usage, (h.bookkeepingOf interface).2.2.1, List.length_map,
    List.countP_eq_length_filter]

theorem Booked.book {known : List Endpoint} {r : Registry O} (h : Booked known r) (d : Endpoint) :
    Booked (known ++ [d]) (r.book d) where
  imported i hi := List.mem_append_left _ (h.imported i hi)
  opened e he := by
    rw [Registry.book, Table.get?_insert]
    split
    · rfl
    · rename_i hne
      rcases List.mem_append.mp he with he | he
      · exact h.opened e he
      · exact absurd (congrArg Endpoint.interface (List.mem_singleton.mp he)) hne
  kept interface b hb := by
    rw [Registry.book, Table.get?_insert] at hb
    split at hb
    · rename_i hsame
      subst hsame
      cases hb
      obtain ⟨hendpoints, hascending, hregistrations, hfactory⟩ := h.bookkeepingOf d.interface
      refine ⟨⟨d, by simp, rfl⟩, fun id => ?_, pairwise_insertText hascending,
        hregistrations, hfactory⟩
      rw [Bookkeeping.addEndpoint, mem_insertText, hendpoints]
      simp only [List.mem_append, List.mem_singleton]
      constructor
      · rintro (rfl | ⟨e, he, hinterface, hid⟩)
        · exact ⟨d, .inr rfl, rfl, rfl⟩
        · exact ⟨e, .inl he, hinterface, hid⟩
      · rintro ⟨e, he | rfl, hinterface, hid⟩
        · exact .inr ⟨e, he, hinterface, hid⟩
        · exact .inl hid.symm
    · rename_i hne
      refine (h.kept interface b hb).congr fun e he => ?_
      rw [List.mem_append, List.mem_singleton, or_iff_left]
      rintro rfl
      exact hne he.symm
  bound := h.bound

theorem Booked.book_of_mem {known : List Endpoint} {r : Registry O}
    (h : Booked known r) {d : Endpoint} (hd : d ∈ known) : Booked known (r.book d) := by
  refine (h.book d).congr (fun e => ?_) rfl rfl rfl
  rw [List.mem_append, List.mem_singleton]
  exact ⟨.inl, fun he => he.elim id fun heq => heq ▸ hd⟩

theorem Booked.addImport {known : List Endpoint} {r : Registry O}
    (h : Booked known r) {d : Endpoint} (hd : d ∈ known) (proxy : O.Proxy) {factory : Factory}
    (hfactory : (r.bookkeepingOf d.interface).factory = some factory) :
    Booked known (r.addImport d proxy factory) where
  imported i hi := by
    rcases List.mem_append.mp hi with hi | hi
    · exact h.imported i hi
    · rw [List.mem_singleton.mp hi]
      exact hd
  opened e he := by
    have hopened := h.opened e he
    simp only [Registry.addImport, emit, Table.get?_update]
    split
    · simpa using hopened
    · exact hopened
  kept interface b hb := by
    simp only [Registry.addImport, emit, Table.get?_update] at hb
    split at hb
    · rename_i hsame
      obtain ⟨b', hb', rfl⟩ := Option.map_eq_some_iff.mp hb
      have hagrees := h.kept interface b' hb'
      refine ⟨hagrees.inUse, hagrees.endpoints, hagrees.ascending, ?_, hagrees.factory⟩
      have hnew : [(⟨d, proxy, factory⟩ : Import O)].filter (·.interface == interface) =
          [⟨d, proxy, factory⟩] :=
        List.filter_eq_self.mpr (by simpa using hsame.symm)
      simp only [Registry.addImport, emit, addRegistration, List.filter_append, hnew,
        List.map_append, hagrees.registrations]
      rfl
    · rename_i hne
      have hagrees := h.kept interface b hb
      refine ⟨hagrees.inUse, hagrees.endpoints, hagrees.ascending, ?_, hagrees.factory⟩
      have hnew : [(⟨d, proxy, factory⟩ : Import O)].filter (·.interface == interface) = [] :=
        List.filter_eq_nil_iff.mpr (by simpa using Ne.symm hne)
      simp only [Registry.addImport, emit, List.filter_append, hnew,
        List.append_nil, hagrees.registrations]
  bound i hi := by
    rcases List.mem_append.mp hi with hi | hi
    · exact h.bound i hi
    · rw [List.mem_singleton.mp hi]
      exact (h.bookkeepingOf d.interface).2.2.2.symm.trans hfactory

/-- Taking imports down strikes them from the books. -/
theorem Booked.withoutImports {known : List Endpoint} {r : Registry O} (h : Booked known r)
    (hnodup : (r.imports.map Import.endpointId).Nodup) {imports : List (Import O)}
    (hmem : ∀ i ∈ imports, i ∈ r.imports) : Booked known (r.withoutImports imports) where
  imported i hi := h.imported i (List.mem_of_mem_filter hi)
  opened d hd := by
    simp only [Registry.withoutImports, get?_strike, Option.isSome_map]
    exact h.opened d hd
  kept interface b hb := by
    simp only [Registry.withoutImports, get?_strike] at hb
    obtain ⟨b', hb', rfl⟩ := Option.map_eq_some_iff.mp hb
    have hagrees := h.kept interface b' hb'
    refine ⟨hagrees.inUse, hagrees.endpoints, hagrees.ascending, ?_, hagrees.factory⟩
    -- An import of the interface is among the given ones, or no given one has its id.
    have hsame : ∀ i ∈ r.imports.filter (·.interface == interface),
        (i.endpointId ∈ (imports.filter (·.interface == interface)).map Import.endpointId ↔
          i.endpointId ∈ imports.map Import.endpointId) := by
      intro i hi
      obtain ⟨hi, hinterface⟩ := List.mem_filter.mp hi
      constructor
      · exact fun hin => (List.filter_sublist.map Import.endpointId).subset hin
      · intro hin
        obtain ⟨k, hk, hid⟩ := List.mem_map.mp hin
        have hki : k = i := List.inj_on_of_nodup_map hnodup (hmem k hk) hi hid
        exact hid ▸ List.mem_map_of_mem (List.mem_filter.mpr ⟨hk, hki ▸ hinterface⟩)
    rw [hagrees.registrations, List.filter_map]
    change _ = ((r.imports.filter fun i => i.endpointId ∉ imports.map Import.endpointId).filter
      fun i => i.interface == interface).map Import.endpointId
    rw [List.filter_comm fun i : Import O => i.interface == interface]
    refine congrArg (List.map Import.endpointId) (List.filter_congr fun i hi => ?_)
    simp only [Function.comp_apply, hsame i hi]
  bound i hi := h.bound i (List.mem_of_mem_filter hi)

theorem Booked.rebind {known : List Endpoint} {r : Registry O} (h : Booked known r) {name : String}
    (hidle : ∀ i ∈ r.imports, i.interface ≠ name) (factory : Option Factory)
    {factories : Table String Factory}
    (hfactories : ∀ interface, factories.get? interface =
      if interface = name then factory else r.importFactories.get? interface) :
    Booked known ({ r with
      bookkeeping := r.bookkeeping.update name fun b => { b with factory := factory }
      importFactories := factories } : Registry O) where
  imported := h.imported
  opened d hd := by
    have hopened := h.opened d hd
    simp only [Table.get?_update]
    split
    · simpa using hopened
    · exact hopened
  kept interface b hb := by
    simp only [Table.get?_update] at hb
    split at hb
    · rename_i hsame
      obtain ⟨b', hb', rfl⟩ := Option.map_eq_some_iff.mp hb
      have hagrees := h.kept interface b' hb'
      refine ⟨hagrees.inUse, hagrees.endpoints, hagrees.ascending, hagrees.registrations, ?_⟩
      simp [hfactories, hsame]
    · rename_i hne
      have hagrees := h.kept interface b hb
      refine ⟨hagrees.inUse, hagrees.endpoints, hagrees.ascending, hagrees.registrations, ?_⟩
      simp [hfactories, hne, hagrees.factory]
  bound i hi := by
    simp only [hfactories, if_neg (hidle i hi)]
    exact h.bound i hi

theorem Booked.unbook {known : List Endpoint} {r : Registry O} (h : Booked known r) {d : Endpoint}
    (hd : d ∈ known) (honly : ∀ e ∈ known, e.id = d.id → e = d)
    (hidle : ∀ i ∈ r.imports, i.endpointId ≠ d.id) :
    Booked (known.filter (·.id != d.id)) (r.unbook d) := by
  have hleft {e : Endpoint} : e ∈ known.filter (·.id != d.id) ↔ e ∈ known ∧ e.id ≠ d.id := by
    simp [List.mem_filter]
  obtain ⟨b, hb⟩ := Option.isSome_iff_exists.mp (h.opened d hd)
  have hagrees := h.kept d.interface b hb
  -- The books of the other interfaces do not contain the endpoint.
  have hother {interface : String} (hne : interface ≠ d.interface) {b' : Bookkeeping}
      (hb' : r.bookkeeping.get? interface = some b') :
      b'.Agrees (known.filter (·.id != d.id)) r.imports r.importFactories interface := by
    refine (h.kept interface b' hb').congr fun e hinterface => ?_
    rw [hleft, and_iff_left_iff_imp]
    rintro he hid
    exact hne (hinterface ▸ congrArg Endpoint.interface (honly e he hid))
  have himported : ∀ i ∈ r.imports, i.description ∈ known.filter (·.id != d.id) := fun i hi =>
    hleft.mpr ⟨h.imported i hi, hidle i hi⟩
  rw [Registry.unbook, hb]
  dsimp only
  split
  · rename_i hempty
    have hnone : ∀ e ∈ known.filter (·.id != d.id), e.interface ≠ d.interface := by
      intro e he hinterface
      have hmem := (hagrees.mem_removeEndpoint d.id).mpr ⟨e, he, hinterface, rfl⟩
      rw [List.isEmpty_iff.mp hempty] at hmem
      cases hmem
    refine ⟨himported, fun e he => ?_, fun interface b' hb' => ?_, h.bound⟩
    · rw [Table.get?_erase, if_neg (hnone e he)]
      exact h.opened e (hleft.mp he).1
    · rw [Table.get?_erase] at hb'
      split at hb'
      · cases hb'
      · rename_i hne
        exact hother hne hb'
  · rename_i hopen
    refine ⟨himported, fun e he => ?_, fun interface b' hb' => ?_, h.bound⟩
    · rw [Table.get?_insert]
      split
      · rfl
      · exact h.opened e (hleft.mp he).1
    · rw [Table.get?_insert] at hb'
      split at hb'
      · rename_i hsame
        subst hsame
        cases hb'
        exact hagrees.removeEndpoint fun hnil => hopen (List.isEmpty_iff.mpr hnil)
      · rename_i hne
        exact hother hne hb'

theorem booked_empty {r : Registry O} (himports : r.imports = []) (hbooks : r.bookkeeping = ∅) :
    Booked [] r where
  imported := by simp [himports]
  opened := by simp
  kept := by simp [hbooks]
  bound := by simp [himports]

end Registry

namespace Session

open Registry

theorem booked_importEndpoint {known : List Endpoint} (env : Environment O)
    {s : Session O} {d : Endpoint} (h : Booked known s.registry) (hd : d ∈ known)
    (hnew : d.id ∉ s.registry.imports.map Import.endpointId) :
    Booked known (importEndpoint env d s).registry := by
  have hbook := h.book_of_mem hd
  rcases importEndpoint_cases env hnew with ⟨factory, proxy, heq, hfactory, -⟩ | ⟨calls, heq, -, -⟩
  · rw [heq]
    exact hbook.addImport hd proxy hfactory
  · rw [heq]
    exact hbook.congr (fun _ => .rfl) rfl rfl rfl

/-- All the time during a pass, the endpoints that are still to be tried are known. -/
theorem booked_importAll {known : List Endpoint} (env : Environment O)
    {queue : List Endpoint} {s : Session O} (h : Booked known s.registry)
    (hknown : ∀ d ∈ queue, d ∈ known) (hqueue : (queue.map Endpoint.id).Nodup)
    (hnew : ∀ d ∈ queue, d.id ∉ s.registry.imports.map Import.endpointId) :
    Booked known (importAll env queue s).registry := by
  induction queue generalizing s with
  | nil => exact h
  | cons d queue ih =>
    obtain ⟨hd, hqueue⟩ := List.nodup_cons.mp hqueue
    have hstep := booked_importEndpoint env h (hknown d List.mem_cons_self)
      (hnew d List.mem_cons_self)
    refine ih hstep (fun e he => hknown e (List.mem_cons_of_mem d he)) hqueue fun e he => ?_
    have hne : e.id ≠ d.id := fun heq => hd (heq ▸ List.mem_map_of_mem he)
    exact notMem_importEndpoint env hne (hnew d List.mem_cons_self)
      (hnew e (List.mem_cons_of_mem d he))

theorem booked_of_importSide {s : Session O} {r : Registry O}
    (h : Booked s.registry.knownEndpoints s.registry)
    (hside : r.importSide = s.registry.importSide) : Booked r.knownEndpoints r := by
  have hknown := knownEndpoints_of_importSide hside
  simp only [importSide, ImportSide.mk.injEq] at hside
  exact h.congr (fun d => by rw [hknown]) hside.2.2.2.1 hside.2.2.2.2.1 hside.2.2.1

theorem booked_detachImportFactory {known : List Endpoint} {s : Session O}
    (h : Booked known s.registry) (hdistinct : s.registry.Distinct)
    (env : Environment O) (name : String) :
    Booked known (s.detachImportFactory env name).registry ∧
      (s.detachImportFactory env name).registry.importFactories.get? name = none := by
  obtain ⟨imports, hperm, heq⟩ := detachImportFactory_eq hdistinct.imports env name
  have hmem : ∀ i ∈ imports, i ∈ s.registry.imports := fun i hi =>
    List.mem_of_mem_filter (hperm.mem_iff.mp hi)
  have hidle : ∀ i ∈ (s.registry.withoutImports imports).imports, i.interface ≠ name := by
    intro i hi hinterface
    obtain ⟨hi, hnot⟩ := List.mem_filter.mp hi
    have hin : i ∈ imports :=
      hperm.mem_iff.mpr (List.mem_filter.mpr ⟨hi, by simpa using hinterface⟩)
    exact absurd (List.mem_map_of_mem hin) (by simpa using hnot)
  have hstruck := h.withoutImports hdistinct.imports hmem
  rw [heq]
  refine ⟨?_, by simp [Table.get?_erase]⟩
  exact (hstruck.rebind hidle none fun interface => Table.get?_erase _ _ _).congr
    (fun _ => .rfl) rfl rfl rfl

theorem booked_bindImportFactory {known : List Endpoint} {r : Registry O}
    (h : Booked known r) {name : String} (hfree : r.importFactories.get? name = none)
    (factory : Factory) :
    Booked known ({ r with
      bookkeeping := r.bookkeeping.update name fun b => { b with factory := some factory }
      importFactories := r.importFactories.insert name factory } : Registry O) := by
  refine h.rebind (fun i hi hinterface => ?_) (some factory) fun interface =>
    Table.get?_insert _ _ _ _
  have hbound := h.bound i hi
  rw [hinterface, hfree] at hbound
  cases hbound

theorem booked_addImportFactory {known : List Endpoint} {s : Session O}
    (h : Booked known s.registry) (hdistinct : s.registry.Distinct) (env : Environment O)
    (factory : Factory) (p : Properties) :
    Booked known (s.addImportFactory env factory p).registry := by
  rw [addImportFactory]
  dsimp only
  split
  · rename_i hfree
    exact booked_bindImportFactory h hfree factory
  · split
    · exact h
    · obtain ⟨hdetached, hfree⟩ := booked_detachImportFactory h hdistinct env (factory.boundName p)
      exact booked_bindImportFactory hdetached hfree factory

theorem booked_removeImportFactory {known : List Endpoint} {s : Session O}
    (h : Booked known s.registry) (hdistinct : s.registry.Distinct) (env : Environment O)
    (factory : Factory) (p : Properties) :
    Booked known (s.removeImportFactory env factory p).registry := by
  rw [removeImportFactory]
  split
  · exact (booked_detachImportFactory h hdistinct env _).1
  · exact h

theorem booked_addEndpoint {r : Registry O} (h : Booked r.knownEndpoints r) (d : Endpoint) :
    Booked (r.addEndpoint d).knownEndpoints (r.addEndpoint d) := by
  rw [addEndpoint]
  split
  · exact h
  · split
    · exact h
    · refine (h.book d).congr (fun e => ?_) rfl rfl rfl
      simp [knownEndpoints, queueEndpoint, Registry.book]

/-- An endpoint that is taken out stays in the books until it is struck there too. -/
theorem booked_withdraw {s : Session O} (h : Booked s.registry.knownEndpoints s.registry)
    (hdistinct : s.registry.Distinct) {known : Endpoint}
    (hknown : s.registry.known? known.id = some known) :
    Booked s.registry.knownEndpoints (s.withdraw known).registry := by
  have hstruck := h.withoutImports hdistinct.imports
    fun i hi => List.mem_of_mem_filter (p := (·.endpointId == known.id)) hi
  rw [withdraw_eq hdistinct hknown]
  exact hstruck.congr (fun _ => .rfl) rfl rfl rfl

theorem booked_removeEndpoint {s : Session O} (h : Booked s.registry.knownEndpoints s.registry)
    (hdistinct : s.registry.Distinct) (d : Endpoint) :
    Booked (s.removeEndpoint d).registry.knownEndpoints (s.removeEndpoint d).registry := by
  rw [knownEndpoints_removeEndpoint hdistinct, removeEndpoint]
  split
  · rename_i hfind
    rw [known?_eq_find?, find?_key_eq_none] at hfind
    rw [List.filter_eq_self.mpr fun e he => by simpa using hfind e he]
    exact h
  · rename_i known hfind
    obtain ⟨hmem, hid⟩ := mem_of_find?_key (s.registry.known?_eq_find? d.id ▸ hfind)
    have hwithdrawn := booked_withdraw h hdistinct (hid ▸ hfind)
    have hidle : ∀ i ∈ (s.withdraw known).registry.imports, i.endpointId ≠ known.id := by
      intro i hi
      rw [withdraw_eq hdistinct (hid ▸ hfind)] at hi
      have hleft := filter_keys_notMem hdistinct.imports (·.endpointId == known.id)
      simp only [Registry.withoutImports, hleft] at hi
      simpa using (List.mem_filter.mp hi).2
    rw [← hid]
    exact hwithdrawn.unbook hmem
      (fun e he heq => List.inj_on_of_nodup_map hdistinct he hmem heq) hidle

theorem booked_reconcile {s : Session O} (hmatched : s.registry.Matched)
    (hdistinct : s.registry.Distinct) (h : Booked s.registry.knownEndpoints s.registry)
    (env : Environment O) :
    Booked (s.reconcile env).registry.knownEndpoints (s.reconcile env).registry := by
  have hside := importSide_exportAll env s.registry.toBeExported
    (s.modify fun r => { r with toBeExported := [] })
  have hknown := knownEndpoints_reconcile hmatched hdistinct env
  rw [reconcile] at hknown ⊢
  generalize exportAll env s.registry.toBeExported _ = exported at hside hknown ⊢
  change exported.registry.importSide = s.registry.importSide at hside
  have hbooked := booked_of_importSide h hside
  have hdistinct' : exported.registry.Distinct := by
    rw [Distinct, knownEndpoints_of_importSide hside]
    exact hdistinct
  have hpass : Booked exported.registry.knownEndpoints
      (importAll env exported.registry.toBeImported
        (exported.modify fun r => { r with toBeImported := [] })).registry :=
    booked_importAll env (hbooked.congr (fun _ => .rfl) rfl rfl rfl)
      (fun d hd => List.mem_append_right _ hd) hdistinct'.waiting.1 hdistinct'.waiting.2
  refine hpass.congr (fun d => ?_) rfl rfl rfl
  rw [hknown.mem_iff, knownEndpoints_of_importSide hside]

theorem booked_apply {s : Session O} (hmatched : s.registry.Matched)
    (hdistinct : s.registry.Distinct) (h : Booked s.registry.knownEndpoints s.registry)
    (env : Environment O) (op : Operation O) :
    Booked (s.apply env op).registry.knownEndpoints (s.apply env op).registry := by
  cases op with
  | addService object p => exact booked_of_importSide h (s.registry.importSide_addService object p)
  | removeService p => exact booked_of_importSide h (importSide_removeService p s)
  | addExportFactory f p => exact booked_of_importSide h (importSide_addExportFactory f p s)
  | removeExportFactory f p => exact booked_of_importSide h (importSide_removeExportFactory f p s)
  | addImportFactory f p =>
    have hknown := knownEndpoints_addImportFactory hdistinct env f p
    exact (booked_addImportFactory h hdistinct env f p).congr (fun d => hknown.mem_iff) rfl rfl rfl
  | removeImportFactory f p =>
    have hknown := knownEndpoints_removeImportFactory hdistinct env f p
    exact (booked_removeImportFactory h hdistinct env f p).congr
      (fun d => hknown.mem_iff) rfl rfl rfl
  | addEndpoint d => exact booked_addEndpoint h d
  | removeEndpoint d => exact booked_removeEndpoint h hdistinct d
  | reconcile => exact booked_reconcile hmatched hdistinct h env
  | clear =>
    obtain ⟨imports, -, heq⟩ := clear_eq hmatched.toNumbered hdistinct.imports env
    rw [apply, heq]
    exact booked_empty rfl rfl

end Session

theorem Registry.Reachable.booked {r : Registry O} (h : r.Reachable) :
    Booked r.knownEndpoints r := by
  induction h with
  | empty => exact booked_empty rfl rfl
  | apply env op hs ih => exact Session.booked_apply hs.matched hs.distinct ih env op
  | takeEffect _ he ih =>
    rw [(takeEffect_eq_some.mp he).2]
    exact ih.congr (fun _ => .rfl) rfl rfl rfl

theorem Registry.Booked.isSome_iff {known : List Endpoint} {r : Registry O} (h : Booked known r)
    (interface : String) :
    (r.bookkeeping.get? interface).isSome ↔ ∃ d ∈ known, d.interface = interface := by
  constructor
  · intro hsome
    obtain ⟨b, hb⟩ := Option.isSome_iff_exists.mp hsome
    exact (h.kept interface b hb).inUse
  · rintro ⟨d, hd, rfl⟩
    exact h.opened d hd

/-- In every reachable registry the books of an interface are there just as long as an endpoint of
it is known; they list its known endpoints and its imports, each once, and name the factory that is
bound, which also built these imports.  They outlive the factory and go with the last endpoint, and
no endpoint disappears without books to strike it from. -/
theorem Registry.Reachable.books_agree {r : Registry O} (h : r.Reachable) :
    (∀ interface, (r.bookkeeping.get? interface).isSome ↔ ∃ d ∈ r.knownEndpoints,
      d.interface = interface) ∧
    (∀ interface b, r.bookkeeping.get? interface = some b →
      (b.endpoints.Nodup ∧ ∀ id, id ∈ b.endpoints ↔ ∃ d ∈ r.knownEndpoints,
        d.interface = interface ∧ d.id = id) ∧
      (b.registrations.Nodup ∧
        (∀ id, id ∈ b.registrations ↔ ∃ i ∈ r.imports,
          i.interface = interface ∧ i.endpointId = id) ∧
        b.usage = r.imports.countP (·.interface == interface)) ∧
      b.factory = r.importFactories.get? interface) ∧
    (∀ i ∈ r.imports, r.importFactories.get? i.interface = some i.factory) ∧
    (∀ (env : Environment O) (factory : Factory) (p : Properties) (j : Journal) interface,
      (r.bookkeeping.get? interface).isSome →
        ((Session.removeImportFactory env factory p ⟨r, j⟩).registry.bookkeeping.get?
          interface).isSome) ∧
    ∀ (j : Journal) (d known : Endpoint), r.known? d.id = some known →
      ((Session.withdraw known ⟨r, j⟩).registry.bookkeeping.get? known.interface).isSome ∧
        ((∀ e ∈ r.knownEndpoints, e.interface = known.interface → e.id = d.id) →
          (Session.removeEndpoint d ⟨r, j⟩).registry.bookkeeping.get? known.interface = none) := by
  have hb := h.booked
  have hd := h.distinct
  refine ⟨hb.isSome_iff, fun interface b hget => ?_, hb.bound, ?_, ?_⟩
  · have hagrees := hb.kept interface b hget
    refine ⟨⟨hagrees.ascending.imp fun hlt heq => ?_, hagrees.endpoints⟩,
      ⟨?_, fun id => ?_, ?_⟩, hagrees.factory⟩
    · exact String.lt_irrefl _ (heq ▸ hlt)
    · rw [hagrees.registrations]
      exact hd.imports.sublist (List.filter_sublist.map _)
    · simp [hagrees.registrations, and_assoc]
    · rw [Bookkeeping.usage, hagrees.registrations, List.length_map, List.countP_eq_length_filter]
  · intro env factory p j interface hsome
    have hkept := Session.booked_removeImportFactory (s := ⟨r, j⟩) hb hd env factory p
    exact (hkept.isSome_iff interface).mpr ((hb.isSome_iff interface).mp hsome)
  · intro j d known hfind
    obtain ⟨hmem, hid⟩ := mem_of_find?_key (r.known?_eq_find? d.id ▸ hfind)
    refine ⟨?_, fun hlast => ?_⟩
    · exact (Session.booked_withdraw (s := ⟨r, j⟩) hb hd (hid ▸ hfind)).opened known hmem
    · have hremoved := Session.booked_removeEndpoint (s := ⟨r, j⟩) hb hd d
      rw [Session.knownEndpoints_removeEndpoint (s := ⟨r, j⟩) hd] at hremoved
      rw [← Option.not_isSome_iff_eq_none, hremoved.isSome_iff]
      rintro ⟨e, he, hinterface⟩
      obtain ⟨he, hne⟩ := List.mem_filter.mp he
      simp [hlast e he hinterface] at hne

/-- Two endpoints of an interface, of which only the first can be imported; then the factory goes,
and the first endpoint too. -/
theorem Registry.Reachable.books_agree_unbound :
    let d (id : String) : Endpoint := .make id 7 "there" "A" ∅
    let env : Environment .plain := { Environment.granting with
      proxy := fun _ _ d => if d.id = "x" then .ok () else .error "unreachable" }
    let imported := (Session.ofRegistry (.empty "here" false)).run env
      [.addImportFactory ⟨"f", "A"⟩ ∅, .addEndpoint (d "x"), .addEndpoint (d "y"), .reconcile]
    let unbound := imported.run env [.removeImportFactory ⟨"f", "A"⟩ ∅, .removeEndpoint (d "x")]
    imported.registry.Reachable ∧ unbound.registry.Reachable ∧
      imported.registry.bookkeeping.get? "A" = some ⟨["x", "y"], ["x"], some ⟨"f", "A"⟩⟩ ∧
      unbound.registry.bookkeeping.get? "A" = some ⟨["y"], [], none⟩ ∧
      ((unbound.removeEndpoint (d "y")).registry.bookkeeping.get? "A") = none ∧
      ∃ e ∈ unbound.registry.knownEndpoints, e.interface = "A" := by
  intro d env imported unbound
  have himported : imported.registry.Reachable :=
    (Registry.Reachable.empty "here" false).run env (s := .ofRegistry _) _
  have hunbound : unbound.registry.Reachable := himported.run env _
  have hagree := hunbound.books_agree
  exact ⟨himported, hunbound, by decide +kernel, by decide +kernel, by decide +kernel,
    (hagree.1 "A").mp (by decide +kernel)⟩

end RemoteServices
