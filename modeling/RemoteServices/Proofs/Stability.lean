import RemoteServices.Proofs.Replay
import RemoteServices.Proofs.Turnover

/-!
# Registrations are stable

Remote peers hold on to endpoint ids, so an export should not change as long as nothing takes its
ground away, and neither should an import.  Whatever a registry is told and does then, a
registration that the operation does not take down stays as it is, and neither an effect nor a call
of a factory is about it: `Session.History.registrations_stable`.
-/
namespace RemoteServices

variable {O : Objects}

/-- The endpoint of this process that an effect is about. -/
def Effect.exported? : Effect O → Option Endpoint
  | .publish d => some d
  | .retract d => some d
  | _ => none

/-- The id of the endpoint whose proxy an effect is about. -/
def Effect.importedId? : Effect O → Option String
  | .register d _ => some d.id
  | .unregister endpointId => some endpointId
  | _ => none

/-- The endpoint of this process that a factory is called for. -/
def Call.exported? : Call → Option Endpoint
  | .createEndpoint _ d _ => some d
  | .removeEndpoint _ d => some d
  | _ => none

/-- The id of the endpoint whose proxy a factory is called for. -/
def Call.importedId? : Call → Option String
  | .createProxy _ d _ => some d.id
  | .removeProxy _ d => some d.id
  | _ => none

namespace Turnover

theorem exported_effects (t : Turnover O) :
    t.effects.filterMap Effect.exported? = t.closed.map Export.description ++
      t.created.map Export.description := by
  simp [effects, List.filterMap_map, Function.comp_def, Effect.exported?]

theorem importedId_effects (t : Turnover O) :
    t.effects.filterMap Effect.importedId? = t.withdrawn.map Import.endpointId ++
      t.made.map Import.endpointId := by
  simp [effects, List.filterMap_map, Function.comp_def, Effect.importedId?]

end Turnover

namespace Session

/-- From one session to the other an export stays as it is, and no effect and no factory's call is
about an endpoint of its service and interface, nor about one of its id if no id is drawn twice. -/
def SparesExport (s s' : Session O) (e : Export O) : Prop :=
  s'.registry.exportOf? e.exportId = some e ∧
    ∃ (calls : Journal) (effects : List (Effect O)), s'.journal = calls ++ s.journal ∧
      s'.registry.effects = s.registry.effects ++ effects ∧
      ∀ d ∈ effects.filterMap Effect.exported? ++ calls.filterMap Call.exported?,
        d.pair ≠ e.pair ∧ (s'.journal.newIds.Nodup → d.id ≠ e.description.id)

/-- From one session to the other an import stays as it is, and no effect and no factory's call is
about its endpoint. -/
def SparesImport (s s' : Session O) (i : Import O) : Prop :=
  s'.registry.importOf? i.endpointId = some i ∧
    ∃ (calls : Journal) (effects : List (Effect O)), s'.journal = calls ++ s.journal ∧
      s'.registry.effects = s.registry.effects ++ effects ∧
      i.endpointId ∉ effects.filterMap Effect.importedId? ++ calls.filterMap Call.importedId?

variable {s s' s'' : Session O}

theorem SparesExport.trans {e : Export O} (h : SparesExport s s' e) (h' : SparesExport s' s'' e) :
    SparesExport s s'' e := by
  obtain ⟨-, calls, effects, hjournal, heffects, hspared⟩ := h
  obtain ⟨hkept, calls', effects', hjournal', heffects', hspared'⟩ := h'
  refine ⟨hkept, calls' ++ calls, effects ++ effects',
    by rw [hjournal', hjournal, List.append_assoc], by rw [heffects', heffects, List.append_assoc],
    fun d hd => ?_⟩
  have hfresh (h : s''.journal.newIds.Nodup) : s'.journal.newIds.Nodup := by
    rw [hjournal', Journal.newIds_append] at h
    exact (List.nodup_append.mp h).2.1
  simp only [List.filterMap_append, List.mem_append] at hd hspared hspared'
  rcases hd with (hd | hd) | (hd | hd)
  · exact (hspared d (.inl hd)).imp_right fun hne h => hne (hfresh h)
  · exact hspared' d (.inl hd)
  · exact hspared' d (.inr hd)
  · exact (hspared d (.inr hd)).imp_right fun hne h => hne (hfresh h)

theorem SparesImport.trans {i : Import O} (h : SparesImport s s' i) (h' : SparesImport s' s'' i) :
    SparesImport s s'' i := by
  obtain ⟨-, calls, effects, hjournal, heffects, hspared⟩ := h
  obtain ⟨hkept, calls', effects', hjournal', heffects', hspared'⟩ := h'
  refine ⟨hkept, calls' ++ calls, effects ++ effects',
    by rw [hjournal', hjournal, List.append_assoc], by
    rw [heffects', heffects, List.append_assoc], ?_⟩
  simp only [List.filterMap_append, List.mem_append, not_or] at hspared hspared' ⊢
  exact ⟨⟨hspared.1, hspared'.1⟩, hspared'.2, hspared.2⟩

theorem History.ids {told : List (Effect O)} (h : s.History told)
    (hfresh : s.journal.newIds.Nodup) :
    (s.registry.exports.map (·.description.id)).Nodup ∧
      ∀ e ∈ s.registry.exports, e.description.id ∈ s.journal.newIds := by
  obtain ⟨-, -, o, -, hshows⟩ := h.learns hfresh
  have hids := hshows.sound.ids
  rw [hshows.published, List.map_map] at hids
  refine ⟨hids, fun e he => hshows.drawn _ (hshows.sound.announced e.description ?_)⟩
  rw [hshows.published]
  exact List.mem_map_of_mem he

section

variable {env : Environment O} {op : Operation O} {t : Turnover O} {asks : Journal}

theorem Moves.created_mem (h : Moves env op s s' t asks) {e : Export O} (he : e ∈ t.created) :
    .createEndpoint e.factory e.description true ∈ asks := by
  rw [← Journal.mem_made, h.made]
  exact List.mem_reverse.mpr
    (List.mem_map_of_mem (f := fun e : Export O => (e.factory, e.description)) he)

theorem Moves.made_mem (h : Moves env op s s' t asks) {i : Import O} (hi : i ∈ t.made) :
    .createProxy i.factory i.description true ∈ asks := by
  rw [← Journal.mem_proxied, h.proxied]
  exact List.mem_reverse.mpr
    (List.mem_map_of_mem (f := fun i : Import O => (i.factory, i.description)) hi)

/-- What effects and calls are about is an export that goes, or an endpoint that a factory is asked
to create. -/
theorem Moves.exported (h : Moves env op s s' t asks) {d : Endpoint}
    (hd : d ∈ t.effects.filterMap Effect.exported? ++
      (asks ++ (farewells t.withdrawn ++ removals t.closed)).filterMap Call.exported?) :
    (∃ e ∈ t.closed, e.description = d) ∨ ∃ f created, .createEndpoint f d created ∈ asks := by
  rw [Turnover.exported_effects] at hd
  simp only [List.filterMap_append, List.mem_append, List.mem_map, List.mem_filterMap] at hd
  rcases hd with (hclosed | ⟨e, he, rfl⟩) | ⟨c, hc, hcall⟩ | ⟨c, hc, hcall⟩ | ⟨c, hc, hcall⟩
  · exact .inl hclosed
  · exact .inr ⟨e.factory, true, h.created_mem he⟩
  · cases c with
    | createEndpoint f d' created =>
      cases hcall
      exact .inr ⟨f, created, hc⟩
    | removeEndpoint f d' => exact absurd hc (h.asks_new.1 f d')
    | _ => cases hcall
  · obtain ⟨i, -, rfl⟩ := List.mem_map.mp (List.mem_reverse.mp hc)
    cases hcall
  · obtain ⟨e, he, rfl⟩ := List.mem_map.mp (List.mem_reverse.mp hc)
    cases hcall
    exact .inl ⟨e, he, rfl⟩

theorem Moves.importedId (h : Moves env op s s' t asks) {id : String}
    (hid : id ∈ t.effects.filterMap Effect.importedId? ++
      (asks ++ (farewells t.withdrawn ++ removals t.closed)).filterMap Call.importedId?) :
    id ∈ t.withdrawn.map Import.endpointId ∨ id ∉ s.registry.imports.map Import.endpointId := by
  have hnew {f : Factory} {d : Endpoint} {created : Bool} (hc : .createProxy f d created ∈ asks) :
      d.id ∉ s.registry.imports.map Import.endpointId := by
    rcases h.asked _ hc with ⟨pair, hpair, -⟩ | ⟨f', d', created', heq, hnew⟩
    · cases hpair
    · cases heq
      exact hnew
  rw [Turnover.importedId_effects] at hid
  simp only [List.filterMap_append, List.mem_append, List.mem_filterMap] at hid
  rcases hid with (hwithdrawn | hmade) | ⟨c, hc, hcall⟩ | ⟨c, hc, hcall⟩ | ⟨c, hc, hcall⟩
  · exact .inl hwithdrawn
  · obtain ⟨i, hi, rfl⟩ := List.mem_map.mp hmade
    exact .inr (hnew (h.made_mem hi))
  · cases c with
    | createProxy f d created =>
      cases hcall
      exact .inr (hnew hc)
    | removeProxy f d => exact absurd hc (h.asks_new.2 f d)
    | _ => cases hcall
  · obtain ⟨i, hi, rfl⟩ := List.mem_map.mp (List.mem_reverse.mp hc)
    cases hcall
    exact .inl (List.mem_map_of_mem hi)
  · obtain ⟨e, -, rfl⟩ := List.mem_map.mp (List.mem_reverse.mp hc)
    cases hcall

theorem Moves.sparesExport (h : Moves env op s s' t asks) {told : List (Effect O)}
    (hs : s.History told) (hmatched' : s'.registry.Matched) {e : Export O}
    (he : e ∈ s.registry.exports) (hstays : op.closes s.registry e = false) :
    SparesExport s s' e := by
  have hmatched := hs.reachable.matched
  have hclosed : e ∉ t.closed := by
    rw [h.closed, List.mem_filter, hstays]
    simp
  have hkept : e ∈ s'.registry.exports := by
    rw [h.turns.exports]
    refine List.mem_append_left _ (List.mem_filter.mpr ⟨he, decide_eq_true ?_⟩)
    rwa [mem_map_key hmatched.nodup (fun f hf => h.turns.closed.subset hf) he]
  refine ⟨find?_key hmatched'.nodup hkept,
    asks ++ (farewells t.withdrawn ++ removals t.closed), t.effects, by simp [h.journal],
    h.turns.effects, fun d hd => ?_⟩
  have hdrawn (hfresh : s'.journal.newIds.Nodup) : s.journal.newIds.Nodup ∧
      ∀ id ∈ asks.newIds, id ∉ s.journal.newIds := by
    simp only [h.journal, Journal.newIds_append, newIds_farewells, newIds_removals,
      List.nil_append] at hfresh
    obtain ⟨-, hold, hdisjoint⟩ := List.nodup_append.mp hfresh
    exact ⟨hold, fun id hid hmem => hdisjoint id hid id hmem rfl⟩
  rcases h.exported hd with ⟨f, hf, rfl⟩ | ⟨factory, created, hask⟩
  · have hf' := h.turns.closed.subset hf
    have hne : f ≠ e := fun heq => hclosed (heq ▸ hf)
    refine ⟨fun hpair => hne ?_, fun hfresh hid => hne ?_⟩
    · have hsame : f.pair = e.pair :=
        (Prod.ext (hmatched.described f hf').symm rfl : f.pair = f.description.pair).trans hpair
      exact List.inj_on_of_nodup_map hmatched.pairs hf' he hsame
    · exact List.inj_on_of_nodup_map (hs.ids (hdrawn hfresh).1).1 hf' he hid
  · refine ⟨fun hpair => ?_, fun hfresh hid => ?_⟩
    · rcases h.asked _ hask with ⟨pair, hasked, hnew⟩ | ⟨_, _, _, heq, -⟩
      · cases hasked
        have hsame : (d.serviceId, d.interface) = e.pair := hpair
        exact hnew (hsame ▸ List.mem_map_of_mem he)
      · cases heq
    · obtain ⟨hold, hnew⟩ := hdrawn hfresh
      exact hnew d.id (List.mem_filterMap.mpr ⟨_, hask, rfl⟩) (hid ▸ (hs.ids hold).2 e he)

theorem Moves.sparesImport (h : Moves env op s s' t asks) (hdistinct : s.registry.Distinct)
    (hdistinct' : s'.registry.Distinct) {i : Import O} (hi : i ∈ s.registry.imports)
    (hstays : op.withdraws s.registry i = false) : SparesImport s s' i := by
  have hwithdrawn : i.endpointId ∉ t.withdrawn.map Import.endpointId := by
    rw [mem_map_key hdistinct.imports h.turns.withdrawn hi, h.withdrawn.mem_iff,
      List.mem_filter, hstays]
    simp
  have hkept : i ∈ s'.registry.imports := by
    rw [h.turns.imports]
    exact List.mem_append_left _ (List.mem_filter.mpr ⟨hi, decide_eq_true hwithdrawn⟩)
  refine ⟨find?_key hdistinct'.imports hkept,
    asks ++ (farewells t.withdrawn ++ removals t.closed), t.effects, by simp [h.journal],
    h.turns.effects, fun hmem => ?_⟩
  rcases h.importedId hmem with hmem | hmem
  · exact hwithdrawn hmem
  · exact hmem (List.mem_map_of_mem hi)

end

theorem perform_clear (hnumbered : s.registry.Numbered)
    (himports : (s.registry.imports.map Import.endpointId).Nodup) (env : Environment O) :
    (s.perform env .clear).registry.exports = [] ∧
    (s.perform env .clear).registry.imports = [] := by
  obtain ⟨imports, -, heq⟩ := clear_eq hnumbered himports env
  rw [perform, apply, heq]
  exact ⟨rfl, rfl⟩

end Session

/-- Whatever a registry is told and does then, an export goes only when its service is removed, the
factory that made it is unbound or everything goes, and an import only when its endpoint disappears,
the factory of its interface is unbound or everything goes.  All others stay as they are, and
neither effects nor factories' calls are about them. -/
theorem Session.History.registrations_stable {s : Session O} {told : List (Effect O)}
    (h : s.History told) (env : Environment O) (op : Operation O) :
    (∀ e ∈ s.registry.exports, op.closes s.registry e = false →
      s.SparesExport (s.perform env op) e) ∧
    (∀ i ∈ s.registry.imports, op.withdraws s.registry i = false →
      s.SparesImport (s.perform env op) i) ∧
    (op = .clear → (s.perform env op).registry.exports = [] ∧
      (s.perform env op).registry.imports = []) := by
  have hmatched := h.reachable.matched
  have hdistinct := h.reachable.distinct
  have hnext := h.apply env op
  obtain ⟨t, asks, hmoves⟩ := Session.moves_apply hmatched hdistinct env op
  obtain ⟨t', asks', hmoves'⟩ :=
    Session.moves_apply hnext.reachable.matched hnext.reachable.distinct env .reconcile
  have hlast := (hnext.apply env .reconcile).reachable
  refine ⟨fun e he hstays => ?_, fun i hi hstays => ?_, ?_⟩
  · have hspared := hmoves.sparesExport h hnext.reachable.matched he hstays
    exact hspared.trans
      (hmoves'.sparesExport hnext hlast.matched (List.mem_of_find?_eq_some hspared.1) rfl)
  · have hspared := hmoves.sparesImport hdistinct hnext.reachable.distinct hi hstays
    exact hspared.trans (hmoves'.sparesImport hnext.reachable.distinct hlast.distinct
      (List.mem_of_find?_eq_some hspared.1) rfl)
  · rintro rfl
    exact Session.perform_clear hmatched.toNumbered hdistinct.imports env

/-- Of two exports and two imports, replacing an export factory takes down one export, and the loss
of an import factory one import; the pass that follows exports the one again and leaves the other to
wait. -/
theorem Session.History.registrations_stable_replaced :
    let s := (Session.ofRegistry (.empty "here" false)).run Environment.granting
      [.addExportFactory ⟨"f", "A"⟩ ∅, .addExportFactory ⟨"g", "B"⟩ ∅,
        .addImportFactory ⟨"h", "A"⟩ ∅, .addImportFactory ⟨"k", "B"⟩ ∅,
        .addService () (.ofList
          [(Key.serviceId, "7"), (Key.objectClass, "A, B"), (Key.exportedInterfaces, "*")]),
        .addEndpoint (.make "x" 7 "there" "A" ∅), .addEndpoint (.make "y" 7 "there" "B" ∅),
        .reconcile]
    let replaced := s.perform .granting (.addExportFactory ⟨"l", "A"⟩ ∅)
    let unbound := s.perform .granting (.removeImportFactory ⟨"h", "A"⟩ ∅)
    s.registry.exports.map (·.description.id) = ["i", "ii"] ∧
      s.registry.imports.map (·.description.id) = ["x", "y"] ∧
      replaced.registry.exports.map (·.description.id) = ["ii", "iii"] ∧
      (∀ e ∈ s.registry.exports, e.interface = "B" → s.SparesExport replaced e) ∧
      (∀ i ∈ s.registry.imports, s.SparesImport replaced i) ∧
      unbound.registry.imports.map (·.description.id) = ["y"] ∧
      (∀ e ∈ s.registry.exports, s.SparesExport unbound e) ∧
      (∀ i ∈ s.registry.imports, i.interface = "B" → s.SparesImport unbound i) ∧
      (s.perform .granting .clear).registry.imports = [] := by
  intro s replaced unbound
  have h : s.History [] := (Session.History.start "here" false).run Environment.granting _
  have hreplaced := h.registrations_stable .granting (.addExportFactory ⟨"l", "A"⟩ ∅)
  have hunbound := h.registrations_stable .granting (.removeImportFactory ⟨"h", "A"⟩ ∅)
  have hstays : ∀ e ∈ s.registry.exports, e.interface = "B" →
      (Operation.addExportFactory ⟨"l", "A"⟩ ∅).closes s.registry e = false := by
    decide +kernel
  have hstays' : ∀ i ∈ s.registry.imports, i.interface = "B" →
      (Operation.removeImportFactory ⟨"h", "A"⟩ ∅).withdraws s.registry i = false := by
    decide +kernel
  exact ⟨by decide +kernel, by decide +kernel, by decide +kernel, fun e he hB =>
    hreplaced.1 e he (hstays e he hB), fun i hi => hreplaced.2.1 i hi rfl, by decide +kernel,
      fun e he => hunbound.1 e he rfl,
    fun i hi hB => hunbound.2.1 i hi (hstays' i hi hB),
    ((h.registrations_stable .granting .clear).2.2 rfl).2⟩

end RemoteServices
