import RemoteServices.Proofs.Known

/-!
# What the outside is told

The effects of a registry are told to a directory of published endpoints and to a space of proxies.
`Outside.replay` is what these come to know, and it refuses an effect that makes no sense to them.
No effect of a registry is ever refused, and once all are told the outside knows just the exports
and the imports: `Session.History.replays`.
-/
namespace RemoteServices

variable {O : Objects}

/-- What one registry made known. -/
structure Outside (O : Objects) where
  /-- The ids of all endpoints that were ever published. -/
  announced : List String
  published : List Endpoint
  proxies : List (Endpoint × O.Proxy)

/-- The service and the interface of an endpoint. -/
def Endpoint.pair (d : Endpoint) : ServiceId × String := (d.serviceId, d.interface)

theorem Registry.Matched.map_pair {r : Registry O} (h : r.Matched) :
    r.exports.map (·.description.pair) = r.exports.map Export.pair :=
  List.map_congr_left fun e he => Prod.ext (h.described e he) rfl

theorem Registry.Matched.descriptions_nodup {r : Registry O} (h : r.Matched) :
    (r.exports.map Export.description).Nodup := by
  have hpairs := h.pairs
  rw [← h.map_pair] at hpairs
  exact List.Nodup.of_map Endpoint.pair (by rw [List.map_map]; exact hpairs)

namespace Outside

def start : Outside O := ⟨[], [], []⟩

/-- Takes one effect in.  An id is published once and for all and no pair at the same time as
another endpoint; only what is there can go, and no endpoint has two proxies. -/
def tell? (o : Outside O) : Effect O → Option (Outside O)
  | .publish d =>
    if d.id ∈ o.announced ∨ d.pair ∈ o.published.map Endpoint.pair then none
    else some { o with announced := d.id :: o.announced, published := o.published ++ [d] }
  | .retract d =>
    if d.id ∈ o.published.map Endpoint.id then
      some { o with published := o.published.filter (·.id != d.id) }
    else none
  | .register d proxy =>
    if d.id ∈ o.proxies.map (·.1.id) then none else
      some { o with proxies := o.proxies ++ [(d, proxy)] }
  | .unregister endpointId =>
    if endpointId ∈ o.proxies.map (·.1.id) then
      some { o with proxies := o.proxies.filter (·.1.id != endpointId) }
    else none

/-- Takes effects in, one after the other. -/
def replay (o : Outside O) (effects : List (Effect O)) : Option (Outside O) :=
  effects.foldlM tell? o

@[simp] theorem replay_nil (o : Outside O) : o.replay [] = some o := rfl

@[simp] theorem replay_cons (o : Outside O) (e : Effect O) (es : List (Effect O)) :
    o.replay (e :: es) = (o.tell? e).bind (·.replay es) := rfl

theorem replay_append (o : Outside O) (es fs : List (Effect O)) :
    o.replay (es ++ fs) = (o.replay es).bind (·.replay fs) :=
  List.foldlM_append

section

variable {o o' : Outside O} {d : Endpoint}

theorem tell?_publish : o.tell? (.publish d) = some o' ↔
    (d.id ∉ o.announced ∧ d.pair ∉ o.published.map Endpoint.pair) ∧
      { o with announced := d.id :: o.announced, published := o.published ++ [d] } = o' := by
  rw [tell?, Option.ite_none_left_eq_some, not_or, Option.some.injEq]

theorem tell?_retract : o.tell? (.retract d) = some o' ↔
    d.id ∈ o.published.map Endpoint.id ∧
    { o with published := o.published.filter (·.id != d.id) } = o' := by
  rw [tell?, Option.ite_none_right_eq_some, Option.some.injEq]

theorem tell?_register {proxy : O.Proxy} : o.tell? (.register d proxy) = some o' ↔
    d.id ∉ o.proxies.map (·.1.id) ∧ { o with proxies := o.proxies ++ [(d, proxy)] } = o' := by
  rw [tell?, Option.ite_none_left_eq_some, Option.some.injEq]

theorem tell?_unregister {endpointId : String} : o.tell? (.unregister endpointId) = some o' ↔
    endpointId ∈ o.proxies.map (·.1.id) ∧
    { o with proxies := o.proxies.filter (·.1.id != endpointId) } = o' := by
  rw [tell?, Option.ite_none_right_eq_some, Option.some.injEq]

end

/-- What holds of the outside at any time. -/
structure Sound (o : Outside O) : Prop where
  announced : ∀ d ∈ o.published, d.id ∈ o.announced
  ids : (o.published.map Endpoint.id).Nodup
  pairs : (o.published.map Endpoint.pair).Nodup
  proxies : (o.proxies.map (·.1.id)).Nodup

theorem sound_start : (start : Outside O).Sound where
  announced := by simp [start]
  ids := List.nodup_nil
  pairs := List.nodup_nil
  proxies := List.nodup_nil

theorem Sound.tell {o o' : Outside O} (h : o.Sound) {e : Effect O} (he : o.tell? e = some o') :
    o'.Sound := by
  cases e with
  | publish d =>
    obtain ⟨⟨hnew, hpair⟩, rfl⟩ := tell?_publish.mp he
    have hid : d.id ∉ o.published.map Endpoint.id := by
      intro hmem
      obtain ⟨c, hc, hid⟩ := List.mem_map.mp hmem
      exact hnew (hid ▸ h.announced c hc)
    refine ⟨fun c hc => ?_, nodup_concat_key h.ids hid, nodup_concat_key h.pairs hpair, h.proxies⟩
    rcases List.mem_append.mp hc with hc | hc
    · exact List.mem_cons_of_mem _ (h.announced c hc)
    · exact List.mem_singleton.mp hc ▸ List.mem_cons_self
  | retract d =>
    obtain ⟨-, rfl⟩ := tell?_retract.mp he
    exact ⟨fun c hc => h.announced c (List.mem_of_mem_filter hc),
      h.ids.sublist (List.filter_sublist.map _),
      h.pairs.sublist (List.filter_sublist.map _), h.proxies⟩
  | register d proxy =>
    obtain ⟨hnew, rfl⟩ := tell?_register.mp he
    exact ⟨h.announced, h.ids, h.pairs, nodup_concat_key h.proxies hnew⟩
  | unregister endpointId =>
    obtain ⟨-, rfl⟩ := tell?_unregister.mp he
    exact ⟨h.announced, h.ids, h.pairs, h.proxies.sublist (List.filter_sublist.map _)⟩

theorem Sound.replay {o o' : Outside O} (h : o.Sound) {es : List (Effect O)}
    (he : o.replay es = some o') :
    o'.Sound := by
  induction es generalizing o with
  | nil =>
    cases he
    exact h
  | cons e es ih =>
    obtain ⟨c, hc, hes⟩ := Option.bind_eq_some_iff.mp he
    exact ih (h.tell hc) hes

theorem announced_tell {o o' : Outside O} {e : Effect O} (he : o.tell? e = some o') :
    ∀ id ∈ o.announced, id ∈ o'.announced := by
  intro id hid
  cases e with
  | publish d =>
    obtain ⟨-, rfl⟩ := tell?_publish.mp he
    exact List.mem_cons_of_mem _ hid
  | retract d =>
    obtain ⟨-, rfl⟩ := tell?_retract.mp he
    exact hid
  | register d proxy =>
    obtain ⟨-, rfl⟩ := tell?_register.mp he
    exact hid
  | unregister endpointId =>
    obtain ⟨-, rfl⟩ := tell?_unregister.mp he
    exact hid

theorem announced_replay {o o' : Outside O} {es : List (Effect O)} (he : o.replay es = some o') :
    ∀ id ∈ o.announced, id ∈ o'.announced := by
  induction es generalizing o with
  | nil =>
    cases he
    exact fun _ hid => hid
  | cons e es ih =>
    obtain ⟨c, hc, hes⟩ := Option.bind_eq_some_iff.mp he
    exact fun id hid => ih hes id (announced_tell hc id hid)

theorem replay_publish (ds : List Endpoint) {o : Outside O} (hids : (ds.map Endpoint.id).Nodup)
    (hnew : ∀ d ∈ ds, d.id ∉ o.announced) (hpairs : ((o.published ++ ds).map Endpoint.pair).Nodup) :
    o.replay (ds.map .publish) = some
      { o with
        announced := (ds.map Endpoint.id).reverse ++ o.announced, published :=
        o.published ++ ds } := by
  induction ds generalizing o with
  | nil => simp
  | cons d ds ih =>
    obtain ⟨hd, hids⟩ := List.nodup_cons.mp hids
    have hpair : d.pair ∉ o.published.map Endpoint.pair := by
      rw [List.map_append] at hpairs
      exact fun hmem => (List.nodup_append.mp hpairs).2.2 _ hmem _ List.mem_cons_self rfl
    have hstep : o.tell? (.publish d) = some
        { o with announced := d.id :: o.announced, published := o.published ++ [d] } :=
      tell?_publish.mpr ⟨⟨hnew d List.mem_cons_self, hpair⟩, rfl⟩
    have hnew' : ∀ e ∈ ds, e.id ∉ d.id :: o.announced := by
      intro e he hmem
      rcases List.mem_cons.mp hmem with heq | hmem
      · exact hd (heq ▸ List.mem_map_of_mem he)
      · exact hnew e (List.mem_cons_of_mem d he) hmem
    rw [List.map_cons, replay_cons, hstep, Option.bind_some, ih hids hnew' (by simpa using hpairs)]
    simp

theorem replay_retract (ds : List Endpoint) {o : Outside O} (hids : (ds.map Endpoint.id).Nodup)
    (hmem : ∀ d ∈ ds, d ∈ o.published) :
    o.replay (ds.map .retract) = some
      { o with published := o.published.filter fun d => d.id ∉ ds.map Endpoint.id } := by
  induction ds generalizing o with
  | nil => simp
  | cons d ds ih =>
    obtain ⟨hd, hids⟩ := List.nodup_cons.mp hids
    have hstep :
        o.tell? (.retract d) = some { o with published := o.published.filter (·.id != d.id) } :=
      tell?_retract.mpr ⟨List.mem_map_of_mem (hmem d List.mem_cons_self), rfl⟩
    have hstay : ∀ e ∈ ds, e ∈ o.published.filter (·.id != d.id) := by
      intro e he
      have hne : e.id ≠ d.id := fun heq => hd (heq ▸ List.mem_map_of_mem he)
      exact List.mem_filter.mpr ⟨hmem e (List.mem_cons_of_mem d he), by simpa using hne⟩
    rw [List.map_cons, replay_cons, hstep, Option.bind_some, ih hids hstay]
    simp [List.filter_filter, Bool.and_comm, bne]
    rfl

theorem replay_register (ps : List (Endpoint × O.Proxy)) {o : Outside O}
    (hids : ((o.proxies ++ ps).map (·.1.id)).Nodup) :
    o.replay (ps.map fun p => .register p.1 p.2) = some { o with proxies := o.proxies ++ ps } := by
  induction ps generalizing o with
  | nil => simp
  | cons p ps ih =>
    have hnew : p.1.id ∉ o.proxies.map (·.1.id) := by
      rw [List.map_append] at hids
      exact fun hmem => (List.nodup_append.mp hids).2.2 _ hmem _ List.mem_cons_self rfl
    have hstep : o.tell? (.register p.1 p.2) = some { o with proxies := o.proxies ++ [p] } :=
      tell?_register.mpr ⟨hnew, rfl⟩
    rw [List.map_cons, replay_cons, hstep, Option.bind_some, ih (by simpa using hids)]
    simp

theorem replay_unregister (ids : List String) {o : Outside O} (hids : ids.Nodup)
    (hmem : ∀ id ∈ ids, id ∈ o.proxies.map (·.1.id)) :
    o.replay (ids.map .unregister) = some
      { o with proxies := o.proxies.filter fun p => p.1.id ∉ ids } := by
  induction ids generalizing o with
  | nil => simp
  | cons id ids ih =>
    obtain ⟨hid, hids⟩ := List.nodup_cons.mp hids
    have hstep :
        o.tell? (.unregister id) = some { o with proxies := o.proxies.filter (·.1.id != id) } :=
      tell?_unregister.mpr ⟨hmem id List.mem_cons_self, rfl⟩
    have hstay : ∀ k ∈ ids, k ∈ (o.proxies.filter (·.1.id != id)).map (·.1.id) := by
      intro k hk
      obtain ⟨p, hp, rfl⟩ := List.mem_map.mp (hmem k (List.mem_cons_of_mem id hk))
      have hne : p.1.id ≠ id := fun heq => hid (heq ▸ hk)
      exact List.mem_map_of_mem (List.mem_filter.mpr ⟨hp, by simpa using hne⟩)
    rw [List.map_cons, replay_cons, hstep, Option.bind_some, ih hids hstay]
    simp [List.filter_filter, Bool.and_comm, bne]
    rfl

/-- The outside knows the exports and the imports of a registry, and all that was ever announced is
among `drawn`. -/
structure Shows (o : Outside O) (r : Registry O) (drawn : List String) : Prop where
  published : o.published = r.exports.map Export.description
  proxies : o.proxies = r.imports.map fun i => (i.description, i.proxy)
  drawn : ∀ id ∈ o.announced, id ∈ drawn
  sound : o.Sound

/-- Once the outside has been told all that a registry has for it, it knows the exports and the
imports. -/
def Learns (o : Outside O) (r : Registry O) (drawn : List String) : Prop :=
  ∃ o', o.replay r.effects = some o' ∧ o'.Shows r drawn

variable {o : Outside O} {r r' : Registry O} {drawn drawn' : List String}

theorem Learns.congr (h : o.Learns r drawn) (hexports : r'.exports = r.exports)
    (himports : r'.imports = r.imports) (heffects : r'.effects = r.effects) :
    o.Learns r' drawn := by
  obtain ⟨o', hreplay, hshows⟩ := h
  refine ⟨o', heffects ▸ hreplay, ?_, ?_, hshows.drawn, hshows.sound⟩
  · rw [hexports, hshows.published]
  · rw [himports, hshows.proxies]

theorem Learns.mono (h : o.Learns r drawn) (hsub : ∀ id ∈ drawn, id ∈ drawn') :
    o.Learns r drawn' := by
  obtain ⟨o', hreplay, hshows⟩ := h
  exact ⟨o', hreplay, hshows.published, hshows.proxies, fun id hid =>
    hsub id (hshows.drawn id hid), hshows.sound⟩

/-- The first effect is never refused. -/
theorem Learns.tell (h : o.Learns r drawn) {e : Effect O} {es : List (Effect O)}
    (he : r.effects = e :: es) :
    ∃ c, o.tell? e = some c ∧ c.Learns { r with effects := es } drawn := by
  obtain ⟨o', hreplay, hshows⟩ := h
  rw [he] at hreplay
  obtain ⟨c, hc, hrest⟩ := Option.bind_eq_some_iff.mp hreplay
  exact ⟨c, hc, o', hrest, hshows.published, hshows.proxies, hshows.drawn, hshows.sound⟩

theorem Learns.announced (h : o.Learns r drawn) {id : String} (hid : id ∈ o.announced) :
    id ∈ drawn := by
  obtain ⟨o', hreplay, hshows⟩ := h
  exact hshows.drawn id (announced_replay hreplay id hid)

theorem Learns.append (h : o.Learns r drawn) {es : List (Effect O)}
    (heffects : r'.effects = r.effects ++ es)
    (hnew : ∀ c : Outside O, c.Shows r drawn → ∃ c', c.replay es = some c' ∧
      c'.published = r'.exports.map Export.description ∧
      c'.proxies = r'.imports.map (fun i => (i.description, i.proxy)) ∧
      ∀ id ∈ c'.announced, id ∈ drawn') :
    o.Learns r' drawn' := by
  obtain ⟨c, hreplay, hshows⟩ := h
  obtain ⟨c', hreplay', hpublished, hproxies, hdrawn⟩ := hnew c hshows
  refine ⟨c', ?_, hpublished, hproxies, hdrawn, hshows.sound.replay hreplay'⟩
  rw [heffects, replay_append, hreplay, Option.bind_some, hreplay']

theorem Learns.withoutExports (h : o.Learns r drawn) (p : Export O → Bool) :
    o.Learns (r.withoutExports p) drawn := by
  refine h.append rfl fun c hc => ?_
  have hids : (r.exports.map (·.description.id)).Nodup := by
    have hsound := hc.sound.ids
    rwa [hc.published, List.map_map] at hsound
  have hstruck := replay_retract ((r.exports.filter p).map Export.description) (o := c)
    (by rw [List.map_map]; exact hids.sublist (List.filter_sublist.map _))
    (by rw [hc.published]; exact (List.filter_sublist.map _).subset)
  rw [List.map_map] at hstruck
  refine ⟨_, hstruck, ?_, hc.proxies, hc.drawn⟩
  have hleft := filter_keys_notMem hids p
  simp only [hc.published, List.filter_map, List.map_map]
  exact congrArg (List.map Export.description) hleft

theorem Learns.withoutImports (h : o.Learns r drawn) {imports : List (Import O)}
    (hnodup : (imports.map Import.endpointId).Nodup) (hmem : ∀ i ∈ imports, i ∈ r.imports) :
    o.Learns (r.withoutImports imports) drawn := by
  refine h.append rfl fun c hc => ?_
  have hkeys : c.proxies.map (·.1.id) = r.imports.map Import.endpointId := by
    rw [hc.proxies, List.map_map]
    rfl
  have hstruck := replay_unregister (imports.map Import.endpointId) (o := c) hnodup (by
    intro id hid
    obtain ⟨i, hi, rfl⟩ := List.mem_map.mp hid
    exact hkeys ▸ List.mem_map_of_mem (hmem i hi))
  rw [List.map_map] at hstruck
  refine ⟨_, hstruck, hc.published, ?_, hc.drawn⟩
  simp only [hc.proxies, List.filter_map]
  rfl

theorem Learns.withExports (h : o.Learns r drawn) {created : List (Export O)}
    (hids : (created.map (·.description.id)).Nodup) (hnew : ∀ e ∈ created, e.description.id ∉ drawn)
    (hpairs : ((r.exports ++ created).map (·.description.pair)).Nodup) :
    o.Learns (r.withExports created) (created.map (·.description.id) ++ drawn) := by
  refine h.append rfl fun c hc => ?_
  have htold := replay_publish (created.map Export.description) (o := c) (by rwa [List.map_map])
    (by
      intro d hd hmem
      obtain ⟨e, he, rfl⟩ := List.mem_map.mp hd
      exact hnew e he (hc.drawn _ hmem))
    (by rwa [hc.published, ← List.map_append, List.map_map])
  rw [List.map_map] at htold
  refine ⟨_, htold, ?_, hc.proxies, fun id hid => ?_⟩
  · simp only [hc.published, ← List.map_append]
    rfl
  · rw [List.mem_append]
    rcases List.mem_append.mp hid with hid | hid
    · exact .inl (by simpa using hid)
    · exact .inr (hc.drawn id hid)

theorem Learns.afterImports (h : o.Learns r drawn) {made : List (Import O)}
    (hids : ((r.imports ++ made).map Import.endpointId).Nodup) (requeued : List Endpoint)
    (books : Table String Bookkeeping) : o.Learns (r.afterImports made requeued books) drawn := by
  refine h.append rfl fun c hc => ?_
  have htold := replay_register (made.map fun i => (i.description, i.proxy)) (o := c) (by
    rw [hc.proxies, ← List.map_append, List.map_map]
    exact hids)
  rw [List.map_map] at htold
  refine ⟨_, htold, hc.published, ?_, hc.drawn⟩
  simp only [hc.proxies, ← List.map_append]
  rfl

end Outside

namespace Session

open Outside

variable {s s' : Session O}

theorem newIds_removals (es : List (Export O)) : Journal.newIds (removals es) = [] := by
  simp [Journal.newIds, removals, List.filterMap_map, Call.newId?, Function.comp_def]

theorem newIds_farewells (imports : List (Import O)) : Journal.newIds (farewells imports) = [] := by
  simp [Journal.newIds, farewells, List.filterMap_map, Call.newId?, Function.comp_def]

/-- What led from one session to the other can be told, unless an id was drawn twice. -/
def Tells (s s' : Session O) : Prop :=
  ∃ calls : Journal, s'.journal = calls ++ s.journal ∧
    ∀ (o : Outside O) (drawn : List String), o.Learns s.registry drawn →
    (calls.newIds ++ drawn).Nodup →
      o.Learns s'.registry (calls.newIds ++ drawn)

theorem Tells.silent {r : Registry O} (calls : Journal) (heq : s' = ⟨r, calls ++ s.journal⟩)
    (hsilent : calls.newIds = [])
    (h : ∀ (o : Outside O) (drawn : List String), o.Learns s.registry drawn → o.Learns r drawn) :
    Tells s s' := by
  refine ⟨calls, by rw [heq], fun o drawn ho _ => ?_⟩
  rw [heq, hsilent]
  exact h o drawn ho

theorem Tells.refl (s : Session O) : Tells s s := .silent [] rfl rfl fun _ _ h => h

theorem tells_addService (s : Session O) (object : O.Service) (p : Properties) :
    Tells s (s.modify (·.addService object p)) := by
  obtain ⟨services, queue, heq⟩ := s.registry.addService_eq object p
  rw [modify, heq]
  exact .silent [] rfl rfl fun _ _ h => h.congr rfl rfl rfl

theorem tells_removeService (hnumbered : s.registry.Numbered) (p : Properties) :
    Tells s (s.removeService p) := by
  cases hp : p.int64? Key.serviceId with
  | none =>
    rw [removeService, hp]
    exact .refl s
  | some serviceId =>
    exact .silent _ (removeService_eq hnumbered hp) (newIds_removals _) fun _ _ h =>
      (h.withoutExports _).congr rfl rfl rfl

theorem tells_addExportFactory (hnumbered : s.registry.Numbered)
    (factory : Factory) (p : Properties) : Tells s (s.addExportFactory factory p) := by
  rw [addExportFactory]
  dsimp only
  split
  · exact .silent [] rfl rfl fun _ _ h => h.congr rfl rfl rfl
  · rename_i bound _
    split
    · exact .refl s
    · obtain ⟨q, heq, -⟩ := detachExportFactory_eq hnumbered (factory.boundName p) bound
      rw [heq]
      exact .silent _ rfl (newIds_removals _) fun _ _ h => (h.withoutExports _).congr rfl rfl rfl

theorem tells_removeExportFactory (hnumbered : s.registry.Numbered)
    (factory : Factory) (p : Properties) : Tells s (s.removeExportFactory factory p) := by
  rw [removeExportFactory]
  split
  · obtain ⟨q, heq, -⟩ := detachExportFactory_eq hnumbered (factory.boundName p) factory
    exact .silent _ heq (newIds_removals _) fun _ _ h => (h.withoutExports _).congr rfl rfl rfl
  · exact .refl s

theorem learns_withoutPerm {o : Outside O} {drawn : List String} (h : o.Learns s.registry drawn)
    (hdistinct : s.registry.Distinct)
    {p : Import O → Bool} {imports : List (Import O)}
    (hperm : imports.Perm (s.registry.imports.filter p)) :
    o.Learns (s.registry.withoutImports imports) drawn := by
  have hsub : ((s.registry.imports.filter p).map Import.endpointId).Nodup :=
    hdistinct.imports.sublist (List.filter_sublist.map _)
  refine h.withoutImports ((hperm.map _).nodup_iff.mpr hsub) fun i hi => ?_
  exact List.mem_of_mem_filter (hperm.mem_iff.mp hi)

theorem tells_addImportFactory (hdistinct : s.registry.Distinct)
    (env : Environment O) (factory : Factory) (p : Properties) :
    Tells s (s.addImportFactory env factory p) := by
  rw [addImportFactory]
  dsimp only
  split
  · exact .silent [] rfl rfl fun _ _ h => h.congr rfl rfl rfl
  · split
    · exact .refl s
    · obtain ⟨imports, hperm, heq⟩ :=
        detachImportFactory_eq hdistinct.imports env (factory.boundName p)
      rw [heq]
      exact .silent _ rfl (newIds_farewells _) fun _ _ h =>
        (learns_withoutPerm h hdistinct hperm).congr rfl rfl rfl

theorem tells_removeImportFactory (hdistinct : s.registry.Distinct)
    (env : Environment O) (factory : Factory) (p : Properties) :
    Tells s (s.removeImportFactory env factory p) := by
  rw [removeImportFactory]
  split
  · obtain ⟨imports, hperm, heq⟩ :=
      detachImportFactory_eq hdistinct.imports env (factory.boundName p)
    exact .silent _ heq (newIds_farewells _) fun _ _ h =>
      (learns_withoutPerm h hdistinct hperm).congr rfl rfl rfl
  · exact .refl s

theorem tells_addEndpoint (s : Session O) (d : Endpoint) :
    Tells s (s.modify (·.addEndpoint d)) := by
  obtain ⟨books, queue, heq⟩ := s.registry.addEndpoint_eq d
  rw [modify, heq]
  exact .silent [] rfl rfl fun _ _ h => h.congr rfl rfl rfl

theorem tells_removeEndpoint (hdistinct : s.registry.Distinct) (d : Endpoint) :
    Tells s (s.removeEndpoint d) := by
  obtain ⟨books, heq⟩ := removeEndpoint_eq hdistinct d
  exact .silent _ heq (newIds_farewells _) fun _ _ h =>
    (learns_withoutPerm h hdistinct (.refl _)).congr rfl rfl rfl

theorem tells_clear (hnumbered : s.registry.Numbered) (hdistinct : s.registry.Distinct)
    (env : Environment O) :
    Tells s (s.clear env) := by
  obtain ⟨imports, hperm, heq⟩ := clear_eq hnumbered hdistinct.imports env
  have hsilent : Journal.newIds (farewells imports ++ removals s.registry.exports) = [] := by
    rw [Journal.newIds_append, newIds_farewells, newIds_removals]
    rfl
  rw [← List.append_assoc] at heq
  refine .silent _ heq hsilent fun o drawn h => ?_
  have hexports := h.withoutExports fun _ => true
  have himports :
      o.Learns ((s.registry.withoutExports fun _ => true).withoutImports imports) drawn :=
    hexports.withoutImports ((hperm.map _).nodup_iff.mpr hdistinct.imports) fun i hi =>
      hperm.mem_iff.mp hi
  refine himports.congr ?_ ?_ ?_
  · simp [Registry.withoutExports, Registry.withoutImports]
  · refine (List.filter_eq_nil_iff.mpr fun i hi => ?_).symm
    simpa using ⟨i, hperm.mem_iff.mpr hi, rfl⟩
  · simp [Registry.withoutExports, Registry.withoutImports]

theorem tells_reconcile (hmatched : s.registry.Matched)
    (hdistinct : s.registry.Distinct) (env : Environment O) : Tells s (s.reconcile env) := by
  obtain ⟨created, requeued, dropped, calls, made, waiting, books, calls',
      heq, hexports, himports⟩ :=
    reconcile_eq hmatched hdistinct env
  have hdistinct' := distinct_apply hmatched hdistinct env .reconcile
  rw [apply, heq] at hdistinct'
  have hcalls : Journal.newIds (calls' ++ calls) = Journal.newIds calls := by
    rw [Journal.newIds_append, himports.silent]
    rfl
  refine ⟨calls' ++ calls, by rw [heq, List.append_assoc], fun o drawn h hfresh => ?_⟩
  rw [hcalls] at hfresh ⊢
  obtain ⟨hnodup, -, hdisjoint⟩ := List.nodup_append.mp hfresh
  -- The ids of the new exports are among those that were drawn in the pass.
  have hids : (created.map (·.description.id)).reverse.Sublist (Journal.newIds calls) := by
    have hmade := Journal.made_sublist calls
    rw [hexports.creates.made, List.map_reverse, List.map_map] at hmade
    exact hmade
  have hmem : ∀ e ∈ created, e.description.id ∈ Journal.newIds calls := fun e he =>
    hids.subset
      (List.mem_reverse.mpr (List.mem_map_of_mem (f := fun e : Export O => e.description.id) he))
  have hmatched' := hexports.matched hmatched
  have hpairs : ((s.registry.exports ++ created).map (·.description.pair)).Nodup := by
    have hsame := hmatched'.map_pair
    exact hsame ▸ hmatched'.pairs
  have hidle : o.Learns { s.registry with toBeExported := [] } drawn := h.congr rfl rfl rfl
  have htold := hidle.withExports (List.nodup_reverse.mp (hnodup.sublist hids))
    (fun e he hin => hdisjoint _ (hmem e he) _ hin rfl) hpairs
  have hexported : o.Learns
      { ({ s.registry with toBeExported := [] } : Registry O).afterExports
          created requeued dropped with toBeImported := [] }
      (Journal.newIds calls ++ drawn) := by
    refine (htold.mono fun id hid => ?_).congr rfl rfl rfl
    rcases List.mem_append.mp hid with hid | hid
    · obtain ⟨e, he, rfl⟩ := List.mem_map.mp hid
      exact List.mem_append_left _ (hmem e he)
    · exact List.mem_append_right _ hid
  rw [heq]
  exact hexported.afterImports hdistinct'.imports waiting books

/-- Whatever a registry is told, the outside can be told what comes of it. -/
theorem tells_apply (hmatched : s.registry.Matched)
    (hdistinct : s.registry.Distinct) (env : Environment O) (op : Operation O) :
    Tells s (s.apply env op) := by
  cases op with
  | addService object p => exact tells_addService s object p
  | removeService p => exact tells_removeService hmatched.toNumbered p
  | addExportFactory f p => exact tells_addExportFactory hmatched.toNumbered f p
  | removeExportFactory f p => exact tells_removeExportFactory hmatched.toNumbered f p
  | addImportFactory f p => exact tells_addImportFactory hdistinct env f p
  | removeImportFactory f p => exact tells_removeImportFactory hdistinct env f p
  | addEndpoint d => exact tells_addEndpoint s d
  | removeEndpoint d => exact tells_removeEndpoint hdistinct d
  | reconcile => exact tells_reconcile hmatched hdistinct env
  | clear => exact tells_clear hmatched.toNumbered hdistinct env

theorem History.learns {told : List (Effect O)} (h : s.History told)
    (hfresh : s.journal.newIds.Nodup) :
    ∃ o : Outside O, Outside.start.replay told = some o ∧ o.Learns s.registry s.journal.newIds := by
  induction h with
  | start frameworkUuid importLocalEndpoints =>
    exact ⟨Outside.start, rfl, Outside.start, rfl, rfl, rfl, by simp [Outside.start], sound_start⟩
  | apply env op hs ih =>
    have hreachable := hs.reachable
    obtain ⟨calls, hjournal, hlearns⟩ := tells_apply hreachable.matched hreachable.distinct env op
    rw [hjournal, Journal.newIds_append] at hfresh ⊢
    obtain ⟨o, htold, ho⟩ := ih (List.nodup_append.mp hfresh).2.1
    exact ⟨o, htold, hlearns o _ ho hfresh⟩
  | takeEffect hs he ih =>
    obtain ⟨o, htold, hlearns⟩ := ih hfresh
    obtain ⟨heffects, hr⟩ := Registry.takeEffect_eq_some.mp he
    obtain ⟨c, hc, hrest⟩ := hlearns.tell heffects
    refine ⟨c, ?_, hr ▸ hrest⟩
    rw [replay_append, htold, Option.bind_some, replay_cons, hc]
    rfl

end Session

/-- As long as no id is drawn twice, the effects of a registry make sense to the outside, those that
were handed out before those that still wait: none is refused, at no time are two endpoints of one
service and one interface published, and in the end just the exports are published and just the
imports have proxies. -/
theorem Session.History.replays {s : Session O} {told : List (Effect O)} (h : s.History told)
    (hfresh : s.journal.newIds.Nodup) :
    (∃ o : Outside O, Outside.start.replay (told ++ s.registry.effects) = some o ∧
      o.published = s.registry.exports.map Export.description ∧
      o.proxies = s.registry.imports.map fun i => (i.description, i.proxy)) ∧
    ∀ before, before <+: told ++ s.registry.effects →
      ∃ o : Outside O, Outside.start.replay before = some o ∧
        o.published.Pairwise fun a b =>
          ¬ (a.serviceId = b.serviceId ∧ a.interface = b.interface) := by
  obtain ⟨c, htold, o, hrest, hshows⟩ := h.learns hfresh
  have hreplay : Outside.start.replay (told ++ s.registry.effects) = some o := by
    rw [Outside.replay_append, htold, Option.bind_some, hrest]
  refine ⟨⟨o, hreplay, hshows.published, hshows.proxies⟩, ?_⟩
  rintro before ⟨after, hsplit⟩
  rw [← hsplit, Outside.replay_append] at hreplay
  obtain ⟨b, hbefore, -⟩ := Option.bind_eq_some_iff.mp hreplay
  refine ⟨b, hbefore, ?_⟩
  have hpairs := (Outside.sound_start.replay hbefore).pairs
  exact (List.pairwise_map.mp hpairs).imp fun hne hab => hne (Prod.ext hab.1 hab.2)

/-- A service is exported and an endpoint imported; one effect later the export factory is replaced,
and the endpoint goes. -/
theorem Session.History.replays_replaced :
    ∃ (s : Session .plain) (told : List (Effect .plain)), s.History told ∧ s.journal.newIds.Nodup ∧
      told.length = 1 ∧ s.registry.effects.length = 4 ∧
      ∃ o : Outside .plain, Outside.start.replay (told ++ s.registry.effects) = some o ∧
        o.published.map Endpoint.id = ["ii"] ∧ o.proxies.map (·.1.id) = [] := by
  have h := (((Session.History.start "here" false).run .granting
    [.addExportFactory ⟨"f", "A"⟩ ∅, .addImportFactory ⟨"g", "A"⟩ ∅,
      .addService ()
        (.ofList [(Key.serviceId, "7"), (Key.objectClass, "A"), (Key.exportedInterfaces, "*")]),
      .addEndpoint (.make "x" 7 "there" "A" ∅), .reconcile]).takeEffect rfl).run .granting
    [.addExportFactory ⟨"h", "A"⟩ ∅, .reconcile, .removeEndpoint (.make "x" 7 "there" "A" ∅)]
  obtain ⟨⟨o, hreplay, hpublished, hproxies⟩, -⟩ := h.replays (by decide +kernel)
  refine ⟨_, _, h, by decide +kernel, rfl, by decide +kernel, o, hreplay, ?_, ?_⟩
  · rw [hpublished]
    decide +kernel
  · rw [hproxies]
    decide +kernel

end RemoteServices
