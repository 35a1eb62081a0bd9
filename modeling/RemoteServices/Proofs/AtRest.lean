import RemoteServices.Proofs.Coherence

/-!
# Federations at rest

Between two calls from outside nothing is under way.  Then the directory holds just the live exports
of all processes, and every attached process knows just what it wants of these:
`Federation.AtRest.directory_agrees`.
-/
namespace RemoteServices

variable {O : Objects}

/-- The operation is one that processes are told from outside: of services and of factories. -/
def Operation.Local : Operation O → Prop
  | .addEndpoint _ => False
  | .removeEndpoint _ => False
  | .reconcile => False
  | .clear => False
  | _ => True

namespace Federation

/-- The federations between two calls from outside, whatever factories, transports and bridges do.
Processes that publish to the directory join at any time, are told of services and factories, and
attach to the directory, also more than once. -/
inductive AtRest (envs : Nat → List (Event O) → Environment O) : Federation O → Prop
  | empty : AtRest envs ∅
  | join {w : Federation O} (h : AtRest envs w) (frameworkUuid : String)
    (importLocalEndpoints : Bool) (bridge : Option (Bridge O)) :
    AtRest envs
      (w.join (.ofRegistry (.empty frameworkUuid importLocalEndpoints) .present true bridge))
  | tell {w w' : Federation O} (h : AtRest envs w) {op : Operation O} (hop : op.Local)
    {n fuel : Nat} (hrun : run envs fuel ([.tell n op], w) = some w') :
    AtRest envs w'
  | attach {w w' : Federation O} (h : AtRest envs w) {n fuel : Nat}
    (hrun : run envs fuel (w.attach n) = some w') :
    AtRest envs w'

variable {envs : Nat → List (Event O) → Environment O} {w w' : Federation O}
  {view : Nat → Outside O}

/-- Many such calls, one after the other. -/
def tellAll (envs : Nat → List (Event O) → Environment O) (fuel : Nat)
    (calls : List (Nat × Operation O)) (w : Federation O) : Option (Federation O) :=
  calls.foldlM (fun w c => run envs fuel ([.tell c.1 c.2], w)) w

theorem AtRest.tellAll (h : AtRest envs w) {calls : List (Nat × Operation O)}
    (hlocal : ∀ c ∈ calls, c.2.Local) {fuel : Nat} (hrun : w.tellAll envs fuel calls = some w') :
    AtRest envs w' := by
  induction calls generalizing w with
  | nil =>
    cases hrun
    exact h
  | cons c calls ih =>
    obtain ⟨next, hfirst, hothers⟩ := Option.bind_eq_some_iff.mp hrun
    have hnext : AtRest envs next := h.tell (hlocal c List.mem_cons_self) hfirst
    exact ih hnext (fun d hd => hlocal d (List.mem_cons_of_mem _ hd)) hothers

theorem coherent_empty : Coherent [] (∅ : Federation O) fun _ => .start where
  recorded :=
    ⟨by simp [EmptyCollection.emptyCollection, empty], fun _ => Outside.sound_start, fun _ _ => rfl,
      by simp [EmptyCollection.emptyCollection, empty, Outside.start], List.nodup_nil,
    by simp [EmptyCollection.emptyCollection, empty]⟩
  scheduled := ⟨List.nodup_nil, by simp [EmptyCollection.emptyCollection, empty],
    by simp [EmptyCollection.emptyCollection, empty]⟩
  informed := ⟨by simp, by simp, by simp, by simp [EmptyCollection.emptyCollection, empty],
    by simp [EmptyCollection.emptyCollection, empty]⟩
  ordered := .inr trivial

theorem Coherent.join (h : Coherent [] w view) (frameworkUuid : String)
    (importLocalEndpoints : Bool) (bridge : Option (Bridge O)) :
    Coherent []
      (w.join (.ofRegistry (.empty frameworkUuid importLocalEndpoints) .present true bridge))
      view := by
  let new : Node O := .ofRegistry (.empty frameworkUuid importLocalEndpoints) .present true bridge
  have hnone : w.nodes[w.nodes.length]? = none := List.getElem?_eq_none_iff.mpr (Nat.le_refl _)
  have hrecorded : new.Recorded .start (w.drawn w.nodes.length) :=
    ⟨rfl, rfl, Registry.matched_of_idle rfl rfl rfl, List.nodup_nil, .start, rfl, rfl, rfl,
      by simp [Outside.start], Outside.sound_start⟩
  refine ⟨⟨forall_join (fun m b hb => h.recorded.node m b hb) ?_, h.recorded.sound,
    fun m hm => h.recorded.absent m (getElem?_of_join hm), h.recorded.published,
    h.recorded.ids, fun p hp => ?_⟩, ⟨List.nodup_nil, forall_join h.scheduled.running ?_,
    forall_join h.scheduled.drained fun _ => rfl⟩,
    ⟨by simp, by simp, by simp, forall_join h.informed.hears ?_, forall_join h.informed.knows ?_⟩,
    .inr trivial⟩
  · rw [h.recorded.absent _ hnone]
    exact hrecorded
  · rw [Federation.join, List.length_append]
    exact Nat.lt_add_right _ (h.recorded.peers p hp)
  · constructor
    · intro hd
      cases hd
    · intro hmem
      cases hmem
  · exact fun hp => absurd (h.recorded.peers _ hp) (Nat.lt_irrefl _)
  · exact fun d hd => by cases hd

theorem Coherent.beginTell (h : Coherent [] w view) {op : Operation O} (hop : op.Local) (n : Nat) :
    Coherent [.tell n op] w view := by
  have hother : ∀ {p : Nat} {o : Operation O}, .tell p o ∈ [Task.tell n op] → o.Local := by
    intro p o ht
    cases List.mem_singleton.mp ht
    exact hop
  refine ⟨h.recorded, ⟨h.scheduled.once, h.scheduled.running, h.scheduled.drained⟩,
    ?_, .inr ⟨?_, trivial⟩⟩
  · refine ⟨fun p d ht => (hother ht).elim, fun p d ht => (hother ht).elim, fun p ht =>
      (hother ht).elim, ?_, ?_⟩
    · intro p b hb hp d hd hw
      exact (h.informed.hears p b hb hp d hd hw).imp_right fun ht => by cases ht
    · intro p b hb d hd
      obtain ⟨hp, hw, hor⟩ := h.informed.knows p b hb d hd
      exact ⟨hp, hw, hor.imp_right fun ⟨e, ht, _⟩ => by cases ht⟩
  · intro p d m heq
    cases heq
    exact hop.elim

theorem Coherent.beginAttach (h : Coherent [] w view) (n : Nat) :
    Coherent (w.attach n).1 (w.attach n).2 view := by
  have hlive : w.livePeers = w.peers := livePeers_eq h.recorded.peers fun m b hb =>
    (h.recorded.node m b hb).present
  rw [attach]
  split
  case isFalse => exact h
  rename_i hpresent
  have hn : n < w.nodes.length := by
    cases hget : w.nodes[n]? with
    | none => simp [hget] at hpresent
    | some b => exact (List.getElem?_eq_some_iff.mp hget).1
  have htells {p : Nat} {op : Operation O} :
      .tell p op ∈ w.published.map (fun d => Task.tell n (.addEndpoint d)) →
        p = n ∧ ∃ d ∈ w.published, op = .addEndpoint d := by
    intro ht
    obtain ⟨d, hd, heq⟩ := List.mem_map.mp ht
    cases heq
    exact ⟨rfl, d, hd, rfl⟩
  have hdispatchers :
      dispatchers (w.published.map fun d => Task.tell (O := O) n (.addEndpoint d)) = [] := by
    refine dispatchers_tells fun t ht => ?_
    obtain ⟨d, -, rfl⟩ := List.mem_map.mp ht
    exact ⟨_, _, rfl⟩
  dsimp only
  rw [hlive]
  refine ⟨⟨h.recorded.node, h.recorded.sound, h.recorded.absent, h.recorded.published,
    h.recorded.ids, fun p hp => ?_⟩, ⟨?_, ?_, h.scheduled.drained⟩,
    ⟨fun p d ht => ?_, fun p d ht => ?_, fun p ht => ?_, ?_, fun p b hb d hd => ?_⟩,
    .inl ⟨fun m b hb e he => ?_, fun p op ht => ?_⟩⟩
  · rcases List.mem_append.mp hp with hp | hp
    · exact h.recorded.peers p hp
    · exact List.mem_singleton.mp hp ▸ hn
  · rw [hdispatchers]
    exact List.nodup_nil
  · rw [hdispatchers]
    exact h.scheduled.running
  · obtain ⟨rfl, e, he, heq⟩ := htells ht
    cases heq
    exact ⟨List.mem_append_right _ (List.mem_singleton_self _), he⟩
  · obtain ⟨-, e, -, heq⟩ := htells ht
    cases heq
  · obtain ⟨-, e, -, heq⟩ := htells ht
    cases heq
  · intro p b hb hp d hd hw
    rcases List.mem_append.mp hp with hp | hp
    · exact .inl ((h.informed.hears p b hb hp d hd hw).resolve_right List.not_mem_nil)
    · cases List.mem_singleton.mp hp
      exact .inr (List.mem_map_of_mem hd)
  · obtain ⟨hp, hw, hor⟩ := h.informed.knows p b hb d hd
    exact ⟨List.mem_append_left _ hp, hw, hor.imp_right fun ⟨e, ht, _⟩ => by cases ht⟩
  · have hidle : ¬ b.dispatching := fun hd => by cases (h.scheduled.running m b hb).mp hd
    rw [h.scheduled.drained m b hb hidle] at he
    cases he
  · obtain ⟨-, e, -, rfl⟩ := htells ht
    trivial

theorem AtRest.coherent (h : AtRest envs w) (hfresh : w.newIds.Nodup) :
    ∃ view, Coherent [] w view := by
  induction h with
  | empty => exact ⟨_, coherent_empty⟩
  | join _ frameworkUuid importLocalEndpoints bridge ih =>
    obtain ⟨view, hcoherent⟩ := ih hfresh
    exact ⟨view, hcoherent.join frameworkUuid importLocalEndpoints bridge⟩
  | tell _ hop hrun ih =>
    obtain ⟨view, hcoherent⟩ := ih (newIds_nodup (log_run envs hrun) hfresh)
    exact (hcoherent.beginTell hop _).run envs hrun hfresh
  | @attach w w' _ n fuel hrun ih =>
    have hlog : (w.attach n).2.log = w.log := by
      rw [Federation.attach]
      split <;> rfl
    obtain ⟨es, hes⟩ := log_run envs hrun
    obtain ⟨view, hcoherent⟩ := ih (newIds_nodup ⟨es, by rw [hes, hlog]⟩ hfresh)
    exact (hcoherent.beginAttach n).run envs hrun hfresh

/-- What the nodes made known are their live exports when nothing waits. -/
theorem Coherent.published_eq (h : Coherent [] w view) {n : Nat} {a : Node O}
    (hn : w.nodes[n]? = some a) :
    (view n).published = a.registry.exports.map Export.description := by
  have hidle : ¬ a.dispatching := fun hd => by cases (h.scheduled.running n a hn).mp hd
  obtain ⟨o, hreplay, hshows⟩ := (h.recorded.node n a hn).learns
  rw [h.scheduled.drained n a hn hidle] at hreplay
  cases hreplay
  exact hshows.published

theorem Coherent.published_perm (h : Coherent [] w view) (hfresh : w.newIds.Nodup) :
    w.published.Perm (w.nodes.flatMap fun a => a.registry.exports.map Export.description) := by
  have hnodup : (w.nodes.flatMap fun a => a.registry.exports.map Export.description).Nodup := by
    refine List.nodup_flatMap.mpr
      ⟨fun a ha => ?_, List.pairwise_iff_getElem.mpr fun i j hi hj hij => ?_⟩
    · obtain ⟨n, hn⟩ := List.mem_iff_getElem?.mp ha
      rw [← h.published_eq hn]
      exact .of_map _ (h.recorded.sound n).ids
    · have hi' := h.published_eq (List.getElem?_eq_getElem hi)
      have hj' := h.published_eq (List.getElem?_eq_getElem hj)
      intro d hdi hdj
      dsimp only at hdi hdj
      rw [← hi'] at hdi
      rw [← hj'] at hdj
      exact Nat.ne_of_lt hij (h.recorded.owner hfresh
        ((h.recorded.sound i).announced d hdi) ((h.recorded.sound j).announced d hdj))
  refine (List.perm_ext_iff_of_nodup (.of_map _ h.recorded.ids) hnodup).mpr fun d => ?_
  rw [h.recorded.published, List.mem_flatMap]
  constructor
  · rintro ⟨n, hd⟩
    cases hn : w.nodes[n]? with
    | none =>
      rw [h.recorded.absent n hn] at hd
      cases hd
    | some a => exact ⟨a, List.mem_of_getElem? hn, h.published_eq hn ▸ hd⟩
  · rintro ⟨a, ha, hd⟩
    obtain ⟨n, hn⟩ := List.mem_iff_getElem?.mp ha
    exact ⟨n, h.published_eq hn ▸ hd⟩

/-- With no news on the way, a peer knows what it wants of the directory. -/
theorem Coherent.knownEndpoints_perm (h : Coherent [] w view) {n : Nat} {a : Node O}
    (hn : w.nodes[n]? = some a) (hp : n ∈ w.peers) :
    a.registry.knownEndpoints.Perm (w.published.filter a.registry.wants) := by
  have hknown : a.registry.knownEndpoints.Nodup := .of_map _ (h.recorded.node n a hn).distinct
  have hpublished : w.published.Nodup := .of_map _ h.recorded.ids
  refine (List.perm_ext_iff_of_nodup hknown (hpublished.filter _)).mpr fun d => ?_
  rw [List.mem_filter]
  constructor
  · intro hd
    obtain ⟨-, hw, hor⟩ := h.informed.knows n a hn d hd
    exact ⟨hor.resolve_right fun ⟨e, ht, _⟩ => (by cases ht), hw⟩
  · rintro ⟨hd, hw⟩
    exact (h.informed.hears n a hn hp d hd hw).resolve_right List.not_mem_nil

/-- As long as no endpoint id is given twice, the directory holds just the live exports of all
processes whenever a call from outside has returned, and every attached process knows, each once,
just those that are not its own, or all of them if its own count too. -/
theorem AtRest.directory_agrees (h : AtRest envs w) (hfresh : w.newIds.Nodup) :
    (w.published.map Endpoint.id).Nodup ∧
    w.published.Perm (w.nodes.flatMap fun a => a.registry.exports.map Export.description) ∧
    ∀ p ∈ w.peers, ∃ a, w.nodes[p]? = some a ∧
      a.registry.knownEndpoints.Perm (w.published.filter a.registry.wants) := by
  obtain ⟨view, hcoherent⟩ := h.coherent hfresh
  refine ⟨hcoherent.recorded.ids, hcoherent.published_perm hfresh, fun p hp => ?_⟩
  have hn := List.getElem?_eq_getElem (hcoherent.recorded.peers p hp)
  exact ⟨_, hn, hcoherent.knownEndpoints_perm hn hp⟩

/-- A process exports a service and another one, which attaches late and twice, bridges it to a
service of its own, which the first imports; then a second service comes, and the first one goes. -/
theorem AtRest.directory_agrees_bridged :
    ∃ w : Federation .plain, AtRest (fun _ => grantingAfter) w ∧
      w.newIds.Nodup ∧ w.peers = [1, 0, 1] ∧
      (w.published.map fun d => (d.id, d.frameworkUuid, d.interface)) =
        [("iii", "here", "A"), ("iiii", "there", "B")] ∧
      ∃ a, w.nodes[1]? = some a ∧
        a.registry.knownEndpoints.Perm (w.published.filter a.registry.wants) := by
  let service (number : String) : Properties :=
    .ofList [(Key.serviceId, number), (Key.objectClass, "A"), (Key.exportedInterfaces, "*")]
  let bridge : Bridge .plain := { interface := "B", service := (), nextId := 1, announced := ∅ }
  let before : List (Nat × Operation .plain) := [(0, .addExportFactory ⟨"f", "A"⟩ ∅),
    (1, .addImportFactory ⟨"g", "A"⟩ ∅), (1, .addExportFactory ⟨"h", "B"⟩ ∅),
    (0, .addImportFactory ⟨"k", "B"⟩ ∅), (0, .addService () (service "7"))]
  let after : List (Nat × Operation .plain) :=
    [(0, .addService () (service "8")), (0, .removeService (service "7"))]
  let start :=
    ((∅ : Federation .plain).join (.ofRegistry (.empty "here" false) .present true none)).join
    (.ofRegistry (.empty "there" false) .present true (some bridge))
  let attached (n : Nat) (w : Federation .plain) := run (fun _ => grantingAfter) 99 (w.attach n)
  let last? := start.tellAll (fun _ => grantingAfter) 99 before |>.bind
    (attached 1) |>.bind (attached 0)
    |>.bind (attached 1) |>.bind fun w => w.tellAll (fun _ => grantingAfter) 99 after
  obtain ⟨w, hw⟩ : ∃ w, last? = some w := Option.isSome_iff_exists.mp (by decide +kernel)
  have hrest : AtRest (fun _ => grantingAfter) w := by
    obtain ⟨w₄, h₄, hlast⟩ := Option.bind_eq_some_iff.mp hw
    obtain ⟨w₃, h₃, h₄⟩ := Option.bind_eq_some_iff.mp h₄
    obtain ⟨w₂, h₂, h₃⟩ := Option.bind_eq_some_iff.mp h₃
    obtain ⟨w₁, h₁, h₂⟩ := Option.bind_eq_some_iff.mp h₂
    have hstart : AtRest (fun _ => grantingAfter) start :=
      (AtRest.empty.join "here" false none).join "there" false (some bridge)
    have hbefore := hstart.tellAll (by simp [before, Operation.Local]) h₁
    exact (((hbefore.attach h₂).attach h₃).attach h₄).tellAll
      (by simp [after, Operation.Local]) hlast
  have hids : last?.map newIds = some ["iiii", "iii", "ii", "i"] := by decide +kernel
  have hpeers : last?.map peers = some [1, 0, 1] := by decide +kernel
  have hpublished :
    (last?.map fun w => w.published.map fun d => (d.id, d.frameworkUuid, d.interface)) =
      some [("iii", "here", "A"), ("iiii", "there", "B")] := by decide +kernel
  rw [hw] at hids hpeers hpublished
  have hfresh : w.newIds.Nodup := by
    rw [Option.some.inj hids]
    decide
  have hpeers : w.peers = [1, 0, 1] := Option.some.inj hpeers
  obtain ⟨-, -, hknown⟩ := hrest.directory_agrees hfresh
  exact ⟨w, hrest, hfresh, hpeers, Option.some.inj hpublished, hknown 1 (by simp [hpeers])⟩

end Federation

end RemoteServices
