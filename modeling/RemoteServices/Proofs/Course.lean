import RemoteServices.Proofs.Directory
import RemoteServices.Proofs.Shown

/-!
# Courses of nested calls

Administrators are called from outside and, while one of their effects is told, again from whoever
hears of it, in any nesting.  A `Federation.Course` is what comes about, together with what each
registry queued on the way.  Each step keeps a balance between what a node told, what still waits
and what its space shows, so every effect is told once and in its turn, and when a call from outside
returns nothing is left: `Federation.Course.tells_all`.
-/
namespace RemoteServices

variable {O : Objects}

/-- What an effect does, and to which endpoint. -/
def Effect.headline : Effect O → String × String
  | .publish d => ("publish", d.id)
  | .retract d => ("retract", d.id)
  | .register d _ => ("register", d.id)
  | .unregister endpointId => ("unregister", endpointId)

/-- The directory after an effect of a node that shares it. -/
def Effect.record : Effect O → List Endpoint → List Endpoint
  | .publish d, ds => insertEndpoint d ds
  | .retract d, ds => ds.filter (·.id != d.id)
  | _, ds => ds

/-- What an effect of a node that shares the directory tells those who are attached to it. -/
def Effect.news? : Effect O → Option (Operation O)
  | .publish d => some (.addEndpoint d)
  | .retract d => some (.removeEndpoint d)
  | _ => none

def Event.toldBy? (n : Nat) : Event O → Option (Effect O)
  | .call _ _ => none
  | .effect m e => if m = n then some e else none

namespace Federation

/-- The effects that a node told the outside so far, the earliest first. -/
def told (w : Federation O) (n : Nat) : List (Effect O) :=
  (w.log.filterMap (Event.toldBy? n)).reverse

/-- Whether a node shares the directory. -/
def sharing (w : Federation O) (n : Nat) : Bool := (w.nodes[n]?).any Node.shares

/-- The effect that an event told, if its node shares the directory. -/
def sharedIn? (w : Federation O) : Event O → Option (Effect O)
  | .call _ _ => none
  | .effect n e => if w.sharing n then some e else none

/-- The effects that the nodes that share the directory told so far, the earliest first. -/
def shared (w : Federation O) : List (Effect O) := (w.log.filterMap w.sharedIn?).reverse

/-- The directory that these effects make, one after the other. -/
def replayed (w : Federation O) : List Endpoint := w.shared.foldl (fun ds e => e.record ds) []

/-- The effects that the registry of a node queues when the topmost task is taken. -/
def queuedBy (envs : Nat → List (Event O) → Environment O) (n : Nat) :
    List (Task O) → Federation O → List (Effect O)
  | .tell m op :: _, w =>
    match w.nodes[m]? with
    | none => []
    | some a =>
      if m = n then
        (Session.perform (envs m w.log) op (.ofRegistry a.registry)).registry.effects.drop
          a.registry.effects.length
      else []
  | _, _ => []

/-- What comes about when administrators are called at any time, also by those who are just being
told of an effect.  With it goes what the registry of each node queued so far, the earliest
first. -/
inductive Course (envs : Nat → List (Event O) → Environment O) :
    List (Task O) → Federation O → (Nat → List (Effect O)) → Prop
  | start : Course envs [] ∅ fun _ => []
  | join {tasks : List (Task O)} {w : Federation O} {queued : Nat → List (Effect O)}
    (h : Course envs tasks w queued) (frameworkUuid : String) (importLocalEndpoints shares : Bool)
    (bridge : Option (Bridge O)) :
    Course envs tasks
      (w.join (.ofRegistry (.empty frameworkUuid importLocalEndpoints) .present shares bridge))
      queued
  | call {tasks : List (Task O)} {w : Federation O} {queued : Nat → List (Effect O)}
    (h : Course envs tasks w queued) (n : Nat) (op : Operation O) :
    Course envs (.tell n op :: tasks) w queued
  | attach {tasks : List (Task O)} {w : Federation O} {queued : Nat → List (Effect O)}
    (h : Course envs tasks w queued) (n : Nat) :
    Course envs ((w.attach n).1 ++ tasks) (w.attach n).2 queued
  | step {tasks : List (Task O)} {w : Federation O} {queued : Nat → List (Effect O)}
    (h : Course envs tasks w queued) :
    Course envs (step envs (tasks, w)).1 (step envs (tasks, w)).2 fun n =>
      queued n ++ queuedBy envs n tasks w

variable {w w' : Federation O} {tasks tasks' front : List (Task O)}
  {queued queued' : Nat → List (Effect O)} {n : Nat} {a a' : Node O}

theorem filterMap_calls (n : Nat) {β : Type} {f : Event O → Option β}
    (hf : ∀ m c, f (.call m c) = none) (j : Journal) : (j.map (.call n)).filterMap f = [] := by
  refine List.filterMap_eq_nil_iff.mpr fun event hevent => ?_
  obtain ⟨c, -, rfl⟩ := List.mem_map.mp hevent
  exact hf n c

theorem told_calls {j : Journal} (hlog : w'.log = j.map (.call n) ++ w.log) (m : Nat) :
    w'.told m = w.told m := by
  rw [told, hlog, List.filterMap_append, filterMap_calls n fun _ _ => rfl, List.nil_append, told]

theorem told_effect {e : Effect O} (hlog : w'.log = .effect n e :: w.log) (m : Nat) :
    w'.told m = w.told m ++ if n = m then [e] else [] := by
  rw [told, hlog, List.filterMap_cons, told]
  by_cases hm : n = m <;> simp [Event.toldBy?, hm]

theorem published_deliver (w : Federation O) (n : Nat) (e : Effect O) :
    (w.deliver n e).2.published =
      if w.sharing n then e.record w.published else w.published := by
  cases e with
  | publish d =>
    rw [deliver, publish, sharing]
    split <;> rfl
  | retract d =>
    rw [deliver, retract, sharing]
    split <;> rfl
  | register d proxy =>
    refine Eq.trans ?_ (ite_self _).symm
    rw [deliver]
    dsimp only
    split <;> rfl
  | unregister endpointId =>
    refine Eq.trans ?_ (ite_self _).symm
    rw [deliver]
    dsimp only
    split <;> rfl

theorem any_setNode (hn : w.nodes[n]? = some a) {p : Node O → Bool} (hp : p a' = p a) (m : Nat) :
    ((w.setNode n a').nodes[m]?).any p = (w.nodes[m]?).any p := by
  rw [getElem?_setNode hn]
  split
  · rename_i hm
    rw [← hm, hn]
    exact hp
  · rfl

theorem sharing_setNode (hn : w.nodes[n]? = some a) (hnodes : w'.nodes = (w.setNode n a').nodes)
    (hshares : a'.shares = a.shares) : w'.sharing = w.sharing := by
  funext m
  rw [sharing, hnodes]
  exact any_setNode hn hshares m

theorem sharedIn?_congr (hsharing : w'.sharing = w.sharing) : w'.sharedIn? = w.sharedIn? := by
  funext event
  cases event with
  | call => rfl
  | effect m e => simp only [sharedIn?, hsharing]

theorem shared_congr (hlog : w'.log = w.log) (hsharing : w'.sharing = w.sharing) :
    w'.shared = w.shared := by
  rw [shared, shared, hlog, sharedIn?_congr hsharing]

theorem shared_calls {j : Journal} (hlog : w'.log = j.map (.call n) ++ w.log)
    (hsharing : w'.sharing = w.sharing) : w'.shared = w.shared := by
  rw [shared, hlog, List.filterMap_append, filterMap_calls n fun _ _ => rfl, List.nil_append,
    sharedIn?_congr hsharing, shared]

theorem shared_effect {e : Effect O} (hlog : w'.log = .effect n e :: w.log)
    (hsharing : w'.sharing = w.sharing) :
    w'.shared = w.shared ++ if w.sharing n then [e] else [] := by
  rw [shared, shared, hlog, List.filterMap_cons, sharedIn?_congr hsharing, sharedIn?]
  cases w.sharing n <;> simp

theorem replayed_congr (hshared : w'.shared = w.shared) (hpublished : w'.published = w.published)
    (h : w.published = w.replayed) : w'.published = w'.replayed := by
  rw [hpublished, replayed, hshared]
  exact h

/-- Whatever is told, it changes of the nodes only the space and the bridge of the one that tells
it, and leads to nothing but calls. -/
theorem deliver_spec (hn : w.nodes[n]? = some a) (e : Effect O) :
    ∃ a', a.Alike a' ∧ a'.space = a.space.tell e ∧
      (w.deliver n e).2.nodes = (w.setNode n a').nodes ∧
      ∀ t ∈ (w.deliver n e).1, ∃ p op, t = .tell p op := by
  have hsame : w.nodes = (w.setNode n a).nodes := by
    refine List.ext_getElem? fun m => ?_
    rw [getElem?_setNode hn]
    split
    · rename_i hm
      rw [← hm, hn]
    · rfl
  have hmap (ops : List (Operation O)) : ∀ t ∈ ops.map (Task.tell n), ∃ p op, t = .tell p op := by
    intro t ht
    obtain ⟨op, -, rfl⟩ := List.mem_map.mp ht
    exact ⟨n, op, rfl⟩
  cases e with
  | publish d =>
    refine ⟨a, ⟨rfl, rfl, rfl, rfl⟩, rfl, ?_, ?_⟩
    · rw [deliver, publish]
      split <;> exact hsame
    · rw [deliver, publish]
      split <;> simp
  | retract d =>
    refine ⟨a, ⟨rfl, rfl, rfl, rfl⟩, rfl, ?_, ?_⟩
    · rw [deliver, retract]
      split <;> exact hsame
    · rw [deliver, retract]
      split <;> simp
  | register d proxy =>
    obtain ⟨a', ops, halike, hspace, -, heq⟩ := deliver_register hn d proxy
    rw [heq]
    exact ⟨a', halike, hspace, rfl, hmap ops⟩
  | unregister endpointId =>
    obtain ⟨a', ops, halike, hspace, -, heq⟩ := deliver_unregister hn endpointId
    rw [heq]
    exact ⟨a', halike, hspace, rfl, hmap ops⟩

end Federation

/-- What a node told and what waits is what was queued, and once all is told its space shows its
imports. -/
structure Node.Even (a : Node O) (told queued : List (Effect O)) : Prop where
  matched : a.registry.Matched
  distinct : a.registry.Distinct
  shows : (a.space.tellAll a.registry.effects).Shows a.registry.imports
  told : told ++ a.registry.effects = queued

namespace Node.Even

variable {a a' : Node O} {told queued : List (Effect O)}

/-- Whatever a registry is told, it only queues more, behind all that waits, and what it queues
leads to its imports. -/
theorem perform (h : a.Even told queued) (env : Environment O) (op : Operation O)
    (hregistry : a'.registry = (Session.perform env op (.ofRegistry a.registry)).registry)
    (hspace : a'.space = a.space) :
    a'.Even told (queued ++ a'.registry.effects.drop a.registry.effects.length) := by
  let s : Session O := .ofRegistry a.registry
  have hmatched : (s.apply env op).registry.Matched := Session.matched_apply env op h.matched
  have hdistinct : (s.apply env op).registry.Distinct :=
    Session.distinct_apply h.matched h.distinct env op
  have hmatched' : a'.registry.Matched := hregistry ▸ Session.matched_perform h.matched env op
  have hdistinct' : a'.registry.Distinct :=
    hregistry ▸ Session.distinct_perform h.matched h.distinct env op
  obtain ⟨t, ht⟩ := Session.turns_apply (s := s) h.matched h.distinct env op
  obtain ⟨t', ht'⟩ := Session.turns_apply hmatched hdistinct env .reconcile
  change (s.apply env op).registry.Turns env (s.perform env op).registry t' at ht'
  rw [← hregistry] at ht'
  refine ⟨hmatched', hdistinct', ?_, ?_⟩
  · rw [hspace]
    exact (h.shows.turn ht hdistinct.imports).turn ht' hdistinct'.imports
  · have heffects : a'.registry.effects = a.registry.effects ++ (t.effects ++ t'.effects) := by
      rw [ht'.effects, ht.effects, List.append_assoc]
      rfl
    rw [heffects, List.drop_left, ← h.told, List.append_assoc]

theorem tell {e : Effect O} {es : List (Effect O)} (h : a.Even told queued)
    (he : a.registry.effects = e :: es)
    (hregistry : a'.registry = { a.registry with effects := es })
    (hspace : a'.space = a.space.tell e) :
    a'.Even (told ++ [e]) queued := by
  have hshows := h.shows
  have htold := h.told
  rw [he] at hshows htold
  refine ⟨?_, ?_, ?_, ?_⟩
  · rw [hregistry]
    exact h.matched.congr rfl
  · rw [hregistry]
    exact h.distinct
  · rw [hregistry, hspace]
    exact hshows
  · rw [hregistry, List.append_assoc]
    exact htold

end Node.Even

namespace Federation

variable {w w' : Federation O} {tasks tasks' front : List (Task O)}
  {queued queued' : Nat → List (Effect O)} {n : Nat} {a a' : Node O}

/-- The tasks fit the nodes, and each node comes out even. -/
structure Balanced (tasks : List (Task O)) (w : Federation O) (queued : Nat → List (Effect O)) :
    Prop where
  scheduled : Scheduled tasks w
  existing : ∀ n ∈ dispatchers tasks, n < w.nodes.length
  node : ∀ (n : Nat) (a : Node O), w.nodes[n]? = some a → a.Even (w.told n) (queued n)
  absent : ∀ n, w.nodes[n]? = none → w.told n = [] ∧ queued n = []

namespace Balanced

theorem start : Balanced [] (∅ : Federation O) fun _ => [] where
  scheduled := ⟨List.nodup_nil, by simp [EmptyCollection.emptyCollection, empty],
    by simp [EmptyCollection.emptyCollection, empty]⟩
  existing := by simp [dispatchers]
  node := by simp [EmptyCollection.emptyCollection, empty]
  absent _ _ := ⟨rfl, rfl⟩

theorem tells (h : Balanced tasks w queued) (hfront : ∀ t ∈ front, ∃ p op, t = .tell p op)
    (hnodes : w'.nodes = w.nodes) (hlog : w'.log = w.log) :
    Balanced (front ++ tasks) w' queued := by
  have htold (m : Nat) : w'.told m = w.told m := by rw [told, told, hlog]
  have hdispatchers := dispatchers_append_tells hfront tasks
  refine ⟨⟨?_, ?_, ?_⟩, ?_, ?_, ?_⟩
  · rw [hdispatchers]
    exact h.scheduled.once
  · rw [hdispatchers, hnodes]
    exact h.scheduled.running
  · rw [hnodes]
    exact h.scheduled.drained
  · rw [hdispatchers, hnodes]
    exact h.existing
  · intro m b hb
    rw [htold]
    exact h.node m b (hnodes ▸ hb)
  · intro m hm
    rw [htold]
    exact h.absent m (hnodes ▸ hm)

theorem join (h : Balanced tasks w queued) (frameworkUuid : String)
    (importLocalEndpoints shares : Bool) (bridge : Option (Bridge O)) :
    Balanced tasks
      (w.join (.ofRegistry (.empty frameworkUuid importLocalEndpoints) .present shares bridge))
      queued := by
  obtain ⟨htold, hqueued⟩ := h.absent w.nodes.length (List.getElem?_eq_none_iff.mpr (Nat.le_refl _))
  refine ⟨⟨h.scheduled.once, forall_join h.scheduled.running ⟨?_, ?_⟩,
    forall_join h.scheduled.drained fun _ => rfl⟩, ?_, forall_join (fun m b hb => h.node m b hb) ?_,
    fun m hm => h.absent m (getElem?_of_join hm)⟩
  · intro hd
    cases hd
  · exact fun hmem => absurd (h.existing _ hmem) (Nat.lt_irrefl _)
  · intro m hm
    rw [Federation.join, List.length_append]
    exact Nat.lt_add_right _ (h.existing m hm)
  · refine ⟨Registry.matched_of_idle rfl rfl rfl, List.nodup_nil, .nil, ?_⟩
    rw [hqueued]
    exact (List.append_nil _).trans htold

theorem setNode (h : Balanced tasks w queued) (hn : w.nodes[n]? = some a)
    (hnodes : w'.nodes = (w.setNode n a').nodes) (hscheduled : Scheduled tasks' w')
    (hexisting : ∀ m ∈ dispatchers tasks', m = n ∨ m ∈ dispatchers tasks)
    (htold : ∀ m, m ≠ n → w'.told m = w.told m) (hqueued : ∀ m, m ≠ n → queued' m = queued m)
    (heven : a'.Even (w'.told n) (queued' n)) : Balanced tasks' w' queued' where
  scheduled := hscheduled
  existing m hm := by
    rw [hnodes, Federation.setNode, List.length_set]
    rcases hexisting m hm with rfl | hm
    · exact (List.getElem?_eq_some_iff.mp hn).1
    · exact h.existing m hm
  node := by
    rw [hnodes]
    refine forall_setNode hn (fun m b hb hmn => ?_) heven
    rw [htold m hmn, hqueued m hmn]
    exact h.node m b hb
  absent m hm := by
    rw [hnodes, getElem?_setNode hn] at hm
    split at hm
    · cases hm
    · rename_i hne
      rw [htold m (Ne.symm hne), hqueued m (Ne.symm hne)]
      exact h.absent m hm

theorem dispatched (h : Balanced (.dispatch n :: tasks) w queued) : ∃ a, w.nodes[n]? = some a :=
  ⟨_, List.getElem?_eq_getElem (h.existing n List.mem_cons_self)⟩

variable (envs : Nat → List (Event O) → Environment O)

/-- A call queues its effects; who is in the middle of telling effects does not tell these yet. -/
theorem step_tell {op : Operation O} (h : Balanced (.tell n op :: tasks) w queued) :
    Balanced (step envs (.tell n op :: tasks, w)).1 (step envs (.tell n op :: tasks, w)).2
      fun m => queued m ++ queuedBy envs m (.tell n op :: tasks) w := by
  cases hn : w.nodes[n]? with
  | none =>
    simp only [step, hn, queuedBy, List.append_nil]
    exact ⟨⟨h.scheduled.once, h.scheduled.running, h.scheduled.drained⟩,
      h.existing, h.node, h.absent⟩
  | some a =>
    rw [Federation.step_tell envs hn]
    refine h.setNode hn rfl (h.scheduled.tell hn rfl rfl) (fun m hm => ?_)
      (fun m _ => told_calls rfl m) (fun m hmn => ?_) ?_
    · split at hm
      · exact .inr hm
      · exact List.mem_cons.mp hm
    · simp [queuedBy, hn, Ne.symm hmn]
    · rw [told_calls (w := w) rfl]
      simp only [queuedBy, hn, if_true]
      exact (h.node n a hn).perform (envs n w.log) op rfl rfl

theorem step_dispatch (h : Balanced (.dispatch n :: tasks) w queued) :
    Balanced (step envs (.dispatch n :: tasks, w)).1
      (step envs (.dispatch n :: tasks, w)).2 queued := by
  obtain ⟨a, hn⟩ := h.dispatched
  have heven := h.node n a hn
  cases he : a.registry.effects with
  | nil =>
    rw [step_idle envs hn he]
    exact h.setNode hn rfl (h.scheduled.idle hn he) (fun m hm => .inr (List.mem_cons_of_mem _ hm))
      (fun _ _ => rfl) (fun _ _ => rfl) ⟨heven.matched, heven.distinct, heven.shows, heven.told⟩
  | cons e es =>
    let b := a.withEffects es
    have hb : (w.setNode n b).nodes[n]? = some b := getElem?_setNode_self hn b
    obtain ⟨a', halike, hspace, hnodes, htells⟩ := deliver_spec hb e
    have hnodes' : ((w.setNode n b).deliver n e).2.nodes = (w.setNode n a').nodes := by
      rw [hnodes, Federation.setNode, Federation.setNode, List.set_set]
      rfl
    have htold := told_effect (log_deliver (w.setNode n b) n e)
    rw [step_effect envs hn he]
    refine h.setNode hn hnodes' (h.scheduled.effect hn hnodes' halike.dispatching htells)
      (fun m hm => ?_) (fun m hmn => ?_) (fun _ _ => rfl) ?_
    · rw [dispatchers_append_tells htells] at hm
      exact .inr hm
    · rw [htold, if_neg (Ne.symm hmn), List.append_nil]
      rfl
    · rw [htold, if_pos rfl]
      exact heven.tell he halike.registry hspace

theorem step (h : Balanced tasks w queued) :
    Balanced (step envs (tasks, w)).1 (step envs (tasks, w)).2 fun m =>
      queued m ++ queuedBy envs m tasks w := by
  match tasks with
  | [] => simpa [Federation.step, queuedBy] using h
  | .tell n op :: tasks => exact h.step_tell envs
  | .dispatch n :: tasks => simpa [queuedBy] using h.step_dispatch envs

theorem step_replayed (h : Balanced tasks w queued) (hpublished : w.published = w.replayed) :
    (Federation.step envs (tasks, w)).2.published =
      (Federation.step envs (tasks, w)).2.replayed := by
  match tasks with
  | [] => exact hpublished
  | .tell n op :: tasks =>
    cases hn : w.nodes[n]? with
    | none =>
      simp only [Federation.step, hn]
      exact hpublished
    | some a =>
      rw [Federation.step_tell envs hn]
      exact replayed_congr (shared_calls (w := w) rfl (sharing_setNode hn rfl rfl)) rfl hpublished
  | .dispatch n :: tasks =>
    obtain ⟨a, hn⟩ := h.dispatched
    cases he : a.registry.effects with
    | nil =>
      rw [step_idle envs hn he]
      exact replayed_congr (shared_congr (w := w) rfl (sharing_setNode hn rfl rfl)) rfl hpublished
    | cons e es =>
      have hfirst : (w.setNode n (a.withEffects es)).sharing = w.sharing :=
        sharing_setNode hn rfl rfl
      have hshared : (w.setNode n (a.withEffects es)).shared = w.shared := shared_congr rfl hfirst
      obtain ⟨a', halike, -, hnodes, -⟩ :=
        deliver_spec (getElem?_setNode_self hn (a.withEffects es)) e
      have hlater := sharing_setNode (getElem?_setNode_self hn _) hnodes halike.shares
      rw [step_effect envs hn he, published_deliver, replayed,
        shared_effect (log_deliver _ n e) hlater, hshared, hfirst]
      split
      · rw [List.foldl_append]
        exact congrArg e.record hpublished
      · rw [List.append_nil]
        exact hpublished

theorem join_replayed (h : Balanced tasks w queued) (new : Node O) :
    (w.join new).replayed = w.replayed := by
  have hsame : w.log.filterMap (w.join new).sharedIn? = w.log.filterMap w.sharedIn? := by
    refine List.filterMap_congr fun event hevent => ?_
    cases event with
    | call => rfl
    | effect m e =>
      have hm : m < w.nodes.length := by
        by_contra hge
        obtain ⟨htold, -⟩ := h.absent m (List.getElem?_eq_none_iff.mpr (Nat.not_lt.mp hge))
        have hmem : e ∈ w.told m :=
          List.mem_reverse.mpr (List.mem_filterMap.mpr ⟨_, hevent, if_pos rfl⟩)
        rw [htold] at hmem
        cases hmem
      simp only [sharedIn?, sharing, Federation.join, List.getElem?_append_left hm]
      rfl
  rw [replayed, shared]
  exact congrArg (fun es => es.reverse.foldl (fun ds e => e.record ds) []) hsame

end Balanced

/-- A node that shares the directory changes it by the effect that it tells, and leads all who are
attached to be told of it before it tells the next one. -/
theorem step_shares (envs : Nat → List (Event O) → Environment O) (hn : w.nodes[n]? = some a)
    (hshares : a.shares) {e : Effect O} {es : List (Effect O)} (he : a.registry.effects = e :: es)
    (tasks : List (Task O)) :
    (step envs (.dispatch n :: tasks, w)).2.published = e.record w.published ∧
      ∀ op, e.news? = some op → (step envs (.dispatch n :: tasks, w)).1 =
        w.livePeers.map (.tell · op) ++ .dispatch n :: tasks := by
  have hn' := getElem?_setNode_self hn (a.withEffects es)
  have hlive : (w.setNode n (a.withEffects es)).livePeers = w.livePeers :=
    List.filter_congr fun m _ =>
      any_setNode hn (show (a.withEffects es).isPresent = a.isPresent from rfl) m
  rw [step_effect envs hn he]
  refine ⟨?_, fun op hop => ?_⟩
  · rw [published_deliver, sharing, hn', Option.any_some]
    exact if_pos hshares
  · cases e with
    | publish d =>
      cases hop
      rw [deliver_publish hn' hshares, hlive]
    | retract d =>
      cases hop
      rw [deliver_retract hn' hshares, hlive]
    | register d proxy => cases hop
    | unregister endpointId => cases hop

namespace Course

variable {envs : Nat → List (Event O) → Environment O}

theorem run (h : Course envs tasks w queued) {fuel : Nat}
    (hrun : run envs fuel (tasks, w) = some w') :
    ∃ queued', Course envs [] w' queued' := by
  refine run_induct envs (P := fun c => ∃ q, Course envs c.1 c.2 q) (fun c _ _ hc => ?_) hrun ⟨_, h⟩
  obtain ⟨q, hc⟩ := hc
  exact ⟨_, hc.step⟩

theorem balanced (h : Course envs tasks w queued) : Balanced tasks w queued := by
  induction h with
  | start => exact .start
  | join _ frameworkUuid importLocalEndpoints shares bridge ih =>
    exact ih.join frameworkUuid importLocalEndpoints shares bridge
  | call _ n op ih => exact ih.tells (List.forall_mem_singleton.mpr ⟨n, op, rfl⟩) rfl rfl
  | @attach tasks w queued _ n ih =>
    rw [Federation.attach]
    split
    · refine ih.tells (fun t ht => ?_) rfl rfl
      obtain ⟨d, -, rfl⟩ := List.mem_map.mp ht
      exact ⟨_, _, rfl⟩
    · exact ih
  | step _ ih => exact ih.step envs

theorem replayed (h : Course envs tasks w queued) : w.published = w.replayed := by
  induction h with
  | start => rfl
  | join h frameworkUuid importLocalEndpoints shares bridge ih =>
    exact ih.trans (h.balanced.join_replayed _).symm
  | call _ _ _ ih => exact ih
  | attach _ n ih =>
    rw [Federation.attach]
    split <;> exact ih
  | step h ih => exact h.balanced.step_replayed envs ih

/-- However calls are nested, and whatever factories and transports answer: every node tells its
effects once each and in the order in which its registry queued them; who is called in the middle
of its effects returns without telling any; when a call from outside has returned no effect waits,
nobody is in the middle of them, and each space holds just one proxy for each live import; and the
directory holds at any time what the told effects of those who share it make of it. -/
theorem tells_all (h : Course envs tasks w queued) :
    (∀ (n : Nat) (a : Node O), w.nodes[n]? = some a → w.told n ++ a.registry.effects = queued n) ∧
    (∀ (n : Nat) (a : Node O), w.nodes[n]? = some a → a.dispatching →
      (dispatchers tasks).count n = 1 ∧
      ∀ op, (Federation.step envs (.tell n op :: tasks, w)).1 = tasks ∧
        ∀ m, (Federation.step envs (.tell n op :: tasks, w)).2.told m = w.told m) ∧
    (tasks = [] → ∀ (n : Nat) (a : Node O), w.nodes[n]? = some a →
      w.told n = queued n ∧ a.registry.effects = [] ∧ a.dispatching = false ∧
      (a.registry.imports.map Import.endpointId).Nodup ∧ a.space.Shows a.registry.imports) ∧
    w.published = w.replayed := by
  have hbalanced := h.balanced
  refine ⟨fun n a hn => (hbalanced.node n a hn).told, fun n a hn hd => ⟨?_, fun op => ?_⟩, ?_,
    h.replayed⟩
  · exact List.count_eq_one_of_mem hbalanced.scheduled.once
      ((hbalanced.scheduled.running n a hn).mp hd)
  · rw [step_tell envs hn, if_pos hd]
    exact ⟨rfl, told_calls rfl⟩
  · rintro rfl n a hn
    have hidle : ¬ a.dispatching := fun hd => by cases (hbalanced.scheduled.running n a hn).mp hd
    have heffects := hbalanced.scheduled.drained n a hn hidle
    obtain ⟨-, hdistinct, hshows, htold⟩ := hbalanced.node n a hn
    rw [heffects] at hshows htold
    exact ⟨(List.append_nil _).symm.trans htold, heffects, by simpa using hidle,
      hdistinct.imports, hshows⟩

/-- A process imports what it exports itself.  A second service comes while the first one is just
being published; it is published before the first one is imported, since it was queued before
that. -/
theorem tells_all_nested :
    ∃ (w : Federation .plain) (queued : Nat → List (Effect .plain)) (a : Node .plain),
      Course (fun _ => grantingAfter) [] w queued ∧ w.nodes[0]? = some a ∧ w.told 0 = queued 0 ∧
      (w.told 0).map Effect.headline = [("publish", "i"), ("publish", "ii"),
        ("register", "i"), ("register", "ii")] ∧
      a.space.Shows a.registry.imports ∧
      a.space.proxies.map RegisteredProxy.endpointId = ["i", "ii"] ∧
      w.published = w.replayed ∧ w.published.map Endpoint.id = ["i", "ii"] := by
  let service (number : String) : Properties :=
    .ofList [(Key.serviceId, number), (Key.objectClass, "A"), (Key.exportedInterfaces, "*")]
  let envs (_ : Nat) := grantingAfter
  let start := (∅ : Federation .plain).join (.ofRegistry (.empty "here" true) .present true none)
  let first? := Federation.run envs 99 ([.tell 0 (.addExportFactory ⟨"f", "A"⟩ ∅)], start)
  let second? := first?.bind fun w => Federation.run envs 99
    ([.tell 0 (.addImportFactory ⟨"g", "A"⟩ ∅)], w)
  let third? := second?.bind fun w => Federation.run envs 99 ((w.attach 0).1 ++ [], (w.attach 0).2)
  let publishing (w : Federation .plain) :=
    Federation.step envs (Federation.step envs ([.tell 0 (.addService () (service "7"))], w))
  let last? := third?.bind fun w =>
    Federation.run envs 99 (.tell 0 (.addService () (service "8")) :: (publishing w).1,
      (publishing w).2)
  obtain ⟨w, hw⟩ : ∃ w, last? = some w := Option.isSome_iff_exists.mp (by decide +kernel)
  obtain ⟨queued, hcourse⟩ : ∃ queued, Course envs [] w queued := by
    obtain ⟨w₃, h₃, hlast⟩ := Option.bind_eq_some_iff.mp hw
    obtain ⟨w₂, h₂, h₃⟩ := Option.bind_eq_some_iff.mp h₃
    obtain ⟨w₁, h₁, h₂⟩ := Option.bind_eq_some_iff.mp h₂
    obtain ⟨_, hfirst⟩ := ((Course.start.join "here" true true none).call 0 _).run h₁
    obtain ⟨_, hsecond⟩ := (hfirst.call 0 _).run h₂
    obtain ⟨_, hthird⟩ := (hsecond.attach 0).run h₃
    exact ((hthird.call 0 _).step.step.call 0 _).run hlast
  have htold : (last?.map fun w => (w.told 0).map Effect.headline) =
      some [("publish", "i"), ("publish", "ii"), ("register", "i"), ("register", "ii")] := by
    decide +kernel
  have hspace :
    (last?.bind fun w => w.nodes[0]?.map fun a => a.space.proxies.map RegisteredProxy.endpointId) =
      some ["i", "ii"] := by decide +kernel
  have hdirectory : (last?.map fun w => w.published.map Endpoint.id) = some ["i", "ii"] := by
    decide +kernel
  rw [hw] at htold hspace hdirectory
  obtain ⟨a, hn, hproxies⟩ := Option.map_eq_some_iff.mp hspace
  obtain ⟨-, -, hreturned, hreplayed⟩ := hcourse.tells_all
  obtain ⟨hqueued, -, -, -, hshows⟩ := hreturned rfl 0 a hn
  exact ⟨w, queued, a, hcourse, hn, hqueued, Option.some.inj htold, hshows, hproxies, hreplayed,
    Option.some.inj hdirectory⟩

end Course

end Federation

end RemoteServices
