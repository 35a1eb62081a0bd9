import RemoteServices.Proofs.Directory

/-!
# Coherent federations

A call leads to others before it returns, these to others, and nodes that are in the middle of their
effects keep theirs back.  Each step of this keeps directory, nodes and tasks `Coherent`, so they
are when nothing is under way any more.
-/
namespace RemoteServices

variable {O : Objects}

namespace Federation

variable (envs : Nat → List (Event O) → Environment O) {w w' : Federation O}
  {view view' : Nat → Outside O} {n : Nat} {a a' : Node O} {tasks : List (Task O)}

/-- How directory, nodes and tasks fit together. -/
structure Coherent (tasks : List (Task O)) (w : Federation O) (view : Nat → Outside O) : Prop where
  recorded : Recorded w view
  scheduled : Scheduled tasks w
  informed : Informed tasks w view
  ordered : Calm tasks w ∨ Guarded view tasks

theorem Coherent.tell {op : Operation O} (h : Coherent (.tell n op :: tasks) w view)
    (hn : w.nodes[n]? = some a) (hfresh : (step envs (.tell n op :: tasks, w)).2.newIds.Nodup) :
    Coherent (step envs (.tell n op :: tasks, w)).1
      (step envs (.tell n op :: tasks, w)).2 view := by
  have hnode := h.recorded.node n a hn
  have hknown :=
    Session.knownEndpoints_perform (s := .ofRegistry a.registry) hnode.matched hnode.distinct
    (envs n w.log) op
  have hwants := Session.wants_perform (s := .ofRegistry a.registry) hnode.matched hnode.distinct
    (envs n w.log) op
  have hmatched := Session.matched_perform (s := .ofRegistry a.registry) hnode.matched
    (envs n w.log) op
  have hdistinct :=
    Session.distinct_perform (s := .ofRegistry a.registry) hnode.matched hnode.distinct
    (envs n w.log) op
  have hadds {e : Effect O} (hop : op.Adds) :=
    Session.adds_perform (s := .ofRegistry a.registry) (e := e) hnode.matched hnode.distinct
      (envs n w.log) hop
  obtain ⟨calls, hjournal, hlearns⟩ :=
    Session.tells_perform (s := .ofRegistry a.registry) hnode.matched hnode.distinct
      (envs n w.log) op
  rw [step_tell envs hn] at hfresh ⊢
  generalize Session.perform (envs n w.log) op (.ofRegistry a.registry) = s at *
  change s.journal = calls ++ [] at hjournal
  rw [List.append_nil] at hjournal
  subst hjournal
  refine ⟨?_, h.scheduled.tell hn rfl rfl, ?_, ?_⟩
  · rw [← Function.update_eq_self n view]
    refine h.recorded.setNode hn rfl rfl (fun m hmn => ?_)
      ⟨hnode.present, hnode.shares, hmatched, hdistinct, ?_⟩
      (h.recorded.sound n) (h.recorded.published_iff n) h.recorded.ids
    · rw [drawn_calls (w := w) rfl m, if_neg (Ne.symm hmn), List.nil_append]
    · have hnodup := hfresh.sublist (drawn_sublist _ n)
      rw [drawn_calls (w := w) rfl n, if_pos rfl] at hnodup ⊢
      exact hlearns (view n) _ hnode.learns hnodup
  · have hinformed :
        Informed tasks { w.setNode n { a with registry := s.registry, dispatching := true } with
        log := s.journal.map (.call n) ++ w.log } view :=
      h.informed.tell h.recorded.ids hn rfl rfl rfl hknown hwants
    refine hinformed.congr fun p o => ?_
    split
    · exact .rfl
    · simp
  · rcases h.ordered with hcalm | hguarded
    · refine .inl ⟨forall_setNode hn (fun m b hm _ => hcalm.effects m b hm) fun e he => ?_,
        fun p o ht => ?_⟩
      · exact (hadds (hcalm.tells n op List.mem_cons_self) he).elim (hcalm.effects n a hn e) id
      · refine hcalm.tells p o (List.mem_cons_of_mem _ ?_)
        dsimp only at ht
        split at ht
        · exact ht
        · simpa using ht
    · refine .inr ?_
      dsimp only
      split
      · exact hguarded.2
      · exact ⟨by simp, hguarded.2⟩

theorem Coherent.idle (h : Coherent (.dispatch n :: tasks) w view) (hn : w.nodes[n]? = some a)
    (he : a.registry.effects = []) :
    Coherent tasks (w.setNode n { a with dispatching := false }) view := by
  have hnode := h.recorded.node n a hn
  refine ⟨?_, h.scheduled.idle hn he, ?_, ?_⟩
  · rw [← Function.update_eq_self n view]
    exact h.recorded.setNode hn rfl rfl (fun _ _ => rfl)
      ⟨hnode.present, hnode.shares, hnode.matched, hnode.distinct, hnode.learns⟩
        (h.recorded.sound n)
      (h.recorded.published_iff n) h.recorded.ids
  · have hinformed : Informed tasks w view := h.informed.congr fun p o => by simp
    exact hinformed.setNode hn rfl fun _ => rfl
  · rcases h.ordered with hcalm | hguarded
    · refine .inl ⟨forall_setNode hn (fun m b hm _ => hcalm.effects m b hm) (hcalm.effects n a hn),
        fun p o ht => ?_⟩
      exact hcalm.tells p o (List.mem_cons_of_mem _ ht)
    · exact .inr hguarded.2

theorem livePeers_eq (hpeers : ∀ p ∈ w.peers, p < w.nodes.length)
    (hpresent : ∀ (m : Nat) (b : Node O), w.nodes[m]? = some b → b.isPresent) :
    w.livePeers = w.peers := by
  refine List.filter_eq_self.mpr fun p hp => ?_
  have hget := List.getElem?_eq_getElem (hpeers p hp)
  rw [hget]
  exact hpresent p _ hget

theorem Recorded.livePeers (h : Recorded w view) (hn : w.nodes[n]? = some a)
    (hpresent : a'.isPresent) :
    (w.setNode n a').livePeers = w.peers := by
  refine livePeers_eq (fun p hp => ?_)
    (forall_setNode hn (fun m b hm _ => (h.node m b hm).present) hpresent)
  rw [Federation.setNode, List.length_set]
  exact h.peers p hp

theorem Coherent.effect (h : Coherent (.dispatch n :: tasks) w view)
    (hn : w.nodes[n]? = some a) {e : Effect O} {es : List (Effect O)}
    (he : a.registry.effects = e :: es) {c : Outside O} (hc : (view n).tell? e = some c)
    (hlearns : c.Learns { a.registry with effects := es } (w.drawn n))
    (halike : (a.withEffects es).Alike a')
    (hnodes : w'.nodes = (w.setNode n a').nodes) (hpeers : w'.peers = w.peers)
    (hlog : w'.log = .effect n e :: w.log)
    (hpublished : ∀ d, d ∈ w'.published ↔ d ∈ c.published ∨ ∃ m, m ≠ n ∧ d ∈ (view m).published)
    (hids : (w'.published.map Endpoint.id).Nodup) {front : List (Task O)}
    (hfront : ∀ t ∈ front, ∃ p op, t = .tell p op ∧ (e.Adds → op.Adds))
    (hinformed : Informed (front ++ .dispatch n :: tasks) w' view)
    (hordered : Guarded view tasks →
      Guarded (Function.update view n c) (front ++ .dispatch n :: tasks)) :
    Coherent (front ++ .dispatch n :: tasks) w' (Function.update view n c) := by
  have hnode := h.recorded.node n a hn
  have hdrawn (m : Nat) : w'.drawn m = w.drawn m := by
    rw [drawn, hlog]
    rfl
  refine ⟨?_, ?_, hinformed.mono rfl rfl rfl fun m _ => announced_update
    (Outside.announced_tell hc) m, ?_⟩
  · refine h.recorded.setNode hn hnodes hpeers (fun m _ => hdrawn m) ⟨?_, ?_, ?_, ?_, ?_⟩
      ((h.recorded.sound n).tell hc) hpublished hids
    · rw [Node.isPresent, halike.administration]
      exact hnode.present
    · rw [halike.shares]
      exact hnode.shares
    · rw [halike.registry]
      exact hnode.matched.congr rfl
    · rw [halike.registry]
      exact hnode.distinct
    · rw [halike.registry, hdrawn]
      exact hlearns
  · refine h.scheduled.effect hn hnodes halike.dispatching fun t ht => ?_
    obtain ⟨p, op, heq, -⟩ := hfront t ht
    exact ⟨p, op, heq⟩
  · rcases h.ordered with hcalm | hguarded
    · have heffects := hcalm.effects n a hn
      rw [he] at heffects
      refine .inl ⟨?_, fun p op ht => ?_⟩
      · rw [hnodes]
        refine forall_setNode hn (fun m b hm _ => hcalm.effects m b hm) fun f hf => ?_
        rw [halike.registry] at hf
        exact heffects f (List.mem_cons_of_mem _ hf)
      · rcases List.mem_append.mp ht with ht | ht
        · obtain ⟨q, o, heq, hop⟩ := hfront _ ht
          cases heq
          exact hop (heffects e List.mem_cons_self)
        · exact hcalm.tells p op ht
    · exact .inr (hordered hguarded.2)

theorem Coherent.publish (h : Coherent (.dispatch n :: tasks) w view)
    (hn : w.nodes[n]? = some a) {d : Endpoint} {es : List (Effect O)}
    (he : a.registry.effects = .publish d :: es) (hfresh : w.newIds.Nodup) :
    ∃ view', Coherent (step envs (.dispatch n :: tasks, w)).1
      (step envs (.dispatch n :: tasks, w)).2 view' := by
  have hnode := h.recorded.node n a hn
  obtain ⟨c, hc, hlearns⟩ := hnode.learns.tell he
  have hlive : (w.setNode n (a.withEffects es)).livePeers = w.peers :=
    h.recorded.livePeers hn hnode.present
  have hinformed : Informed (.dispatch n :: tasks) (w.setNode n (a.withEffects es)) view :=
    h.informed.setNode hn rfl fun _ => rfl
  rw [step_effect envs hn he,
    deliver_publish (getElem?_setNode_self hn (a.withEffects es)) hnode.shares, hlive]
  obtain ⟨⟨hfirst, -⟩, rfl⟩ := Outside.tell?_publish.mp hc
  -- The id was given to this node, so nobody else announced it either.
  have hnew := h.recorded.unannounced hfresh (hlearns.announced List.mem_cons_self) hfirst
  have hunpublished := h.recorded.unpublished hnew
  have hperm := insertEndpoint_perm hunpublished
  have hmem (e : Endpoint) : e ∈ insertEndpoint d w.published ↔ e = d ∨ e ∈ w.published := by
    rw [hperm.mem_iff, List.mem_cons]
  refine ⟨_, h.effect hn he hc hlearns ⟨rfl, rfl, rfl, rfl⟩ ?_ ?_ ?_ (fun e => ?_) ?_
    (fun t ht => ?_) ?_ ?_⟩
  · rfl
  · rfl
  · rfl
  · refine (hmem e).trans ?_
    rw [h.recorded.published_iff n, List.mem_append, List.mem_singleton,
      ← or_assoc, or_comm (a := e = d)]
  · refine ((hperm.map Endpoint.id).nodup_iff).mpr ?_
    exact List.nodup_cons.mpr ⟨hunpublished, h.recorded.ids⟩
  · obtain ⟨p, -, rfl⟩ := List.mem_map.mp ht
    exact ⟨p, _, rfl, fun _ => trivial⟩
  · exact hinformed.publish rfl rfl hmem hnew
  · refine fun hguarded => Guarded.append ⟨by simp, hguarded.mono fun p e m ht =>
      published_of_update fun hin => ?_⟩
      fun p e m ht hm => ?_
    · refine (List.mem_append.mp hin).resolve_right fun heq => hunpublished ?_
      rw [← List.mem_singleton.mp heq]
      exact List.mem_map_of_mem (h.informed.adding p e (List.mem_cons_of_mem _ ht)).2
    · obtain ⟨q, -, heq⟩ := List.mem_map.mp ht
      cases heq
      by_cases hmn : m = n
      · exact hmn ▸ List.mem_cons_self
      · rw [Function.update_of_ne hmn] at hm
        exact absurd ((h.recorded.sound m).announced _ hm) (hnew m)

/-- An endpoint is retracted: the news of it has reached everybody. -/
theorem Coherent.retract (h : Coherent (.dispatch n :: tasks) w view)
    (hn : w.nodes[n]? = some a) {d : Endpoint} {es : List (Effect O)}
    (he : a.registry.effects = .retract d :: es) (hfresh : w.newIds.Nodup) :
    ∃ view', Coherent (step envs (.dispatch n :: tasks, w)).1
      (step envs (.dispatch n :: tasks, w)).2 view' := by
  have hnode := h.recorded.node n a hn
  obtain ⟨c, hc, hlearns⟩ := hnode.learns.tell he
  have hlive : (w.setNode n (a.withEffects es)).livePeers = w.peers :=
    h.recorded.livePeers hn hnode.present
  have hinformed : Informed (.dispatch n :: tasks) (w.setNode n (a.withEffects es)) view :=
    h.informed.setNode hn rfl fun _ => rfl
  rw [step_effect envs hn he,
    deliver_retract (getElem?_setNode_self hn (a.withEffects es)) hnode.shares, hlive]
  obtain ⟨hpublished, rfl⟩ := Outside.tell?_retract.mp hc
  obtain ⟨k, hk, hid⟩ := List.mem_map.mp hpublished
  have hannounced : d.id ∈ (view n).announced := hid ▸ (h.recorded.sound n).announced k hk
  have hguarded : Guarded view tasks := by
    rcases h.ordered with hcalm | hguarded
    · have hadds := hcalm.effects n a hn (.retract d) (he ▸ List.mem_cons_self)
      cases hadds
    · exact hguarded.2
  -- News of this id would be news of a node whose effects are under way further down.
  have hno : ∀ p e, .tell p (.addEndpoint e) ∈ tasks → e.id ≠ d.id := by
    intro p e ht heq
    have he := (h.informed.adding p e (List.mem_cons_of_mem _ ht)).2
    have hsame : e = k := List.inj_on_of_nodup_map h.recorded.ids he
      ((h.recorded.published k).mpr ⟨n, hk⟩)
      (heq.trans hid.symm)
    exact (List.nodup_cons.mp h.scheduled.once).1 (hguarded.mem ht (hsame ▸ hk))
  refine ⟨_, h.effect hn he hc hlearns ⟨rfl, rfl, rfl, rfl⟩ ?_ ?_ ?_ (fun e => ?_) ?_
    (fun t ht => ?_) ?_ ?_⟩
  · rfl
  · rfl
  · rfl
  · refine List.mem_filter.trans ?_
    rw [List.mem_filter]
    change e ∈ w.published ∧ _ ↔ _
    rw [h.recorded.published_iff n, or_and_right]
    refine or_congr_right (and_iff_left_of_imp ?_)
    -- Other nodes announced other ids.
    rintro ⟨m, hmn, hm⟩
    have hother : e.id ≠ d.id := fun heq =>
      hmn (h.recorded.owner hfresh ((h.recorded.sound m).announced e hm) (heq ▸ hannounced))
    simpa using hother
  · exact h.recorded.ids.sublist (List.filter_sublist.map _)
  · obtain ⟨p, -, rfl⟩ := List.mem_map.mp ht
    exact ⟨p, _, rfl, fun hadds => by cases hadds⟩
  · refine hinformed.retract rfl rfl rfl ⟨n, hannounced⟩ fun p e ht => ?_
    exact hno p e (by simpa using ht)
  · refine fun _ => Guarded.append ⟨by simp, hguarded.mono fun p e m ht => ?_⟩ fun p e m ht => ?_
    · exact published_of_update List.mem_of_mem_filter
    · simp at ht

theorem Coherent.proxy (h : Coherent (.dispatch n :: tasks) w view)
    (hn : w.nodes[n]? = some a) {e : Effect O} {es : List (Effect O)}
    (he : a.registry.effects = e :: es) {c : Outside O} (hc : (view n).tell? e = some c)
    (hlearns : c.Learns { a.registry with effects := es } (w.drawn n))
    (hpublished : c.published = (view n).published) (halike : (a.withEffects es).Alike a')
    {ops : List (Operation O)}
    (hops : ∀ op ∈ ops, (∃ object q, op = .addService object q) ∨ ∃ q, op = .removeService q)
    (hadds : e.Adds → ∀ op ∈ ops, op.Adds) :
    Coherent (ops.map (.tell n) ++ .dispatch n :: tasks)
      { (w.setNode n (a.withEffects es)).setNode n a' with log := .effect n e :: w.log }
        (Function.update view n c) := by
  have hset : (w.setNode n (a.withEffects es)).setNode n a' = w.setNode n a' := by
    rw [setNode, setNode, setNode, List.set_set]
  have hknown : a'.registry.knownEndpoints = a.registry.knownEndpoints := by
    rw [halike.registry]
    rfl
  have hwants (d : Endpoint) : a'.registry.wants d = a.registry.wants d := by
    rw [halike.registry]
    rfl
  rw [hset]
  refine h.effect hn he hc hlearns halike ?_ ?_ ?_ (fun d => ?_) ?_
    (fun t ht => ?_) ?_ fun hguarded => ?_
  · rfl
  · rfl
  · rfl
  · rw [hpublished]
    exact h.recorded.published_iff n d
  · exact h.recorded.ids
  · obtain ⟨op, hop, rfl⟩ := List.mem_map.mp ht
    exact ⟨n, op, rfl, fun hadd => hadds hadd op hop⟩
  · refine Informed.mono ((h.informed.setNode hn hknown hwants).services fun p op ht =>
      ?_) rfl rfl rfl fun _ _ hid => hid
    obtain ⟨o, ho, heq⟩ := List.mem_map.mp ht
    cases heq
    exact hops _ ho
  · refine Guarded.append ⟨by simp, hguarded.mono fun p d m ht => published_of_update fun hin =>
      hpublished ▸ hin⟩
      fun p d m ht => ?_
    obtain ⟨o, ho, heq⟩ := List.mem_map.mp ht
    cases heq
    simpa using hops _ ho

theorem Coherent.missing {t : Task O} (h : Coherent (t :: tasks) w view) (hn : w.nodes[n]? = none)
    (ht : (∃ op, t = .tell n op) ∨ t = .dispatch n) : Coherent tasks w view := by
  have htail {m : Nat} {b : Node O} (hm : w.nodes[m]? = some b) {op : Operation O}
      (hmem : .tell m op ∈ t :: tasks) :
      .tell m op ∈ tasks := by
    rcases List.mem_cons.mp hmem with rfl | hmem
    · rcases ht with ⟨o, heq⟩ | heq
      · cases heq
        rw [hn] at hm
        cases hm
      · cases heq
    · exact hmem
  have hdispatchers {m : Nat} {b : Node O} (hm : w.nodes[m]? = some b) :
      m ∈ dispatchers (t :: tasks) ↔ m ∈ dispatchers tasks := by
    rcases ht with ⟨o, rfl⟩ | rfl
    · exact .rfl
    · have hne : m ≠ n := by
        rintro rfl
        rw [hn] at hm
        cases hm
      rw [dispatchers_dispatch, List.mem_cons, or_iff_right hne]
  have honce : (dispatchers tasks).Nodup := by
    rcases ht with ⟨o, rfl⟩ | rfl
    · exact h.scheduled.once
    · exact (List.nodup_cons.mp h.scheduled.once).2
  refine ⟨h.recorded, ⟨honce, fun m b hm => ?_, h.scheduled.drained⟩, ?_, ?_⟩
  · rw [← hdispatchers hm]
    exact h.scheduled.running m b hm
  · refine ⟨fun p d hp => h.informed.adding p d (List.mem_cons_of_mem _ hp),
      fun p d hp => h.informed.removing p d (List.mem_cons_of_mem _ hp),
      fun p hp => h.informed.never p (List.mem_cons_of_mem _ hp), fun p b hb hp d hd hw =>
      ?_, fun p b hb d hd => ?_⟩
    · exact (h.informed.hears p b hb hp d hd hw).imp_right (htail hb)
    · obtain ⟨hp, hw, hor⟩ := h.informed.knows p b hb d hd
      exact ⟨hp, hw, hor.imp_right fun ⟨e, he, hid⟩ => ⟨e, htail hb he, hid⟩⟩
  · rcases h.ordered with hcalm | hguarded
    · exact .inl ⟨hcalm.effects, fun p op hp => hcalm.tells p op (List.mem_cons_of_mem _ hp)⟩
    · exact .inr hguarded.2

/-- Every step keeps directory, nodes and tasks together. -/
theorem Coherent.step {c : List (Task O) × Federation O} (h : Coherent c.1 c.2 view)
    (hfresh : (Federation.step envs c).2.newIds.Nodup) :
    ∃ view', Coherent (Federation.step envs c).1 (Federation.step envs c).2 view' := by
  have hbefore : c.2.newIds.Nodup := newIds_nodup (log_step envs c) hfresh
  obtain ⟨tasks, w⟩ := c
  match tasks with
  | [] => exact ⟨view, h⟩
  | .tell n op :: tasks =>
    cases hn : w.nodes[n]? with
    | none =>
      have hstep : Federation.step envs (.tell n op :: tasks, w) = (tasks, w) := by
        simp [Federation.step, hn]
      rw [hstep]
      exact ⟨view, h.missing hn (.inl ⟨op, rfl⟩)⟩
    | some a => exact ⟨view, h.tell envs hn hfresh⟩
  | .dispatch n :: tasks =>
    cases hn : w.nodes[n]? with
    | none =>
      have hstep : Federation.step envs (.dispatch n :: tasks, w) = (tasks, w) := by
        simp [Federation.step, hn, modifyNode, List.modify_eq_self
          (List.getElem?_eq_none_iff.mp hn)]
      rw [hstep]
      exact ⟨view, h.missing hn (.inr rfl)⟩
    | some a =>
      cases he : a.registry.effects with
      | nil =>
        rw [step_idle envs hn he]
        exact ⟨view, h.idle hn he⟩
      | cons e es =>
        have hn' := getElem?_setNode_self hn (a.withEffects es)
        obtain ⟨c, hc, hlearns⟩ := (h.recorded.node n a hn).learns.tell he
        cases e with
        | publish d => exact h.publish envs hn he hbefore
        | retract d => exact h.retract envs hn he hbefore
        | register d proxy =>
          obtain ⟨a', ops, halike, -, hops, heq⟩ := deliver_register hn' d proxy
          rw [step_effect envs hn he, heq]
          refine ⟨_, h.proxy hn he hc hlearns ?_ halike (fun op hop => .inl (hops op hop))
            fun _ op hop => ?_⟩
          · obtain ⟨-, rfl⟩ := Outside.tell?_register.mp hc
            rfl
          · obtain ⟨object, q, rfl⟩ := hops op hop
            trivial
        | unregister endpointId =>
          obtain ⟨a', ops, halike, -, hops, heq⟩ := deliver_unregister hn' endpointId
          rw [step_effect envs hn he, heq]
          refine ⟨_, h.proxy hn he hc hlearns ?_ halike (fun op hop => .inr (hops op hop))
            fun hadds => by cases hadds⟩
          obtain ⟨-, rfl⟩ := Outside.tell?_unregister.mp hc
          rfl

theorem Coherent.run {fuel : Nat} {c : List (Task O) × Federation O} (h : Coherent c.1 c.2 view)
    (hrun : Federation.run envs fuel c = some w') (hfresh : w'.newIds.Nodup) :
    ∃ view', Coherent [] w' view' := by
  refine run_induct envs (P := fun d => ∃ view', Coherent d.1 d.2 view')
    (fun d k hrest hd => ?_) hrun ⟨view, h⟩
  obtain ⟨view', h'⟩ := hd
  exact h'.step envs (newIds_nodup (log_run envs hrest) hfresh)

end Federation

end RemoteServices
