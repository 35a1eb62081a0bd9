import RemoteServices.Proofs.Perform
import RemoteServices.Proofs.Steps
import Mathlib.Logic.Function.Basic

/-!
# The directory and its peers

Several processes share one directory.  What is under way between them is a stack of tasks, and at
any moment four things hold: the directory holds what the nodes made known (`Recorded`), effects
that wait are under way (`Scheduled`), whatever is published is known where it is wanted or about to
be told, and the other way round (`Informed`), and the news of an endpoint comes before all else
that its owner has to tell (`Guarded`).
-/
namespace RemoteServices

variable {O : Objects}

/-- The nodes whose effects are under way. -/
def dispatchers (tasks : List (Task O)) : List Nat :=
  tasks.filterMap fun
    | .dispatch n => some n
    | .tell _ _ => none

@[simp] theorem dispatchers_tell (p : Nat) (op : Operation O) (tasks : List (Task O)) :
    dispatchers (.tell p op :: tasks) = dispatchers tasks := rfl

@[simp] theorem dispatchers_dispatch (n : Nat) (tasks : List (Task O)) :
    dispatchers (.dispatch n :: tasks) = n :: dispatchers tasks := rfl

theorem dispatchers_append (front tasks : List (Task O)) :
    dispatchers (front ++ tasks) = dispatchers front ++ dispatchers tasks :=
  List.filterMap_append

theorem dispatchers_tells {tasks : List (Task O)} (h : ∀ t ∈ tasks, ∃ p op, t = .tell p op) :
    dispatchers tasks = [] := by
  refine List.filterMap_eq_nil_iff.mpr fun t ht => ?_
  obtain ⟨p, op, rfl⟩ := h t ht
  rfl

theorem dispatchers_append_tells {front : List (Task O)} (h : ∀ t ∈ front, ∃ p op, t = .tell p op)
    (tasks : List (Task O)) : dispatchers (front ++ tasks) = dispatchers tasks := by
  rw [dispatchers_append, dispatchers_tells h, List.nil_append]

theorem insertEndpoint_perm {d : Endpoint} {ds : List Endpoint} (h : d.id ∉ ds.map Endpoint.id) :
    (insertEndpoint d ds).Perm (d :: ds) := by
  induction ds with
  | nil => exact .refl _
  | cons e ds ih =>
    simp only [List.map_cons, List.mem_cons, not_or] at h
    rw [insertEndpoint]
    split
    · exact .refl _
    · rw [if_neg h.1]
      exact ((ih h.2).cons e).trans (.swap d e ds)

/-- A node of which `o` was made known so far, and to which the ids `drawn` were given. -/
structure Node.Recorded (a : Node O) (o : Outside O) (drawn : List String) : Prop where
  present : a.isPresent
  shares : a.shares
  matched : a.registry.Matched
  distinct : a.registry.Distinct
  learns : o.Learns a.registry drawn

namespace Federation

/-- The directory holds what the nodes made known. -/
structure Recorded (w : Federation O) (view : Nat → Outside O) : Prop where
  node : ∀ (n : Nat) (a : Node O), w.nodes[n]? = some a → a.Recorded (view n) (w.drawn n)
  sound : ∀ n, (view n).Sound
  absent : ∀ n, w.nodes[n]? = none → view n = .start
  published : ∀ d, d ∈ w.published ↔ ∃ n, d ∈ (view n).published
  ids : (w.published.map Endpoint.id).Nodup
  peers : ∀ p ∈ w.peers, p < w.nodes.length

variable {w w' : Federation O} {view view' : Nat → Outside O} {n : Nat} {a a' : Node O}

theorem Recorded.drawn (h : Recorded w view) {id : String} (hid : id ∈ (view n).announced) :
    id ∈ w.drawn n := by
  cases hn : w.nodes[n]? with
  | none =>
    rw [h.absent n hn] at hid
    cases hid
  | some a => exact (h.node n a hn).learns.announced hid

theorem Recorded.owner (h : Recorded w view) (hfresh : w.newIds.Nodup) {m : Nat} {id : String}
    (hn : id ∈ (view n).announced) (hm : id ∈ (view m).announced) : n = m :=
  eq_of_mem_drawn hfresh (h.drawn hn) (h.drawn hm)

theorem Recorded.announced (h : Recorded w view) {d : Endpoint} (hd : d ∈ w.published) :
    ∃ n, d ∈ (view n).published ∧ d.id ∈ (view n).announced := by
  obtain ⟨n, hn⟩ := (h.published d).mp hd
  exact ⟨n, hn, (h.sound n).announced d hn⟩

theorem Recorded.published_iff (h : Recorded w view) (n : Nat) (d : Endpoint) :
    d ∈ w.published ↔ d ∈ (view n).published ∨ ∃ m, m ≠ n ∧ d ∈ (view m).published := by
  have hsplit := Function.exists_update_iff view (a := n) (b := view n) fun _ o => d ∈ o.published
  rw [Function.update_eq_self] at hsplit
  exact (h.published d).trans hsplit

theorem Recorded.unannounced (h : Recorded w view) (hfresh : w.newIds.Nodup)
    {id : String} (hid : id ∈ w.drawn n) (hn : id ∉ (view n).announced) (m : Nat) :
    id ∉ (view m).announced := by
  intro hm
  by_cases hmn : m = n
  · exact hn (hmn ▸ hm)
  · exact hmn (eq_of_mem_drawn hfresh (h.drawn hm) hid)

theorem Recorded.unpublished (h : Recorded w view) {id : String}
    (hid : ∀ m, id ∉ (view m).announced) :
    id ∉ w.published.map Endpoint.id := by
  intro hmem
  obtain ⟨d, hd, heq⟩ := List.mem_map.mp hmem
  obtain ⟨m, -, hm⟩ := h.announced hd
  exact hid m (heq ▸ hm)

theorem published_of_update {o : Outside O} {d : Endpoint}
    (ho : d ∈ o.published → d ∈ (view n).published) {m : Nat}
    (hm : d ∈ (Function.update view n o m).published) : d ∈ (view m).published := by
  by_cases hmn : m = n
  · subst hmn
    rw [Function.update_self] at hm
    exact ho hm
  · rwa [Function.update_of_ne hmn] at hm

theorem announced_update {o : Outside O} (ho : ∀ id ∈ (view n).announced, id ∈ o.announced)
    (m : Nat) {id : String} (hid : id ∈ (view m).announced) :
    id ∈ (Function.update view n o m).announced := by
  by_cases hmn : m = n
  · subst hmn
    rw [Function.update_self]
    exact ho id hid
  · rwa [Function.update_of_ne hmn]

/-- A change of one node is recorded as long as the directory follows it. -/
theorem Recorded.setNode (h : Recorded w view) (hn : w.nodes[n]? = some a) {o : Outside O}
    (hnodes : w'.nodes = (w.setNode n a').nodes) (hpeers : w'.peers = w.peers)
    (hdrawn : ∀ m, m ≠ n → w'.drawn m = w.drawn m) (hrecorded : a'.Recorded o (w'.drawn n))
    (hsound : o.Sound)
    (hpublished : ∀ d, d ∈ w'.published ↔ d ∈ o.published ∨ ∃ m, m ≠ n ∧ d ∈ (view m).published)
    (hids : (w'.published.map Endpoint.id).Nodup) : Recorded w' (Function.update view n o) where
  node := by
    rw [hnodes]
    refine forall_setNode hn (fun m b hm hmn => ?_) ?_
    · rw [Function.update_of_ne hmn, hdrawn m hmn]
      exact h.node m b hm
    · rw [Function.update_self]
      exact hrecorded
  sound := (Function.forall_update_iff view fun _ o => o.Sound).mpr ⟨hsound, fun m _ => h.sound m⟩
  absent m hm := by
    rw [hnodes, getElem?_setNode hn] at hm
    split at hm
    · cases hm
    · rename_i hne
      rw [Function.update_of_ne (Ne.symm hne)]
      exact h.absent m hm
  published d :=
    (hpublished d).trans (Function.exists_update_iff view fun _ o => d ∈ o.published).symm
  ids := hids
  peers p hp := by
    rw [hnodes, Federation.setNode, List.length_set]
    exact h.peers p (hpeers ▸ hp)

/-- The tasks fit the nodes: effects that wait are under way, those of one node in one task. -/
structure Scheduled (tasks : List (Task O)) (w : Federation O) : Prop where
  once : (dispatchers tasks).Nodup
  running : ∀ (n : Nat) (a : Node O), w.nodes[n]? = some a → (a.dispatching ↔ n ∈ dispatchers tasks)
  drained : ∀ (n : Nat) (a : Node O), w.nodes[n]? = some a → ¬ a.dispatching →
    a.registry.effects = []

/-- What is published is known where it is wanted or about to be told, and what is known is
published or about to be lost. -/
structure Informed (tasks : List (Task O)) (w : Federation O) (view : Nat → Outside O) : Prop where
  adding : ∀ p d, .tell p (.addEndpoint d) ∈ tasks → p ∈ w.peers ∧ d ∈ w.published
  removing : ∀ p d, .tell p (.removeEndpoint d) ∈ tasks →
    d.id ∉ w.published.map Endpoint.id ∧ ∃ n, d.id ∈ (view n).announced
  never : ∀ p, .tell p .clear ∉ tasks
  hears : ∀ (p : Nat) (a : Node O), w.nodes[p]? = some a → p ∈ w.peers →
    ∀ d ∈ w.published, a.registry.wants d →
    d ∈ a.registry.knownEndpoints ∨ .tell p (.addEndpoint d) ∈ tasks
  knows : ∀ (p : Nat) (a : Node O), w.nodes[p]? = some a → ∀ d ∈ a.registry.knownEndpoints,
    p ∈ w.peers ∧ a.registry.wants d ∧
    (d ∈ w.published ∨ ∃ e, .tell p (.removeEndpoint e) ∈ tasks ∧ e.id = d.id)

/-- Nothing is about to disappear. -/
structure Calm (tasks : List (Task O)) (w : Federation O) : Prop where
  effects : ∀ (n : Nat) (a : Node O), w.nodes[n]? = some a → ∀ e ∈ a.registry.effects, e.Adds
  tells : ∀ p op, .tell p op ∈ tasks → op.Adds

/-- The news of an endpoint comes before all else that its owner has to tell. -/
def Guarded (view : Nat → Outside O) : List (Task O) → Prop
  | [] => True
  | t :: tasks =>
    (∀ p d n, t = .tell p (.addEndpoint d) → d ∈ (view n).published → n ∈ dispatchers tasks) ∧
      Guarded view tasks

theorem Scheduled.tell {p : Nat} {op : Operation O} {tasks : List (Task O)}
    (h : Scheduled (.tell p op :: tasks) w) (hn : w.nodes[n]? = some a)
    (hnodes : w'.nodes = (w.setNode n a').nodes) (hdispatching : a'.dispatching) :
    Scheduled (if a.dispatching then tasks else .dispatch n :: tasks) w' := by
  have hn' := h.running n a hn
  rw [dispatchers_tell] at hn'
  have hother : ∀ m, m ≠ n →
    (m ∈ dispatchers (if a.dispatching then tasks else .dispatch n :: tasks) ↔
      m ∈ dispatchers tasks) := by
    intro m hmn
    split
    · exact .rfl
    · simp [hmn]
  have hself : n ∈ dispatchers (if a.dispatching then tasks else .dispatch n :: tasks) := by
    split
    · rename_i hd
      exact hn'.mp hd
    · simp
  refine ⟨?_, ?_, ?_⟩
  · split
    · exact h.once
    · rename_i hd
      exact List.nodup_cons.mpr ⟨fun hmem => hd (hn'.mpr hmem), h.once⟩
  · rw [hnodes]
    refine forall_setNode hn (fun m b hm hmn => ?_) ⟨fun _ => hself, fun _ => hdispatching⟩
    rw [hother m hmn]
    exact h.running m b hm
  · rw [hnodes]
    exact forall_setNode hn (fun m b hm _ => h.drained m b hm) fun hnot => absurd hdispatching hnot

theorem Scheduled.idle {tasks : List (Task O)} (h : Scheduled (.dispatch n :: tasks) w)
    (hn : w.nodes[n]? = some a) (he : a.registry.effects = []) :
    Scheduled tasks (w.setNode n { a with dispatching := false }) := by
  obtain ⟨hnot, honce⟩ := List.nodup_cons.mp h.once
  refine ⟨honce, forall_setNode hn (fun m b hm hmn => ?_) ?_,
    forall_setNode hn (fun m b hm _ => h.drained m b hm) ?_⟩
  · have hm' := h.running m b hm
    rwa [dispatchers_dispatch, List.mem_cons, or_iff_right hmn] at hm'
  · exact ⟨fun hf => by simp at hf, fun hmem => absurd hmem hnot⟩
  · exact fun _ => he

theorem Scheduled.effect {tasks front : List (Task O)} (h : Scheduled (.dispatch n :: tasks) w)
    (hn : w.nodes[n]? = some a) (hnodes : w'.nodes = (w.setNode n a').nodes)
    (hdispatching : a'.dispatching = a.dispatching) (hfront : ∀ t ∈ front, ∃ p op, t = .tell p op) :
    Scheduled (front ++ .dispatch n :: tasks) w' := by
  have hrunning : a'.dispatching := by
    rw [hdispatching]
    exact (h.running n a hn).mpr List.mem_cons_self
  refine ⟨?_, ?_, ?_⟩
  · rw [dispatchers_append_tells hfront]
    exact h.once
  · rw [hnodes, dispatchers_append_tells hfront]
    exact forall_setNode hn (fun m b hm _ => h.running m b hm)
      ⟨fun _ => List.mem_cons_self, fun _ => hrunning⟩
  · rw [hnodes]
    exact forall_setNode hn (fun m b hm _ => h.drained m b hm) fun hnot => absurd hrunning hnot

theorem Guarded.mem {tasks : List (Task O)} (h : Guarded view tasks) {p : Nat} {d : Endpoint}
    (ht : .tell p (.addEndpoint d) ∈ tasks) (hd : d ∈ (view n).published) :
    n ∈ dispatchers tasks := by
  induction tasks with
  | nil => cases ht
  | cons t tasks ih =>
    have hsub : ∀ m ∈ dispatchers tasks, m ∈ dispatchers (t :: tasks) := by
      intro m hm
      cases t with
      | tell p op => exact hm
      | dispatch k => exact List.mem_cons_of_mem _ hm
    rcases List.mem_cons.mp ht with heq | ht
    · exact hsub n (h.1 p d n heq.symm hd)
    · exact hsub n (ih h.2 ht)

/-- Tasks may come on top whose news are those of nodes further down. -/
theorem Guarded.append {front tasks : List (Task O)} (h : Guarded view tasks)
    (hfront : ∀ p d n, .tell p (.addEndpoint d) ∈ front → d ∈ (view n).published →
      n ∈ dispatchers tasks) :
    Guarded view (front ++ tasks) := by
  induction front with
  | nil => exact h
  | cons t front ih =>
    refine ⟨fun p d n ht hd => ?_, ih fun p d n ht => hfront p d n (List.mem_cons_of_mem _ ht)⟩
    change n ∈ dispatchers (front ++ tasks)
    rw [dispatchers_append]
    exact List.mem_append_right _ (hfront p d n (ht ▸ List.mem_cons_self) hd)

theorem Guarded.mono {tasks : List (Task O)} (h : Guarded view tasks)
    (hview : ∀ p d n, .tell p (.addEndpoint d) ∈ tasks → d ∈ (view' n).published →
      d ∈ (view n).published) :
    Guarded view' tasks := by
  induction tasks with
  | nil => trivial
  | cons t tasks ih =>
    refine ⟨fun p d n ht hd => h.1 p d n ht (hview p d n (ht ▸ List.mem_cons_self) hd),
      ih h.2 fun p d n ht => ?_⟩
    exact hview p d n (List.mem_cons_of_mem _ ht)

/-- An operation is taken by its node, which then knows what it is to know. -/
theorem Informed.tell {op : Operation O} {tasks : List (Task O)}
    (h : Informed (.tell n op :: tasks) w view) (hids : (w.published.map Endpoint.id).Nodup)
    (hn : w.nodes[n]? = some a) (hnodes : w'.nodes = (w.setNode n a').nodes)
    (hpeers : w'.peers = w.peers) (hpublished : w'.published = w.published)
    (hknown : a'.registry.knownEndpoints.Perm (a.registry.knownAfter op))
    (hwants : ∀ d, a'.registry.wants d = a.registry.wants d) : Informed tasks w' view := by
  have hop : op ≠ .clear := by
    rintro rfl
    exact h.never n List.mem_cons_self
  have hmem {d : Endpoint} :=
    hknown.mem_iff.trans (Registry.mem_knownAfter hop (r := a.registry) (d := d))
  have htail {m : Nat} {o : Operation O} (hm : m ≠ n) (ht : .tell m o ∈ Task.tell n op :: tasks) :
      .tell m o ∈ tasks := by
    rcases List.mem_cons.mp ht with heq | ht
    · cases heq
      exact absurd rfl hm
    · exact ht
  refine ⟨?_, ?_, ?_, ?_, ?_⟩
  · rw [hpeers, hpublished]
    exact fun p d ht => h.adding p d (List.mem_cons_of_mem _ ht)
  · rw [hpublished]
    exact fun p d ht => h.removing p d (List.mem_cons_of_mem _ ht)
  · exact fun p ht => h.never p (List.mem_cons_of_mem _ ht)
  · rw [hnodes, hpeers, hpublished]
    refine forall_setNode hn
      (fun m b hm hmn hp d hd hw => (h.hears m b hm hp d hd hw).imp_right (htail hmn)) ?_
    intro hp d hd hw
    rw [hwants] at hw
    rw [hmem]
    rcases h.hears n a hn hp d hd hw with hk | ht
    · refine .inl (.inl ⟨hk, ?_⟩)
      rintro e rfl heq
      exact (h.removing n e List.mem_cons_self).1 (heq ▸ List.mem_map_of_mem hd)
    · rcases List.mem_cons.mp ht with heq | ht
      · cases heq
        by_cases hsame : ∃ k ∈ a.registry.knownEndpoints, k.id = d.id
        · obtain ⟨k, hk, hid⟩ := hsame
          -- Who is known by this id is published, since nothing of this id is about to be lost.
          rcases (h.knows n a hn k hk).2.2 with hpub | ⟨e, ht, heq⟩
          · rw [← List.inj_on_of_nodup_map hids hpub hd hid]
            exact .inl (.inl ⟨hk, by simp⟩)
          · exact absurd (heq.trans hid ▸ List.mem_map_of_mem hd) (h.removing n e ht).1
        · refine .inl (.inr ⟨rfl, hw, fun k hk hid => hsame ⟨k, hk, hid⟩⟩)
      · exact .inr ht
  · rw [hnodes, hpeers, hpublished]
    refine forall_setNode hn (fun m b hm hmn d hd => ?_) ?_
    · obtain ⟨hp, hw, hor⟩ := h.knows m b hm d hd
      exact ⟨hp, hw, hor.imp_right fun ⟨e, ht, hid⟩ => ⟨e, htail hmn ht, hid⟩⟩
    · intro d hd
      rw [hwants]
      rcases hmem.mp hd with ⟨hk, hkeep⟩ | ⟨rfl, hw, -⟩
      · obtain ⟨hp, hw, hor⟩ := h.knows n a hn d hk
        refine ⟨hp, hw, hor.imp_right fun ⟨e, ht, hid⟩ => ⟨e, ?_, hid⟩⟩
        rcases List.mem_cons.mp ht with heq | ht
        · cases heq
          exact absurd hid.symm (hkeep e rfl)
        · exact ht
      · obtain ⟨hp, hpub⟩ := h.adding n d List.mem_cons_self
        exact ⟨hp, hw, .inl hpub⟩

theorem Informed.congr {tasks tasks' : List (Task O)} (h : Informed tasks w view)
    (htells : ∀ p op, .tell p op ∈ tasks' ↔ .tell p op ∈ tasks) : Informed tasks' w view where
  adding p d ht := h.adding p d ((htells p _).mp ht)
  removing p d ht := h.removing p d ((htells p _).mp ht)
  never p ht := h.never p ((htells p _).mp ht)
  hears p b hb hp d hd hw := (h.hears p b hb hp d hd hw).imp_right (htells p _).mpr
  knows p b hb d hd := by
    obtain ⟨hp, hw, hor⟩ := h.knows p b hb d hd
    exact ⟨hp, hw, hor.imp_right fun ⟨e, ht, hid⟩ => ⟨e, (htells p _).mpr ht, hid⟩⟩

theorem Informed.services {tasks front : List (Task O)} (h : Informed tasks w view)
    (hfront : ∀ p op, .tell p op ∈ front → (∃ object q, op = .addService object q) ∨ ∃ q,
      op = .removeService q) :
    Informed (front ++ tasks) w view where
  adding p d ht := by
    rcases List.mem_append.mp ht with ht | ht
    · simpa using hfront p _ ht
    · exact h.adding p d ht
  removing p d ht := by
    rcases List.mem_append.mp ht with ht | ht
    · simpa using hfront p _ ht
    · exact h.removing p d ht
  never p ht := by
    rcases List.mem_append.mp ht with ht | ht
    · simpa using hfront p _ ht
    · exact h.never p ht
  hears p b hb hp d hd hw := (h.hears p b hb hp d hd hw).imp_right (List.mem_append_right _)
  knows p b hb d hd := by
    obtain ⟨hp, hw, hor⟩ := h.knows p b hb d hd
    exact ⟨hp, hw, hor.imp_right fun ⟨e, ht, hid⟩ => ⟨e, List.mem_append_right _ ht, hid⟩⟩

theorem Informed.setNode {tasks : List (Task O)} (h : Informed tasks w view)
    (hn : w.nodes[n]? = some a) (hknown : a'.registry.knownEndpoints = a.registry.knownEndpoints)
    (hwants : ∀ d, a'.registry.wants d = a.registry.wants d) :
    Informed tasks (w.setNode n a') view where
  adding := h.adding
  removing := h.removing
  never := h.never
  hears := by
    refine forall_setNode hn (fun m b hm _ => h.hears m b hm) ?_
    simp only [hknown, hwants]
    exact h.hears n a hn
  knows := by
    refine forall_setNode hn (fun m b hm _ => h.knows m b hm) ?_
    simp only [hknown, hwants]
    exact h.knows n a hn

theorem Informed.mono {tasks : List (Task O)} (h : Informed tasks w view)
    (hnodes : w'.nodes = w.nodes) (hpeers : w'.peers = w.peers)
    (hpublished : w'.published = w.published)
    (hview : ∀ m id, id ∈ (view m).announced → id ∈ (view' m).announced) :
    Informed tasks w' view' where
  adding := by
    rw [hpeers, hpublished]
    exact h.adding
  removing p d ht := by
    obtain ⟨hnot, m, hm⟩ := h.removing p d ht
    exact ⟨hpublished ▸ hnot, m, hview m _ hm⟩
  never := h.never
  hears := by
    rw [hnodes, hpeers, hpublished]
    exact h.hears
  knows := by
    rw [hnodes, hpeers, hpublished]
    exact h.knows

theorem Informed.publish {tasks : List (Task O)} (h : Informed tasks w view) {d : Endpoint}
    (hnodes : w'.nodes = w.nodes) (hpeers : w'.peers = w.peers)
    (hpublished : ∀ e, e ∈ w'.published ↔ e = d ∨ e ∈ w.published)
    (hnew : ∀ m, d.id ∉ (view m).announced) :
    Informed (w.peers.map (fun p => .tell p (.addEndpoint d)) ++ tasks) w' view where
  adding p e ht := by
    rw [hpeers, hpublished]
    rcases List.mem_append.mp ht with ht | ht
    · obtain ⟨q, hq, heq⟩ := List.mem_map.mp ht
      cases heq
      exact ⟨hq, .inl rfl⟩
    · exact (h.adding p e ht).imp_right .inr
  removing p e ht := by
    rcases List.mem_append.mp ht with ht | ht
    · simp at ht
    · obtain ⟨hnot, m, hm⟩ := h.removing p e ht
      refine ⟨fun hmem => ?_, m, hm⟩
      obtain ⟨c, hc, hid⟩ := List.mem_map.mp hmem
      rcases (hpublished c).mp hc with rfl | hc
      · exact hnew m (hid ▸ hm)
      · exact hnot (hid ▸ List.mem_map_of_mem hc)
  never p ht := by
    rcases List.mem_append.mp ht with ht | ht
    · simp at ht
    · exact h.never p ht
  hears p b hb hp e he hw := by
    rcases (hpublished e).mp he with rfl | he
    · exact .inr (List.mem_append_left _ (List.mem_map.mpr ⟨p, hpeers ▸ hp, rfl⟩))
    · exact (h.hears p b (hnodes ▸ hb) (hpeers ▸ hp) e he hw).imp_right (List.mem_append_right _)
  knows p b hb e he := by
    obtain ⟨hp, hw, hor⟩ := h.knows p b (hnodes ▸ hb) e he
    refine ⟨hpeers ▸ hp, hw, hor.imp (fun he => (hpublished e).mpr (.inr he))
      fun ⟨c, ht, hid⟩ => ?_⟩
    exact ⟨c, List.mem_append_right _ ht, hid⟩

/-- The loss of an endpoint is told to all peers, when no news of it is on its way any more. -/
theorem Informed.retract {tasks : List (Task O)} (h : Informed tasks w view) {d : Endpoint}
    (hnodes : w'.nodes = w.nodes) (hpeers : w'.peers = w.peers)
    (hpublished : w'.published = w.published.filter (·.id != d.id))
    (hold : ∃ m, d.id ∈ (view m).announced)
    (hno : ∀ p e, .tell p (.addEndpoint e) ∈ tasks → e.id ≠ d.id) :
    Informed (w.peers.map (fun p => .tell p (.removeEndpoint d)) ++ tasks) w' view where
  adding p e ht := by
    rcases List.mem_append.mp ht with ht | ht
    · simp at ht
    · obtain ⟨hp, he⟩ := h.adding p e ht
      rw [hpeers, hpublished]
      exact ⟨hp, List.mem_filter.mpr ⟨he, by simpa using hno p e ht⟩⟩
  removing p e ht := by
    rw [hpublished]
    rcases List.mem_append.mp ht with ht | ht
    · obtain ⟨q, hq, heq⟩ := List.mem_map.mp ht
      cases heq
      exact ⟨by simp, hold⟩
    · obtain ⟨hnot, hann⟩ := h.removing p e ht
      exact ⟨fun hmem => hnot ((List.filter_sublist.map _).subset hmem), hann⟩
  never p ht := by
    rcases List.mem_append.mp ht with ht | ht
    · simp at ht
    · exact h.never p ht
  hears p b hb hp e he hw := by
    rw [hpublished] at he
    have hwas := h.hears p b (hnodes ▸ hb) (hpeers ▸ hp) e (List.mem_of_mem_filter he) hw
    exact hwas.imp_right (List.mem_append_right _)
  knows p b hb e he := by
    obtain ⟨hp, hw, hor⟩ := h.knows p b (hnodes ▸ hb) e he
    refine ⟨hpeers ▸ hp, hw, ?_⟩
    by_cases hid : e.id = d.id
    · exact .inr ⟨d, List.mem_append_left _ (List.mem_map.mpr ⟨p, hp, rfl⟩), hid.symm⟩
    · rw [hpublished]
      refine hor.imp (fun he => List.mem_filter.mpr ⟨he, by simpa using hid⟩) fun ⟨c, ht, hc⟩ => ?_
      exact ⟨c, List.mem_append_right _ ht, hc⟩

/-- Refuses nothing, and gives ids that the log does not hold. -/
def grantingAfter (log : List (Event .plain)) : Environment .plain :=
  { Environment.granting with
    freshId :=
      fun j =>
      .ofList (List.replicate ((log.filterMap Event.newId?).length + j.newIds.length + 1) 'i') }

end Federation

end RemoteServices
