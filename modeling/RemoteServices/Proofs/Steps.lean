import RemoteServices.Federation
import Mathlib.Data.List.Nodup

/-!
# The steps of a federation

What is under way is a stack of tasks.  The lemmas here say what the topmost one does, each in the
terms of the one node that it concerns; the log only grows.
-/
namespace RemoteServices

variable {O : Objects}

/-- The id that an event gave to a new endpoint. -/
def Event.newId? : Event O → Option String
  | .call _ c => c.newId?
  | .effect _ _ => none

/-- The id that an event gave to a new endpoint of a node. -/
def Event.drawnBy? (n : Nat) : Event O → Option String
  | .call m c => if m = n then c.newId? else none
  | .effect _ _ => none

/-- The nodes agree but for their spaces and bridges. -/
structure Node.Alike (a b : Node O) : Prop where
  registry : b.registry = a.registry
  dispatching : b.dispatching = a.dispatching
  shares : b.shares = a.shares
  administration : b.administration = a.administration

def Node.withEffects (a : Node O) (es : List (Effect O)) : Node O :=
  { a with registry := { a.registry with effects := es } }

def ServiceSpace.tell (s : ServiceSpace O.Proxy) : Effect O → ServiceSpace O.Proxy
  | .register d proxy => s.register d.id d.interface proxy d.properties
  | .unregister endpointId => s.unregister endpointId
  | _ => s

theorem Node.bridgeProxy_spec (node : Node O) (d : Endpoint) :
    node.Alike (node.bridgeProxy d).1 ∧ (node.bridgeProxy d).1.space = node.space ∧
      ∀ op ∈ (node.bridgeProxy d).2, ∃ object p, op = .addService object p := by
  rw [bridgeProxy]
  split
  · exact ⟨⟨rfl, rfl, rfl, rfl⟩, rfl, by simp⟩
  · split
    · exact ⟨⟨rfl, rfl, rfl, rfl⟩, rfl, by simp⟩
    · exact ⟨⟨rfl, rfl, rfl, rfl⟩, rfl, by simp⟩

theorem Node.unbridgeProxy_spec (node : Node O) (endpointId : String) :
    node.Alike (node.unbridgeProxy endpointId).1 ∧
    (node.unbridgeProxy endpointId).1.space = node.space ∧
      ∀ op ∈ (node.unbridgeProxy endpointId).2, ∃ p, op = .removeService p := by
  rw [unbridgeProxy]
  split
  · exact ⟨⟨rfl, rfl, rfl, rfl⟩, rfl, by simp⟩
  · split
    · exact ⟨⟨rfl, rfl, rfl, rfl⟩, rfl, by simp⟩
    · exact ⟨⟨rfl, rfl, rfl, rfl⟩, rfl, by simp⟩

namespace Federation

/-- All ids that were given to new endpoints. -/
def newIds (w : Federation O) : List String := w.log.filterMap Event.newId?

def drawn (w : Federation O) (n : Nat) : List String := w.log.filterMap (Event.drawnBy? n)

def setNode (w : Federation O) (n : Nat) (node : Node O) : Federation O :=
  { w with nodes := w.nodes.set n node }

theorem getElem?_setNode {w : Federation O} {n : Nat} {node : Node O} (hn : w.nodes[n]? = some node)
    (node' : Node O) (m : Nat) :
    (w.setNode n node').nodes[m]? = if n = m then some node' else w.nodes[m]? := by
  have hlt : n < w.nodes.length := (List.getElem?_eq_some_iff.mp hn).1
  rw [setNode, List.getElem?_set, if_pos hlt]

theorem getElem?_setNode_self {w : Federation O} {n : Nat} {node : Node O}
    (hn : w.nodes[n]? = some node) (node' : Node O) :
    (w.setNode n node').nodes[n]? = some node' := by
  rw [getElem?_setNode hn, if_pos rfl]

theorem modifyNode_eq {w : Federation O} {n : Nat} {node : Node O} (hn : w.nodes[n]? = some node)
    (f : Node O → Node O) : w.modifyNode n f = w.setNode n (f node) := by
  have hnodes : w.nodes.modify n f = w.nodes.set n (f node) := by
    refine List.ext_getElem? fun m => ?_
    have hset := getElem?_setNode hn (f node) m
    rw [setNode] at hset
    rw [hset, List.getElem?_modify]
    by_cases hm : n = m
    · subst hm
      simp [hn]
    · simp [hm]
  rw [modifyNode, setNode, hnodes]

/-- What holds of every node holds after a change of one of them as long as it holds of that one. -/
theorem forall_setNode {w : Federation O} {n : Nat} {node : Node O} (hn : w.nodes[n]? = some node)
    {node' : Node O} {P : Nat → Node O → Prop} (hP : ∀ m a, w.nodes[m]? = some a → m ≠ n → P m a)
    (hP' : P n node') : ∀ m a, (w.setNode n node').nodes[m]? = some a → P m a := by
  intro m a ha
  rw [getElem?_setNode hn] at ha
  split at ha
  · rename_i heq
    subst heq
    cases ha
    exact hP'
  · rename_i hne
    exact hP m a ha (Ne.symm hne)

theorem forall_join {w : Federation O} {new : Node O} {P : Nat → Node O → Prop}
    (hP : ∀ m a, w.nodes[m]? = some a → P m a) (hnew : P w.nodes.length new) :
    ∀ m a, (w.join new).nodes[m]? = some a → P m a := by
  intro m a ha
  rw [join, List.getElem?_append] at ha
  split at ha
  · exact hP m a ha
  · rename_i hlt
    have hm : m = w.nodes.length := by
      have hlength := (List.getElem?_eq_some_iff.mp ha).1
      rw [List.length_singleton] at hlength
      omega
    subst hm
    rw [Nat.sub_self] at ha
    cases ha
    exact hnew

theorem getElem?_of_join {w : Federation O} {new : Node O} {m : Nat}
    (hm : (w.join new).nodes[m]? = none) :
    w.nodes[m]? = none := by
  have hle := List.getElem?_eq_none_iff.mp hm
  rw [join, List.length_append] at hle
  exact List.getElem?_eq_none_iff.mpr (by omega)

private theorem filterMap_drawnBy_sublist (n : Nat) (log : List (Event O)) :
    (log.filterMap (Event.drawnBy? n)).Sublist (log.filterMap Event.newId?) := by
  induction log with
  | nil => exact .slnil
  | cons e es ih =>
    cases e with
    | effect m e => exact ih
    | call m c =>
      simp only [List.filterMap_cons, Event.drawnBy?, Event.newId?]
      by_cases hm : m = n
      · rw [if_pos hm]
        cases c.newId? with
        | none => exact ih
        | some id => exact ih.cons_cons id
      · rw [if_neg hm]
        cases c.newId? with
        | none => exact ih
        | some id => exact ih.cons id

theorem drawn_sublist (w : Federation O) (n : Nat) : (w.drawn n).Sublist w.newIds :=
  filterMap_drawnBy_sublist n w.log

theorem eq_of_mem_drawn {w : Federation O} (hfresh : w.newIds.Nodup) {n m : Nat} {id : String}
    (hn : id ∈ w.drawn n) (hm : id ∈ w.drawn m) : n = m := by
  rw [newIds] at hfresh
  rw [drawn] at hn hm
  generalize w.log = log at hfresh hn hm
  induction log with
  | nil => cases hn
  | cons e es ih =>
    cases e with
    | effect k e => exact ih hfresh hn hm
    | call k c =>
      cases hc : c.newId? with
      | none =>
        simp only [List.filterMap_cons, Event.drawnBy?, Event.newId?, hc, ite_self] at hfresh hn hm
        exact ih hfresh hn hm
      | some first =>
        have hrest {a : Nat} (ha : id ∈ (Event.call k c :: es).filterMap (Event.drawnBy? a)) :
            (k = a ∧ id = first) ∨ id ∈ es.filterMap (Event.drawnBy? a) := by
          simp only [List.filterMap_cons, Event.drawnBy?, hc] at ha
          by_cases hka : k = a
          · rw [if_pos hka] at ha
            exact (List.mem_cons.mp ha).imp (fun h => ⟨hka, h⟩) fun h => h
          · rw [if_neg hka] at ha
            exact .inr ha
        simp only [List.filterMap_cons, Event.newId?, hc] at hfresh
        obtain ⟨hnew, hfresh⟩ := List.nodup_cons.mp hfresh
        have hold {a : Nat} (ha : first ∈ es.filterMap (Event.drawnBy? a)) : False :=
          hnew ((filterMap_drawnBy_sublist a es).subset ha)
        rcases hrest hn with ⟨hkn, rfl⟩ | hn'
        · rcases hrest hm with ⟨hkm, -⟩ | hm'
          · exact hkn.symm.trans hkm
          · exact (hold hm').elim
        · rcases hrest hm with ⟨-, rfl⟩ | hm'
          · exact (hold hn').elim
          · exact ih hfresh hn' hm'

theorem drawn_calls {w w' : Federation O} {n : Nat} {j : Journal}
    (hlog : w'.log = j.map (.call n) ++ w.log) (m : Nat) :
    w'.drawn m = (if n = m then j.newIds else []) ++ w.drawn m := by
  rw [drawn, hlog, List.filterMap_append, ← drawn, List.filterMap_map]
  congr 1
  split
  · rename_i heq
    refine List.filterMap_congr fun c _ => ?_
    simp [Event.drawnBy?, heq]
  · rename_i hne
    refine List.filterMap_eq_nil_iff.mpr fun c _ => ?_
    simp [Event.drawnBy?, hne]

variable (envs : Nat → List (Event O) → Environment O)

theorem step_tell {w : Federation O} {n : Nat} {node : Node O} (hn : w.nodes[n]? = some node)
    (op : Operation O) (tasks : List (Task O)) :
    step envs (.tell n op :: tasks, w) =
      (if node.dispatching then tasks else .dispatch n :: tasks,
        { w.setNode n { node with
            registry := (Session.perform (envs n w.log) op (.ofRegistry node.registry)).registry
            dispatching := true } with
          log := (Session.perform (envs n w.log) op (.ofRegistry node.registry)).journal.map
            (.call n) ++ w.log }) := by
  generalize hs : Session.perform (envs n w.log) op (.ofRegistry node.registry) = s
  simp only [step, hn, onRegistry, hs]
  cases hd : node.dispatching with
  | true => simp [modifyNode_eq hn, setNode, hd]
  | false =>
    have hboth :=
      modifyNode_eq hn ((fun a => { a with dispatching := true }) ∘ fun a =>
      { a with registry := s.registry })
    rw [modifyNode, ← List.modify_modify_eq] at hboth
    simp only [Bool.false_eq_true, if_false, modifyNode, Prod.mk.injEq, true_and]
    exact congrArg
      (fun v : Federation O => { v with log := s.journal.map (Event.call n) ++ w.log }) hboth

theorem step_idle {w : Federation O} {n : Nat} {node : Node O} (hn : w.nodes[n]? = some node)
    (he : node.registry.effects = []) (tasks : List (Task O)) :
    step envs
      (.dispatch n :: tasks, w) = (tasks, w.setNode n { node with dispatching := false }) := by
  simp [step, hn, Registry.takeEffect, he, modifyNode_eq hn]

theorem step_effect {w : Federation O} {n : Nat} {node : Node O} (hn : w.nodes[n]? = some node)
    {e : Effect O} {es : List (Effect O)} (he : node.registry.effects = e :: es)
    (tasks : List (Task O)) :
    step envs (.dispatch n :: tasks, w) =
      (((w.setNode n (node.withEffects es)).deliver n e).1 ++ .dispatch n :: tasks,
        ((w.setNode n (node.withEffects es)).deliver n e).2) := by
  simp [step, hn, Registry.takeEffect, he, modifyNode_eq hn, Node.withEffects]

theorem deliver_publish {w : Federation O} {n : Nat} {node : Node O} (hn : w.nodes[n]? = some node)
    (hshares : node.shares) (d : Endpoint) :
    w.deliver n (.publish d) = (w.livePeers.map fun p => .tell p (.addEndpoint d),
      { w with
        published := insertEndpoint d w.published, log := .effect n (.publish d) :: w.log }) := by
  simp [deliver, publish, hn, hshares, livePeers]

theorem deliver_retract {w : Federation O} {n : Nat} {node : Node O} (hn : w.nodes[n]? = some node)
    (hshares : node.shares) (d : Endpoint) :
    w.deliver n (.retract d) = (w.livePeers.map fun p => .tell p (.removeEndpoint d),
      { w with
        published := w.published.filter (·.id != d.id), log :=
        .effect n (.retract d) :: w.log }) := by
  simp [deliver, retract, hn, hshares, livePeers]

theorem deliver_register {w : Federation O} {n : Nat} {node : Node O} (hn : w.nodes[n]? = some node)
    (d : Endpoint) (proxy : O.Proxy) :
    ∃ (node' : Node O) (ops : List (Operation O)), node.Alike node' ∧
      node'.space = node.space.tell (.register d proxy) ∧
      (∀ op ∈ ops, ∃ object p, op = .addService object p) ∧
      w.deliver n (.register d proxy) =
        (ops.map (.tell n),
          { w.setNode n node' with log := .effect n (.register d proxy) :: w.log }) := by
  obtain ⟨halike, hspace, hops⟩ :=
    Node.bridgeProxy_spec
      { node with space := node.space.register d.id d.interface proxy d.properties } d
  refine ⟨_, _, ⟨halike.registry, halike.dispatching, halike.shares, halike.administration⟩,
    hspace, hops, ?_⟩
  have hset :=
    modifyNode_eq (w := { w with log := .effect n (.register d proxy) :: w.log }) hn fun _ =>
    ({ node with space := node.space.register d.id d.interface proxy d.properties }.bridgeProxy d).1
  simp only [deliver, hn, hset]
  rfl

theorem deliver_unregister {w : Federation O} {n : Nat} {node : Node O}
    (hn : w.nodes[n]? = some node) (endpointId : String) :
    ∃ (node' : Node O) (ops : List (Operation O)), node.Alike node' ∧
      node'.space = node.space.tell (.unregister endpointId) ∧
      (∀ op ∈ ops, ∃ p, op = .removeService p) ∧
      w.deliver n (.unregister endpointId) =
        (ops.map (.tell n),
          { w.setNode n node' with log := .effect n (.unregister endpointId) :: w.log }) := by
  obtain ⟨halike, hspace, hops⟩ :=
    { node with space := node.space.unregister endpointId }.unbridgeProxy_spec endpointId
  refine ⟨_, _, ⟨halike.registry, halike.dispatching, halike.shares, halike.administration⟩,
    hspace, hops, ?_⟩
  have hset :=
    modifyNode_eq (w := { w with log := .effect n (.unregister endpointId) :: w.log }) hn fun _ =>
    ({ node with space := node.space.unregister endpointId }.unbridgeProxy endpointId).1
  simp only [deliver, hn, hset]
  rfl

theorem log_deliver (w : Federation O) (n : Nat) (e : Effect O) :
    (w.deliver n e).2.log = .effect n e :: w.log := by
  cases e with
  | publish d =>
    rw [deliver, publish]
    split <;> rfl
  | retract d =>
    rw [deliver, retract]
    split <;> rfl
  | register d proxy =>
    rw [deliver]
    dsimp only
    split <;> rfl
  | unregister endpointId =>
    rw [deliver]
    dsimp only
    split <;> rfl

theorem log_step (c : List (Task O) × Federation O) :
    ∃ es, (step envs c).2.log = es ++ c.2.log := by
  obtain ⟨tasks, w⟩ := c
  match tasks with
  | [] => exact ⟨[], rfl⟩
  | .tell n op :: tasks =>
    cases hn : w.nodes[n]? with
    | none => exact ⟨[], by simp [step, hn]⟩
    | some node =>
      rw [step_tell envs hn]
      exact ⟨_, rfl⟩
  | .dispatch n :: tasks =>
    cases hn : w.nodes[n]? with
    | none => exact ⟨[], by simp [step, hn, modifyNode]⟩
    | some node =>
      cases he : node.registry.effects with
      | nil =>
        rw [step_idle envs hn he]
        exact ⟨[], rfl⟩
      | cons e es =>
        rw [step_effect envs hn he, log_deliver]
        exact ⟨[.effect n e], rfl⟩

/-- What every step on the way to `w'` keeps holds there. -/
theorem run_induct {P : List (Task O) × Federation O → Prop} {w' : Federation O}
    (hstep : ∀ c k, run envs k (step envs c) = some w' → P c → P (step envs c)) {fuel : Nat}
    {c : List (Task O) × Federation O} (h : run envs fuel c = some w') (hc : P c) : P ([], w') := by
  induction fuel generalizing c with
  | zero =>
    obtain ⟨tasks, w⟩ := c
    cases tasks with
    | nil =>
      cases h
      exact hc
    | cons t tasks => cases h
  | succ fuel ih =>
    obtain ⟨tasks, w⟩ := c
    cases tasks with
    | nil =>
      cases h
      exact hc
    | cons t tasks => exact ih h (hstep _ fuel h hc)

theorem log_run {fuel : Nat} {c : List (Task O) × Federation O} {w : Federation O}
    (h : run envs fuel c = some w) : ∃ es, w.log = es ++ c.2.log := by
  refine run_induct envs (P := fun d => ∃ es, d.2.log = es ++ c.2.log)
    (fun d _ _ hd => ?_) h ⟨[], rfl⟩
  obtain ⟨es, hes⟩ := hd
  obtain ⟨fs, hfs⟩ := log_step envs d
  exact ⟨fs ++ es, by rw [hfs, hes, List.append_assoc]⟩

theorem newIds_nodup {w w' : Federation O} (hlog : ∃ es, w'.log = es ++ w.log)
    (h : w'.newIds.Nodup) :
    w.newIds.Nodup := by
  obtain ⟨es, hes⟩ := hlog
  rw [newIds, hes, List.filterMap_append] at h
  exact (List.nodup_append.mp h).2.1

end Federation

end RemoteServices
