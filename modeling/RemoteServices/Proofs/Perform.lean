import RemoteServices.Proofs.Replay

/-!
# Telling an administrator something

An administrator has its registry take what it is told and then do all that it can.  What holds of
every operation of a registry thus holds of the two together.
-/
namespace RemoteServices

variable {O : Objects}

/-- The effect makes something appear. -/
def Effect.Adds : Effect O → Prop
  | .publish _ => True
  | .register _ _ => True
  | _ => False

/-- The operation only makes something appear. -/
def Operation.Adds : Operation O → Prop
  | .addService _ _ => True
  | .addEndpoint _ => True
  | _ => False

namespace Session

theorem Tells.trans {s t u : Session O} (h : Tells s t) (h' : Tells t u) : Tells s u := by
  obtain ⟨calls, hjournal, hlearns⟩ := h
  obtain ⟨calls', hjournal', hlearns'⟩ := h'
  refine ⟨calls' ++ calls, by rw [hjournal', hjournal, List.append_assoc],
    fun o drawn ho hfresh => ?_⟩
  rw [Journal.newIds_append, List.append_assoc] at hfresh ⊢
  exact hlearns' o _ (hlearns o drawn ho (List.nodup_append.mp hfresh).2.1) hfresh

theorem matched_perform {s : Session O} (hmatched : s.registry.Matched)
    (env : Environment O) (op : Operation O) :
    (s.perform env op).registry.Matched :=
  matched_reconcile (matched_apply env op hmatched) env

section

variable {s : Session O} (hmatched : s.registry.Matched) (hdistinct : s.registry.Distinct)
  (env : Environment O) (op : Operation O)
include hmatched hdistinct

theorem distinct_perform : (s.perform env op).registry.Distinct :=
  distinct_apply (matched_apply env op hmatched)
    (distinct_apply hmatched hdistinct env op) env .reconcile

theorem knownEndpoints_perform :
    (s.perform env op).registry.knownEndpoints.Perm (s.registry.knownAfter op) :=
  (knownEndpoints_reconcile (matched_apply env op hmatched)
    (distinct_apply hmatched hdistinct env op) env).trans
    (knownEndpoints_apply hmatched hdistinct env op)

theorem wants_perform (d : Endpoint) : (s.perform env op).registry.wants d = s.registry.wants d :=
  (wants_apply (matched_apply env op hmatched)
    (distinct_apply hmatched hdistinct env op) env .reconcile d).trans
    (wants_apply hmatched hdistinct env op d)

theorem tells_perform : Tells s (s.perform env op) :=
  (tells_apply hmatched hdistinct env op).trans
    (tells_apply (matched_apply env op hmatched)
      (distinct_apply hmatched hdistinct env op) env .reconcile)

/-- A pass makes exports and imports appear, and nothing else. -/
theorem adds_reconcile {e : Effect O} (he : e ∈ (s.reconcile env).registry.effects) :
    e ∈ s.registry.effects ∨ e.Adds := by
  obtain ⟨created, _, _, _, made, _, _, _, heq, -, -⟩ := reconcile_eq hmatched hdistinct env
  rw [heq] at he
  change e ∈ (s.registry.effects ++ created.map fun x => .publish x.description) ++
    made.map fun i => .register i.description i.proxy at he
  rcases List.mem_append.mp he with he | he
  · rcases List.mem_append.mp he with he | he
    · exact .inl he
    · obtain ⟨x, -, rfl⟩ := List.mem_map.mp he
      exact .inr trivial
  · obtain ⟨i, -, rfl⟩ := List.mem_map.mp he
    exact .inr trivial

theorem adds_perform {op : Operation O} (hop : op.Adds) {e : Effect O}
    (he : e ∈ (s.perform env op).registry.effects) : e ∈ s.registry.effects ∨ e.Adds := by
  have hsame : (s.apply env op).registry.effects = s.registry.effects := by
    cases op with
    | addService object p =>
      obtain ⟨services, queue, heq⟩ := s.registry.addService_eq object p
      rw [apply, modify, heq]
    | addEndpoint d =>
      obtain ⟨books, queue, heq⟩ := s.registry.addEndpoint_eq d
      rw [apply, modify, heq]
    | _ => cases hop
  rw [← hsame]
  exact adds_reconcile (matched_apply env op hmatched)
    (distinct_apply hmatched hdistinct env op) env he

end

end Session

end RemoteServices
