import RemoteServices.Proofs.Known

/-!
# The catalogue of known endpoints

Endpoints wander between the imports and the queue, with factories that come, go and refuse.  Which
endpoints there are is told by the operations alone: `catalogue` reads it off them, and
`Registry.Told.catalogue_agrees` says that a registry holds just these, each once and as it was
announced.
-/
namespace RemoteServices

variable {O : Objects}

/-- The known endpoints by their ids, when the registry of a process is told one more thing. -/
def cataloguing (frameworkUuid : String) (importLocalEndpoints : Bool) (t : Table String Endpoint) :
    Operation O → Table String Endpoint
  | .addEndpoint d =>
    if (importLocalEndpoints || d.frameworkUuid != frameworkUuid) && ! t.contains d.id then
      t.insert d.id d else t
  | .removeEndpoint d => t.erase d.id
  | .clear => ∅
  | _ => t

/-- The endpoints that are known after these operations, by their ids. -/
def catalogue (frameworkUuid : String) (importLocalEndpoints : Bool) (ops : List (Operation O)) :
    Table String Endpoint :=
  ops.foldl (cataloguing frameworkUuid importLocalEndpoints) ∅

namespace Registry

/-- The table lists the known endpoints. -/
def Lists (t : Table String Endpoint) (r : Registry O) : Prop :=
  ∀ (id : String) (d : Endpoint), t.get? id = some d ↔ d ∈ r.knownEndpoints ∧ d.id = id

variable {t : Table String Endpoint} {r : Registry O}

theorem Lists.contains (h : r.Lists t) (id : String) :
    t.contains id = r.knownEndpoints.any (·.id == id) := by
  rw [Bool.eq_iff_iff, Table.contains, Option.isSome_iff_exists, List.any_eq_true]
  simp only [beq_iff_eq]
  exact exists_congr (h id)

/-- The table keeps up with what the registry is told. -/
theorem Lists.apply {s : Session O} (h : s.registry.Lists t) (hmatched : s.registry.Matched)
    (hdistinct : s.registry.Distinct) (env : Environment O) (op : Operation O) :
    (s.apply env op).registry.Lists
      (cataloguing s.registry.frameworkUuid s.registry.importLocalEndpoints t op) := by
  intro id d
  rw [(Session.knownEndpoints_apply hmatched hdistinct env op).mem_iff]
  cases op with
  | addEndpoint e =>
    rw [cataloguing, knownAfter, wants, h.contains]
    split
    · rename_i hnew
      simp only [Bool.and_eq_true, Bool.not_eq_true', List.any_eq_false, beq_iff_eq] at hnew
      rw [Table.get?_insert, List.mem_append, List.mem_singleton]
      split
      · rename_i hid
        constructor
        · rintro ⟨⟩
          exact ⟨.inr rfl, hid.symm⟩
        · rintro ⟨hd | rfl, hd'⟩
          · exact absurd (hd'.trans hid) (hnew.2 d hd)
          · rfl
      · rename_i hid
        rw [h]
        refine and_congr_left fun hd => (or_iff_left ?_).symm
        rintro rfl
        exact hid hd.symm
    · exact h id d
  | removeEndpoint e =>
    simp only [cataloguing, knownAfter, Table.get?_erase, List.mem_filter, bne_iff_ne]
    split
    · rename_i hid
      simp only [reduceCtorEq, false_iff]
      rintro ⟨⟨-, hne⟩, hd⟩
      exact hne (hd.trans hid)
    · rename_i hid
      rw [h]
      exact and_congr_left fun hd => (and_iff_left fun heq => hid (hd.symm.trans heq)).symm
  | clear => simp [knownAfter, cataloguing]
  | _ => exact h id d

namespace Told

variable {P : Environment O → Prop} {frameworkUuid : String} {importLocalEndpoints : Bool}
  {ops : List (Operation O)}

theorem lists (h : r.Told P frameworkUuid importLocalEndpoints ops) :
    r.Lists (catalogue frameworkUuid importLocalEndpoints ops) := by
  induction h with
  | empty => simp [Lists, catalogue, knownEndpoints, Registry.empty]
  | @apply env _ op _ _ h ih =>
    have hnext := ih.apply h.reachable.matched h.reachable.distinct env op
    rw [h.identity.1, h.identity.2] at hnext
    rw [catalogue, List.foldl_concat]
    exact hnext
  | takeEffect _ he ih =>
    rw [(takeEffect_eq_some.mp he).2]
    exact ih

/-- Whatever factories and transport answer, a registry knows just the endpoints that the operations
alone say: each of them is imported or waits, once and not both, and it is as it was announced. -/
theorem catalogue_agrees (h : r.Told P frameworkUuid importLocalEndpoints ops) :
    (∀ id, (r.imports.map Import.endpointId).count id + (r.toBeImported.map Endpoint.id).count id =
      if (catalogue frameworkUuid importLocalEndpoints ops).contains id then 1 else 0) ∧
    ∀ d, (d ∈ r.imports.map Import.description ∨ d ∈ r.toBeImported) ↔
      (catalogue frameworkUuid importLocalEndpoints ops).get? d.id = some d := by
  have hlists := h.lists
  refine ⟨fun id => ?_, fun d => ?_⟩
  · have hcount : (r.imports.map Import.endpointId).count id +
      (r.toBeImported.map Endpoint.id).count id =
        (r.knownEndpoints.map Endpoint.id).count id := by
      rw [knownEndpoints, List.map_append, List.count_append, List.map_map]
      rfl
    have hmem : id ∈ r.knownEndpoints.map Endpoint.id ↔
        (catalogue frameworkUuid importLocalEndpoints ops).contains id := by
      simp [hlists.contains, List.mem_map]
    rw [hcount, h.reachable.distinct.count]
    simp only [hmem]
  · rw [← List.mem_append, ← knownEndpoints, hlists, and_iff_left rfl]

/-- A factory takes the place of another, so what that one imported is imported anew; the proxies of
`B` are refused.  An endpoint comes a second time with other properties, one is the registry's own,
and one disappears under an interface that it does not have. -/
theorem catalogue_agrees_replaced :
    ∃ (ops : List (Operation .plain)) (r : Registry .plain),
      r.Told (fun _ => True) "here" false ops ∧
      ops.length = 12 ∧ r.imports.map Import.endpointId = ["one"] ∧
      r.toBeImported.map Endpoint.id = ["two"] ∧
      ∀ d, (d ∈ r.imports.map Import.description ∨ d ∈ r.toBeImported) ↔
        (catalogue "here" false ops).get? d.id = some d := by
  let env : Environment .plain := { Environment.granting with
    proxy := fun _ f _ => if f.serviceName = "B" then .error "refused" else .ok () }
  let announced (frameworkUuid id interface : String) : Endpoint :=
    .make id 7 frameworkUuid interface ∅
  let ops : List (Operation .plain) :=
    [.addImportFactory ⟨"f", "A"⟩ ∅, .addEndpoint (announced "there" "one" "A"), .reconcile,
      .addEndpoint (.make "one" 7 "there" "A" (.ofList [("other", "")])),
      .addImportFactory ⟨"g", "A"⟩ ∅,
    .addImportFactory ⟨"h", "B"⟩ ∅, .addEndpoint (announced "there" "two" "B"),
    .addEndpoint (announced "here" "own" "A"), .addEndpoint (announced "there" "three" "A"),
    .reconcile, .removeEndpoint (announced "there" "three" "B"), .reconcile]
  have htold := Told.of_run (fun _ => True) "here" false env trivial ops
  obtain ⟨-, hknown⟩ := htold.catalogue_agrees
  exact ⟨ops, _, htold, rfl, by decide +kernel, by decide +kernel, hknown⟩

end Told

end Registry

end RemoteServices
