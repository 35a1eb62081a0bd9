import RemoteServices.Proofs.Tracking
import RemoteServices.Proofs.Turnover

/-!
# What is removed stays removed

Services come back into the queue of exports from several sides: after a pass that failed, and when
a factory goes or is replaced. All of them ask whether the service is tracked, and only a service
that is added is.  So nothing that comes after a removal exports the service again:
`Registry.Reachable.removal_final`.
-/
namespace RemoteServices

variable {O : Objects}

/-- A service of this number is to be added. -/
def Operation.AddsService (serviceId : ServiceId) : Operation O → Prop
  | .addService _ p => p.int64? Key.serviceId = some serviceId
  | _ => False

theorem Table.erase_eq_self {K V : Type} [DecidableEq K] {t : Table K V} {key : K}
    (h : t.get? key = none) :
    t.erase key = t := by
  have hkeys : ∀ e ∈ t.entries, e.1 ≠ key := by
    intro e he heq
    simpa [heq] using List.lookup_eq_none_iff.mp h e he
  rw [Table.erase, List.filter_eq_self.mpr (by simpa using hkeys)]

namespace Registry

/-- Nothing of the service is exported, and it is not tracked. -/
structure Gone (serviceId : ServiceId) (r : Registry O) : Prop where
  unexported : ∀ e ∈ r.exports, e.serviceId ≠ serviceId
  untracked : r.services.get? serviceId = none

theorem findHandler_eq_none {r : Registry O} {serviceId : ServiceId}
    (h : ∀ e ∈ r.exports, e.serviceId ≠ serviceId) (interface : String) :
    r.findHandler serviceId interface = none := by
  have hnone : r.exports.filter (·.serviceId == serviceId) = [] :=
    List.filter_eq_nil_iff.mpr (by simpa using h)
  rw [findHandler, hnone]

theorem exportableId?_eq_some {p : Properties} {serviceId : ServiceId}
    (h : exportableId? p = some serviceId) :
    p.int64? Key.serviceId = some serviceId := by
  rw [exportableId?, Option.ite_none_right_eq_some] at h
  exact h.2

end Registry

namespace Session

open Registry

variable {s : Session O} {serviceId : ServiceId}

theorem untracked_apply (hmatched : s.registry.Matched) (hdistinct : s.registry.Distinct)
    (env : Environment O) {op : Operation O} (hop : ¬ op.AddsService serviceId)
    (h : s.registry.services.get? serviceId = none) :
    (s.apply env op).registry.services.get? serviceId = none := by
  have htracks := tracks_apply hmatched hdistinct env op serviceId
  generalize (s.apply env op).registry.services.get? serviceId = after at htracks ⊢
  cases htracks with
  | unchanged => exact h
  | added hadds hid =>
    subst hadds
    exact absurd (exportableId?_eq_some hid) hop
  | removed => rfl
  | forgotten => rfl

/-- Without being added, a service that is gone stays gone, and nothing of it is published. -/
theorem gone_apply (hmatched : s.registry.Matched) (hdistinct : s.registry.Distinct)
    (env : Environment O) {op : Operation O} (hop : ¬ op.AddsService serviceId)
    (h : s.registry.Gone serviceId) :
    (s.apply env op).registry.Gone serviceId ∧
      ∃ queued, (s.apply env op).registry.effects = s.registry.effects ++ queued ∧
        ∀ d, .publish d ∈ queued → d.serviceId ≠ serviceId := by
  obtain ⟨t, hturns⟩ := turns_apply hmatched hdistinct env op
  have hcreated : ∀ e ∈ t.created, e.serviceId ≠ serviceId ∧
      e.description.serviceId = e.serviceId := by
    intro e he
    obtain ⟨service, hservice, -, hmade⟩ := hturns.created e he
    refine ⟨?_, hmade.description_serviceId⟩
    rintro rfl
    rw [h.untracked] at hservice
    cases hservice
  refine ⟨⟨fun e he => ?_, untracked_apply hmatched hdistinct env hop h.untracked⟩, t.effects,
    hturns.effects, fun d hd => ?_⟩
  · rw [hturns.exports] at he
    rcases List.mem_append.mp he with he | he
    · exact h.unexported e (List.mem_of_mem_filter he)
    · exact (hcreated e he).1
  · have hd : d ∈ t.created.map Export.description := by simpa [Turnover.effects] using hd
    obtain ⟨e, he, rfl⟩ := List.mem_map.mp hd
    rw [(hcreated e he).2]
    exact (hcreated e he).1

theorem Becomes.gone {s' : Session O} {told : List (Effect O)}
    (h : s.Becomes (fun op => ¬ op.AddsService serviceId) s' told) (hs : s.registry.Reachable)
    (hgone : s.registry.Gone serviceId) :
    s'.registry.Gone serviceId ∧ ∃ queued,
      told ++ s'.registry.effects = s.registry.effects ++ queued ∧
      ∀ d, .publish d ∈ queued → d.serviceId ≠ serviceId := by
  induction h with
  | refl => exact ⟨hgone, [], by simp, by simp⟩
  | apply env hop h ih =>
    obtain ⟨hgone', queued, heffects, hqueued⟩ := ih
    have hreachable := h.reachable hs
    obtain ⟨hnext, more, hmore, hnew⟩ :=
      gone_apply hreachable.matched hreachable.distinct env hop hgone'
    refine ⟨hnext, queued ++ more, by rw [hmore, ← List.append_assoc, heffects, List.append_assoc],
      fun d hd => ?_⟩
    rcases List.mem_append.mp hd with hd | hd
    · exact hqueued d hd
    · exact hnew d hd
  | takeEffect h he ih =>
    obtain ⟨hgone', queued, heffects, hqueued⟩ := ih
    obtain ⟨hfirst, hr⟩ := takeEffect_eq_some.mp he
    rw [hr]
    refine ⟨⟨hgone'.unexported, hgone'.untracked⟩, queued, ?_, hqueued⟩
    rw [← heffects, hfirst, List.append_assoc, List.singleton_append]

theorem gone_removeService (hnumbered : s.registry.Numbered) {p : Properties}
    (hp : p.int64? Key.serviceId = some serviceId) :
    (s.removeService p).registry.Gone serviceId ∧
    serviceId ∉ (s.removeService p).registry.toBeExported ∧
      ∃ closed : List (Export O), (s.removeService p).registry.effects =
        s.registry.effects ++ closed.map fun e => .retract e.description := by
  rw [removeService_eq hnumbered hp]
  refine ⟨⟨fun e he => ?_, by simp [Table.get?_erase]⟩, by simp, _, rfl⟩
  simpa using (List.mem_filter.mp he).2

theorem removeService_of_gone (hnumbered : s.registry.Numbered) (hgone : s.registry.Gone serviceId)
    (hqueue : serviceId ∉ s.registry.toBeExported) {p : Properties}
    (hp : p.int64? Key.serviceId = some serviceId) :
    s.removeService p = s := by
  have hkept : s.registry.exports.filter
      (fun e => ! (e.serviceId == serviceId)) = s.registry.exports :=
    List.filter_eq_self.mpr (by simpa using hgone.unexported)
  have hnone : s.registry.exports.filter (·.serviceId == serviceId) = [] :=
    List.filter_eq_nil_iff.mpr (by simpa using hgone.unexported)
  have hwaiting : s.registry.toBeExported.filter (· != serviceId) = s.registry.toBeExported := by
    refine List.filter_eq_self.mpr fun id hid => ?_
    simpa using fun heq : id = serviceId => hqueue (heq ▸ hid)
  rw [removeService_eq hnumbered hp, withoutExports, hkept, hnone, hwaiting,
    Table.erase_eq_self hgone.untracked]
  simp [removals]

end Session

/-- After a service has been removed, and as long as none of its number is added, nothing of it is
exported, it is neither tracked nor waits, no call finds a handler of it and, from the removal on,
none of its endpoints is published; and to remove it again changes nothing at all. -/
theorem Registry.Reachable.removal_final {s : Session O} (h : s.registry.Reachable) {p : Properties}
    {serviceId : ServiceId} (hp : p.int64? Key.serviceId = some serviceId) :
    (∀ (s' : Session O) (told : List (Effect O)),
      (s.removeService p).Becomes (fun op => ¬ op.AddsService serviceId) s' told →
        (∀ e ∈ s'.registry.exports, e.serviceId ≠ serviceId) ∧
        s'.registry.services.get? serviceId = none ∧
        serviceId ∉ s'.registry.toBeExported ∧ (∀ i, s'.registry.findHandler serviceId i = none) ∧
        ∃ queued, told ++ s'.registry.effects = s.registry.effects ++ queued ∧
          ∀ d, .publish d ∈ queued → d.serviceId ≠ serviceId) ∧
    ∀ q : Properties, q.int64? Key.serviceId = some serviceId →
      (s.removeService p).removeService q = s.removeService p := by
  have hremoved : (s.removeService p).registry.Reachable := h.apply .refusing (.removeService p)
  obtain ⟨hgone, hqueue, closed, heffects⟩ := Session.gone_removeService h.matched.toNumbered hp
  refine ⟨fun s' told hs' => ?_, fun q hq => ?_⟩
  · obtain ⟨hgone', queued, htold, hqueued⟩ := hs'.gone hremoved hgone
    have hmatched := (hs'.reachable hremoved).matched
    refine ⟨hgone'.unexported, hgone'.untracked, fun hid => ?_,
      Registry.findHandler_eq_none hgone'.unexported,
      closed.map (fun e => .retract e.description) ++ queued, ?_, fun d hd =>
      hqueued d (by simpa using hd)⟩
    · have htracked := hmatched.queue_tracked serviceId hid
      simp [Table.contains, hgone'.untracked] at htracked
    · rw [htold, heffects, List.append_assoc]
  · exact Session.removeService_of_gone hremoved.matched.toNumbered hgone hqueue hq

/-- A service with an export that a pass dropped from the table is removed; then the factory of the
export is replaced, the service is removed once more, and another service comes. -/
theorem Registry.Reachable.removal_final_dropped :
    ∃ (s s' : Session .plain) (p : Properties), s.registry.Reachable ∧
      p.int64? Key.serviceId = some 7 ∧
      s.registry.exports.map Export.pair = [(7, "A")] ∧ s.registry.services.get? 7 = none ∧
      (s.removeService p).Becomes (fun op => ¬ op.AddsService 7) s' [] ∧
      s'.registry.exports.map Export.pair = [(8, "A")] ∧
      s'.registry.findHandler 7 "A" = none ∧
      (s.removeService p).removeService p = s.removeService p := by
  let env : Environment .plain := { Environment.granting with
    connection := fun _ _ i => if i = "B" then .error (.illegalArgument "unreachable") else .ok ∅ }
  let service (number interfaces : String) : Properties :=
    .ofList [(Key.serviceId, number), (Key.objectClass, interfaces), (Key.exportedInterfaces, "*")]
  let s : Session .plain := (Session.ofRegistry (.empty "here" false)).run env
    [.addExportFactory ⟨"f", "A"⟩ ∅, .addExportFactory ⟨"g", "B"⟩ ∅,
      .addService () (service "7" "A, B"), .reconcile]
  let later : List (Operation .plain) := [.reconcile, .addExportFactory ⟨"h", "A"⟩ ∅, .reconcile,
    .removeService (service "7" "A"), .addService () (service "8" "A"), .reconcile]
  have hlater : ∀ op ∈ later, ¬ op.AddsService 7 := by
    have hother : (service "8" "A").int64? Key.serviceId ≠ some 7 := by decide +kernel
    simpa [later, Operation.AddsService] using hother
  have hs : s.registry.Reachable :=
    (Registry.Reachable.empty "here" false).run env (s := .ofRegistry _) _
  have hp : (service "7" "A").int64? Key.serviceId = some 7 := by decide +kernel
  have hbecomes :=
    (Session.Becomes.refl (s := s.removeService (service "7" "A"))).run env later hlater
  obtain ⟨hfinal, hagain⟩ := hs.removal_final hp
  exact ⟨s, _, service "7" "A", hs, hp, by decide +kernel, by decide +kernel,
    hbecomes, by decide +kernel, (hfinal _ _ hbecomes).2.2.2.1 "A", hagain _ hp⟩

end RemoteServices
