import RemoteServices.Proofs.Replay
import RemoteServices.Proofs.Turnover

/-!
# What factories hold

A factory that has made an endpoint or a proxy holds something for it until it is told that this is
gone.  `Hook.held?` reads off the calls what factories hold, and refuses a call that makes no sense
to them.  It never refuses one of a registry's, and what is held are just the exports and the
imports; so what is taken and what is let go comes in pairs: `Session.History.hooks_paired`.
-/
namespace RemoteServices

variable {O : Objects}

/-- A factory takes hold of something for an endpoint, or lets it go.  The thing is told by the
factory and the endpoint. -/
inductive Hook
  | take (thing : Factory × Endpoint)
  | drop (thing : Factory × Endpoint)
deriving DecidableEq

/-- The hooks of export factories: an endpoint that was created, and one that is removed. -/
def Call.endpointHook? : Call → Option Hook
  | .createEndpoint f d true => some (.take (f, d))
  | .removeEndpoint f d => some (.drop (f, d))
  | _ => none

/-- The hooks of import factories: a proxy that was created, and one that is removed. -/
def Call.proxyHook? : Call → Option Hook
  | .createProxy f d true => some (.take (f, d))
  | .removeProxy f d => some (.drop (f, d))
  | _ => none

/-- The hooks of a kind that were called so far, the earliest first. -/
def Journal.hooks (hook? : Call → Option Hook) (j : Journal) : List Hook :=
  j.reverse.filterMap hook?

theorem Journal.hooks_append (hook? : Call → Option Hook) (i j : Journal) :
    Journal.hooks hook? (i ++ j) = j.hooks hook? ++ i.hooks hook? := by
  rw [Journal.hooks, List.reverse_append, List.filterMap_append]
  rfl

namespace Hook

def description : Hook → Endpoint
  | .take thing => thing.2
  | .drop thing => thing.2

/-- What was taken, unless something was let go. -/
def taken? : Hook → Option (Factory × Endpoint)
  | .take thing => some thing
  | .drop _ => none

/-- What factories hold after one more hook.  Nobody takes what somebody holds, and only what is
held is let go, by the one who holds it. -/
def step? (held : List (Factory × Endpoint)) : Hook → Option (List (Factory × Endpoint))
  | .take thing => if thing.2 ∈ held.map Prod.snd then none else some (held ++ [thing])
  | .drop thing => if thing ∈ held then some (held.filter (· != thing)) else none

/-- What factories hold after these hooks. -/
def held? (hooks : List Hook) (held : List (Factory × Endpoint)) :
    Option (List (Factory × Endpoint)) :=
  hooks.foldlM step? held

@[simp] theorem held?_nil (held : List (Factory × Endpoint)) : held? [] held = some held := rfl

@[simp] theorem held?_cons (h : Hook) (hs : List Hook) (held : List (Factory × Endpoint)) :
    held? (h :: hs) held = (step? held h).bind (held? hs) := rfl

theorem held?_append (hs hs' : List Hook) (held : List (Factory × Endpoint)) :
    held? (hs ++ hs') held = (held? hs held).bind (held? hs') :=
  List.foldlM_append

section

variable {held held' : List (Factory × Endpoint)} {x : Factory × Endpoint}

theorem step?_take :
    step? held (.take x) = some held' ↔ x.2 ∉ held.map Prod.snd ∧ held ++ [x] = held' := by
  rw [step?, Option.ite_none_left_eq_some, Option.some.injEq]

theorem step?_drop :
    step? held (.drop x) = some held' ↔ x ∈ held ∧ held.filter (· != x) = held' := by
  rw [step?, Option.ite_none_right_eq_some, Option.some.injEq]

end

theorem held?_take (new : List (Factory × Endpoint)) {held : List (Factory × Endpoint)}
    (h : ((held ++ new).map Prod.snd).Nodup) :
    held? (new.map .take) held = some (held ++ new) := by
  induction new generalizing held with
  | nil => simp
  | cons x new ih =>
    have hnew : x.2 ∉ held.map Prod.snd := by
      rw [List.map_append] at h
      exact fun hmem => (List.nodup_append.mp h).2.2 _ hmem _ List.mem_cons_self rfl
    rw [List.map_cons, held?_cons, step?_take.mpr ⟨hnew, rfl⟩,
      Option.bind_some, ih (by simpa using h)]
    simp

theorem held?_drop (old : List (Factory × Endpoint)) {held : List (Factory × Endpoint)}
    (hnodup : old.Nodup) (hmem : ∀ x ∈ old, x ∈ held) :
    held? (old.map .drop) held = some (held.filter (· ∉ old)) := by
  induction old generalizing held with
  | nil => simp
  | cons x old ih =>
    obtain ⟨hx, hnodup⟩ := List.nodup_cons.mp hnodup
    have hstay : ∀ y ∈ old, y ∈ held.filter (· != x) := by
      intro y hy
      refine List.mem_filter.mpr ⟨hmem y (List.mem_cons_of_mem x hy), ?_⟩
      simpa using fun heq : y = x => hx (heq ▸ hy)
    rw [List.map_cons, held?_cons, step?_drop.mpr ⟨hmem x List.mem_cons_self, rfl⟩,
      Option.bind_some, ih hnodup hstay, List.filter_filter]
    refine congrArg some (List.filter_congr fun y _ => ?_)
    by_cases hy : y = x <;> simp [hy, hx]

section

variable {held held' : List (Factory × Endpoint)}

theorem nodup_step? {hook : Hook} (h : (held.map Prod.snd).Nodup)
    (hstep : step? held hook = some held') :
    (held'.map Prod.snd).Nodup := by
  cases hook with
  | take x =>
    obtain ⟨hx, rfl⟩ := step?_take.mp hstep
    exact nodup_concat_key h hx
  | drop x =>
    obtain ⟨-, rfl⟩ := step?_drop.mp hstep
    exact h.sublist (List.filter_sublist.map _)

theorem mem_step? {hook : Hook} (h : (held.map Prod.snd).Nodup)
    (hstep : step? held hook = some held') {x : Factory × Endpoint} :
    x ∈ held' ↔ (x ∈ held ∧ hook.description ≠ x.2) ∨ hook = .take x := by
  cases hook with
  | take y =>
    obtain ⟨hy, rfl⟩ := step?_take.mp hstep
    rw [List.mem_append, List.mem_singleton, Hook.take.injEq, eq_comm (a := y)]
    refine or_congr_left (and_iff_left_of_imp fun hmem heq => hy ?_).symm
    rw [show y.2 = x.2 from heq]
    exact List.mem_map_of_mem hmem
  | drop y =>
    obtain ⟨hy, rfl⟩ := step?_drop.mp hstep
    simp only [List.mem_filter, bne_iff_ne, ne_eq, reduceCtorEq, or_false]
    refine and_congr_right fun hmem => not_congr ⟨?_, fun heq => ?_⟩
    · rintro rfl
      rfl
    · exact List.inj_on_of_nodup_map h hmem hy heq.symm

theorem nodup_held? {hooks : List Hook} (h : (held.map Prod.snd).Nodup)
    (hheld : held? hooks held = some held') :
    (held'.map Prod.snd).Nodup := by
  induction hooks generalizing held with
  | nil =>
    cases hheld
    exact h
  | cons hook hooks ih =>
    obtain ⟨next, hstep, hrest⟩ := Option.bind_eq_some_iff.mp hheld
    exact ih (nodup_step? h hstep) hrest

/-- What is held in the end was held from the beginning, or was taken, and nothing has happened to
it since. -/
theorem mem_held? {hooks : List Hook} (h : (held.map Prod.snd).Nodup)
    (hheld : held? hooks held = some held') {x : Factory × Endpoint} :
    x ∈ held' ↔ (x ∈ held ∧ ∀ k ∈ hooks, k.description ≠ x.2) ∨
      ∃ earlier later, hooks = earlier ++ .take x :: later ∧ ∀ k ∈ later, k.description ≠ x.2 := by
  induction hooks generalizing held with
  | nil =>
    cases hheld
    simp
  | cons hook hooks ih =>
    obtain ⟨next, hstep, hrest⟩ := Option.bind_eq_some_iff.mp hheld
    rw [ih (nodup_step? h hstep) hrest, mem_step? h hstep, List.forall_mem_cons]
    constructor
    · rintro (⟨⟨hmem, hne⟩ | rfl, hhooks⟩ | ⟨earlier, later, rfl, hlater⟩)
      · exact .inl ⟨hmem, hne, hhooks⟩
      · exact .inr ⟨[], hooks, rfl, hhooks⟩
      · exact .inr ⟨hook :: earlier, later, rfl, hlater⟩
    · rintro (⟨hmem, hne, hhooks⟩ | ⟨earlier, later, heq, hlater⟩)
      · exact .inl ⟨.inl ⟨hmem, hne⟩, hhooks⟩
      · rcases List.cons_eq_append_iff.mp heq with ⟨rfl, hcons⟩ | ⟨earlier, rfl, hhooks⟩
        · obtain ⟨rfl, rfl⟩ := List.cons.inj hcons
          exact .inl ⟨.inr rfl, hlater⟩
        · exact .inr ⟨earlier, later, hhooks, hlater⟩

theorem mem_held?_of_mem {hooks : List Hook} (hheld : held? hooks held = some held')
    {x : Factory × Endpoint} (hmem : x ∈ held) (hno : .drop x ∉ hooks) : x ∈ held' := by
  induction hooks generalizing held with
  | nil =>
    cases hheld
    exact hmem
  | cons hook hooks ih =>
    obtain ⟨next, hstep, hrest⟩ := Option.bind_eq_some_iff.mp hheld
    refine ih hrest ?_ fun hin => hno (List.mem_cons_of_mem hook hin)
    cases hook with
    | take y =>
      obtain ⟨-, rfl⟩ := step?_take.mp hstep
      exact List.mem_append_left _ hmem
    | drop y =>
      obtain ⟨-, rfl⟩ := step?_drop.mp hstep
      refine List.mem_filter.mpr ⟨hmem, bne_iff_ne.mpr ?_⟩
      rintro rfl
      exact hno List.mem_cons_self

end

/-- How hooks and what is held after them belong together. -/
structure Paired (hooks : List Hook) (held : List (Factory × Endpoint)) : Prop where
  /-- What is let go was taken by the same factory, and nothing happened to it in between. -/
  dropped : ∀ earlier later f d, hooks = earlier ++ .drop (f, d) :: later →
    ∃ before between, earlier = before ++ .take (f, d) :: between ∧ ∀ h ∈ between, h.description ≠ d
  /-- What is taken is let go once at most, and by the same factory, until it is taken anew. -/
  once : ∀ earlier between later f d, hooks = earlier ++ .take (f, d) :: (between ++ later) →
    (∀ g, .take (g, d) ∉ between) →
    (∀ g, .drop (g, d) ∈ between → g = f) ∧ between.count (.drop (f, d)) ≤ 1
  /-- What was taken and has not been let go is held, and nothing else is. -/
  mem_iff : ∀ f d, (f, d) ∈ held ↔ ∃ earlier later, hooks = earlier ++ .take (f, d) :: later ∧
    ∀ g, .drop (g, d) ∉ later
  nodup : (held.map Prod.snd).Nodup

section

variable {hooks : List Hook} {held : List (Factory × Endpoint)}

private theorem nodup_start : (([] : List (Factory × Endpoint)).map Prod.snd).Nodup :=
  List.nodup_nil

theorem taken_of_drop (h : held? hooks [] = some held) {earlier later : List Hook}
    {f : Factory} {d : Endpoint} (hsplit : hooks = earlier ++ .drop (f, d) :: later) :
    ∃ before between, earlier = before ++ .take (f, d) :: between ∧ ∀ k ∈ between,
      k.description ≠ d := by
  rw [hsplit, held?_append, Option.bind_eq_some_iff] at h
  obtain ⟨old, hold, hrest⟩ := h
  obtain ⟨new, hstep, -⟩ := Option.bind_eq_some_iff.mp hrest
  have hmem := (step?_drop.mp hstep).1
  simpa using (mem_held? nodup_start hold).mp hmem

theorem eq_of_drop (h : held? hooks [] = some held) {earlier between later : List Hook}
    {f g : Factory} {d : Endpoint}
    (hsplit : hooks = earlier ++ .take (f, d) :: (between ++ .drop (g, d) :: later))
    (hno : ∀ k, .take (k, d) ∉ between) :
    g = f ∧ ∀ k ∈ between, k.description ≠ d := by
  obtain ⟨before, since, htake, hsince⟩ := taken_of_drop h (f := g)
    (show hooks = (earlier ++ .take (f, d) :: between) ++ .drop (g, d) ::
      later by rw [hsplit]; simp)
  -- The taking before it is the one that is known: it is not among those in between, nor is the
  -- known one since.
  rcases List.append_eq_append_iff.mp htake with ⟨middle, rfl, hmiddle⟩ | ⟨middle, rfl, hmiddle⟩
  · rcases List.cons_eq_append_iff.mp hmiddle with ⟨rfl, hcons⟩ | ⟨middle, rfl, hbetween⟩
    · obtain ⟨hhook, rfl⟩ := List.cons.inj hcons
      cases hhook
      exact ⟨rfl, hsince⟩
    · exact absurd (hbetween ▸ List.mem_append_right _ List.mem_cons_self) (hno g)
  · rcases List.cons_eq_append_iff.mp hmiddle with ⟨rfl, hcons⟩ | ⟨middle, rfl, rfl⟩
    · obtain ⟨hhook, rfl⟩ := List.cons.inj hcons
      cases hhook
      exact ⟨rfl, hsince⟩
    · exact absurd rfl (hsince (.take (f, d)) (by simp))

/-- Hooks that all make sense come in pairs. -/
theorem paired_of_held? (h : held? hooks [] = some held) : Paired hooks held where
  dropped earlier later f d hsplit := taken_of_drop h hsplit
  once earlier between later f d hsplit hno := by
    refine ⟨fun g hg => ?_, ?_⟩
    · obtain ⟨first, rest, rfl⟩ := List.append_of_mem hg
      exact (eq_of_drop h (by simpa using hsplit) fun k hk => hno k (List.mem_append_left _ hk)).1
    · by_cases hmem : Hook.drop (f, d) ∈ between
      · obtain ⟨first, rest, rfl⟩ := List.append_of_mem hmem
        have hfirst : Hook.drop (f, d) ∉ first := fun hin =>
          (eq_of_drop h (by simpa using hsplit) fun k hk =>
            hno k (List.mem_append_left _ hk)).2 _ hin rfl
        -- A second one would have the first one in between.
        have hrest : Hook.drop (f, d) ∉ rest := by
          intro hin
          obtain ⟨second, others, rfl⟩ := List.append_of_mem hin
          have hsecond : hooks = earlier ++ .take (f, d) :: ((first ++ .drop (f, d) :: second) ++
              .drop (f, d) :: (others ++ later)) := by simpa using hsplit
          have hclean := (eq_of_drop h hsecond fun k hk => hno k (by simp at hk ⊢; tauto)).2
          exact hclean (.drop (f, d)) (by simp) rfl
        simp [List.count_eq_zero_of_not_mem hfirst, List.count_eq_zero_of_not_mem hrest]
      · simp [List.count_eq_zero_of_not_mem hmem]
  mem_iff f d := by
    constructor
    · intro hmem
      rcases (mem_held? nodup_start h).mp hmem with ⟨hnone, -⟩ | ⟨earlier, later, hsplit, hlater⟩
      · cases hnone
      · exact ⟨earlier, later, hsplit, fun g hg => hlater _ hg rfl⟩
    · rintro ⟨earlier, later, rfl, hlater⟩
      rw [held?_append, Option.bind_eq_some_iff] at h
      obtain ⟨old, -, hrest⟩ := h
      obtain ⟨new, hstep, hlast⟩ := Option.bind_eq_some_iff.mp hrest
      obtain ⟨-, rfl⟩ := step?_take.mp hstep
      exact mem_held?_of_mem hlast (List.mem_append_right _ (List.mem_singleton_self _)) (hlater f)
  nodup := nodup_held? nodup_start h

end

theorem held?_turnover {α β : Type} [DecidableEq β] {key : α → β} {thing : α → Factory × Endpoint}
    {hooks : List Hook} {old gone new : List α} (h : held? hooks [] = some (old.map thing))
    (hkeys : (old.map key).Nodup) (hgone : ∀ x ∈ gone, x ∈ old) (hgone_nodup : (gone.map key).Nodup)
    (hnodup : ((old.filter (fun x => key x ∉ gone.map key) ++ new).map fun x =>
      (thing x).2).Nodup) :
    held? (hooks ++ ((gone.map thing).map .drop ++ (new.map thing).map .take)) [] =
      some ((old.filter (fun x => key x ∉ gone.map key) ++ new).map thing) := by
  have hthings : (old.map thing).Nodup := (nodup_held? nodup_start h).of_map
  have hdropped : (gone.map thing).Nodup := by
    refine List.Nodup.map_on (fun x hx y hy hxy => ?_) hgone_nodup.of_map
    exact List.inj_on_of_nodup_map hthings (hgone x hx) (hgone y hy) hxy
  have hleft : (old.map thing).filter (· ∉ gone.map thing) = (old.filter fun x =>
      key x ∉ gone.map key).map thing := by
    rw [List.filter_map]
    refine congrArg (List.map thing)
      (List.filter_congr fun x hx => decide_eq_decide.mpr (not_congr ?_))
    exact (mem_map_key hthings hgone hx).trans (mem_map_key hkeys hgone hx).symm
  have hmem : ∀ x ∈ gone.map thing, x ∈ old.map thing := by
    intro x hx
    obtain ⟨y, hy, rfl⟩ := List.mem_map.mp hx
    exact List.mem_map_of_mem (hgone y hy)
  have hall : (((old.filter fun x => key x ∉ gone.map key).map thing ++
      new.map thing).map Prod.snd).Nodup := by
    rw [← List.map_append, List.map_map]
    exact hnodup
  rw [held?_append, h, Option.bind_some, held?_append, held?_drop _ hdropped hmem,
    hleft, Option.bind_some, held?_take _ hall, List.map_append]

end Hook

/-- What its factory holds for an export. -/
def Export.thing (e : Export O) : Factory × Endpoint := (e.factory, e.description)

/-- What its factory holds for an import. -/
def Import.thing (i : Import O) : Factory × Endpoint := (i.factory, i.description)

namespace Journal

open Session

theorem endpointHooks_removals (es : List (Export O)) :
    Journal.hooks Call.endpointHook? (removals es) = (es.map Export.thing).map .drop := by
  simp [hooks, removals, List.filterMap_map, Function.comp_def, Call.endpointHook?, Export.thing]

theorem proxyHooks_removals (es : List (Export O)) :
    Journal.hooks Call.proxyHook? (removals es) = [] := by
  simp [hooks, removals, List.filterMap_map, Function.comp_def, Call.proxyHook?]

theorem endpointHooks_farewells (imports : List (Import O)) :
    Journal.hooks Call.endpointHook? (farewells imports) = [] := by
  simp [hooks, farewells, List.filterMap_map, Function.comp_def, Call.endpointHook?]

theorem proxyHooks_farewells (imports : List (Import O)) :
    Journal.hooks Call.proxyHook? (farewells imports) = (imports.map Import.thing).map .drop := by
  simp [hooks, farewells, List.filterMap_map, Function.comp_def, Call.proxyHook?, Import.thing]

theorem endpointHooks_of_made {j : Journal} (h : ∀ f d, .removeEndpoint f d ∉ j) :
    j.hooks Call.endpointHook? = j.made.reverse.map .take := by
  rw [hooks, made, ← List.filterMap_reverse, List.map_filterMap]
  refine List.filterMap_congr fun c hc => ?_
  cases c with
  | createEndpoint f d created => cases created <;> rfl
  | removeEndpoint f d => exact absurd (List.mem_reverse.mp hc) (h f d)
  | _ => rfl

theorem proxyHooks_of_proxied {j : Journal} (h : ∀ f d, .removeProxy f d ∉ j) :
    j.hooks Call.proxyHook? = j.proxied.reverse.map .take := by
  rw [hooks, proxied, ← List.filterMap_reverse, List.map_filterMap]
  refine List.filterMap_congr fun c hc => ?_
  cases c with
  | createProxy f d created => cases created <;> rfl
  | removeProxy f d => exact absurd (List.mem_reverse.mp hc) (h f d)
  | _ => rfl

theorem filterMap_taken? (j : Journal) :
    (j.hooks Call.endpointHook?).filterMap Hook.taken? = j.made.reverse := by
  rw [hooks, made, ← List.filterMap_reverse, List.filterMap_filterMap]
  refine List.filterMap_congr fun c _ => ?_
  cases c with
  | createEndpoint f d created => cases created <;> rfl
  | _ => rfl

theorem take_mem_hooks {j : Journal} {f : Factory} {d : Endpoint}
    (h : .take (f, d) ∈ j.hooks Call.endpointHook?) :
    .createEndpoint f d true ∈ j := by
  rw [← mem_made, ← List.mem_reverse, ← filterMap_taken?]
  exact List.mem_filterMap.mpr ⟨_, h, rfl⟩

theorem take_notMem {j : Journal} (hfresh : j.newIds.Nodup) {earlier later : List Hook}
    {f : Factory} {d : Endpoint}
    (hsplit : j.hooks Call.endpointHook? = earlier ++ .take (f, d) :: later) (g : Factory) :
    .take (g, d) ∉ later := by
  intro hmem
  have hids : ((j.made.reverse).map (·.2.id)).Nodup := by
    rw [List.map_reverse]
    exact List.nodup_reverse.mpr (hfresh.sublist j.made_sublist)
  rw [← filterMap_taken?, hsplit, List.filterMap_append, List.filterMap_cons, List.map_append,
    List.nodup_append] at hids
  have hlater : (g, d) ∈ later.filterMap Hook.taken? := List.mem_filterMap.mpr ⟨_, hmem, rfl⟩
  exact (List.nodup_cons.mp hids.2.1).1 (List.mem_map.mpr ⟨(g, d), hlater, rfl⟩)

theorem created_notMem {j : Journal} (hfresh : j.newIds.Nodup) {f g : Factory} {d : Endpoint}
    (hfailed : .createEndpoint f d false ∈ j) : .createEndpoint g d true ∉ j := by
  intro hmem
  obtain ⟨later, earlier, rfl⟩ := List.append_of_mem hfailed
  have hid {part : Journal} (hpart : .createEndpoint g d true ∈ part) : d.id ∈ part.newIds :=
    List.mem_filterMap.mpr ⟨_, hpart, rfl⟩
  rw [newIds_append] at hfresh
  obtain ⟨-, hearlier, hdisjoint⟩ := List.nodup_append.mp hfresh
  rcases List.mem_append.mp hmem with hmem | hmem
  · exact hdisjoint _ (hid hmem) _ List.mem_cons_self rfl
  · have hmem : .createEndpoint g d true ∈ earlier := by simpa using hmem
    exact (List.nodup_cons.mp hearlier).1 (hid hmem)

end Journal

namespace Session

open Hook

/-- Factories hold something for the exports and the imports, and for nothing else. -/
structure Holds (s : Session O) : Prop where
  endpoints : held? (s.journal.hooks Call.endpointHook?) [] = some
    (s.registry.exports.map Export.thing)
  proxies : held? (s.journal.hooks Call.proxyHook?) [] = some (s.registry.imports.map Import.thing)

/-- What a session does to the hooks: what goes is let go, and what comes has been taken. -/
theorem Moves.hooks {env : Environment O} {op : Operation O} {s s' : Session O}
    {t : Turnover O} {asks : Journal} (h : Moves env op s s' t asks) :
    s'.journal.hooks Call.endpointHook? = s.journal.hooks Call.endpointHook? ++
        ((t.closed.map Export.thing).map .drop ++ (t.created.map Export.thing).map .take) ∧
      s'.journal.hooks Call.proxyHook? = s.journal.hooks Call.proxyHook? ++
        ((t.withdrawn.map Import.thing).map .drop ++ (t.made.map Import.thing).map .take) := by
  have hendpoints := Journal.endpointHooks_of_made h.asks_new.1
  have hproxies := Journal.proxyHooks_of_proxied h.asks_new.2
  rw [h.made, List.reverse_reverse] at hendpoints
  rw [h.proxied, List.reverse_reverse] at hproxies
  simp only [h.journal, Journal.hooks_append, Journal.endpointHooks_removals,
    Journal.endpointHooks_farewells, Journal.proxyHooks_removals, Journal.proxyHooks_farewells,
    hendpoints, hproxies, List.append_nil, List.append_assoc]
  exact ⟨rfl, rfl⟩

theorem Holds.apply {s : Session O} (h : s.Holds) (hmatched : s.registry.Matched)
    (hdistinct : s.registry.Distinct) (env : Environment O) (op : Operation O) :
    (s.apply env op).Holds := by
  obtain ⟨t, asks, hmoves⟩ := moves_apply hmatched hdistinct env op
  obtain ⟨hendpoints, hproxies⟩ := hmoves.hooks
  have hexports : ((s.apply env op).registry.exports.map fun e => e.thing.2).Nodup :=
    (matched_apply env op hmatched).descriptions_nodup
  have himports : ((s.apply env op).registry.imports.map fun i => i.thing.2).Nodup := by
    have hids := (distinct_apply hmatched hdistinct env op).imports
    exact List.Nodup.of_map Endpoint.id (by rw [List.map_map]; exact hids)
  rw [hmoves.turns.exports] at hexports
  rw [hmoves.turns.imports] at himports
  refine ⟨?_, ?_⟩
  · rw [hendpoints, hmoves.turns.exports]
    exact held?_turnover h.endpoints hmatched.nodup (fun e he => hmoves.turns.closed.subset he)
      (hmatched.nodup.sublist (hmoves.turns.closed.map _)) hexports
  · rw [hproxies, hmoves.turns.imports]
    exact held?_turnover h.proxies hdistinct.imports hmoves.turns.withdrawn
      hmoves.turns.withdrawn_nodup himports

theorem History.holds {s : Session O} {told : List (Effect O)} (h : s.History told) : s.Holds := by
  induction h with
  | start => exact ⟨rfl, rfl⟩
  | apply env op hs ih => exact ih.apply hs.reachable.matched hs.reachable.distinct env op
  | takeEffect _ he ih =>
    rw [(Registry.takeEffect_eq_some.mp he).2]
    exact ⟨ih.endpoints, ih.proxies⟩

end Session

/-- Whatever factories answer, their hooks come in pairs: what is removed was created by the same
factory and not removed since, and what is created is removed once at most until it is created anew.
What is created and not removed are just the exports and the imports.  And as no id is drawn twice,
an endpoint is not created anew, and one that could not be created is not removed. -/
theorem Session.History.hooks_paired {s : Session O} {told : List (Effect O)} (h : s.History told) :
    Hook.Paired (s.journal.hooks Call.endpointHook?)
      (s.registry.exports.map fun e => (e.factory, e.description)) ∧
    Hook.Paired (s.journal.hooks Call.proxyHook?)
      (s.registry.imports.map fun i => (i.factory, i.description)) ∧
    (s.journal.newIds.Nodup →
      (∀ earlier later f d, s.journal.hooks Call.endpointHook? = earlier ++ .take (f, d) :: later →
        (∀ g, .drop (g, d) ∈ later → g = f) ∧ later.count (.drop (f, d)) ≤ 1) ∧
      ∀ f d, .createEndpoint f d false ∈ s.journal → ∀ g, .removeEndpoint g d ∉ s.journal) := by
  have hendpoints := Hook.paired_of_held? h.holds.endpoints
  refine ⟨hendpoints, Hook.paired_of_held? h.holds.proxies, fun hfresh =>
    ⟨fun earlier later f d hsplit => ?_, ?_⟩⟩
  · exact hendpoints.once earlier later [] f d (by rwa [List.append_nil])
      (Journal.take_notMem hfresh hsplit)
  · intro f d hfailed g hremoved
    have hdrop : Hook.drop (g, d) ∈ s.journal.hooks Call.endpointHook? :=
      List.mem_filterMap.mpr ⟨_, List.mem_reverse.mpr hremoved, rfl⟩
    obtain ⟨earlier, later, hsplit⟩ := List.append_of_mem hdrop
    obtain ⟨before, between, rfl, -⟩ := hendpoints.dropped earlier later g d hsplit
    have htake : Hook.take (g, d) ∈ s.journal.hooks Call.endpointHook? := by
      rw [hsplit]
      simp
    exact Journal.created_notMem hfresh hfailed (Journal.take_mem_hooks htake)

/-- An export factory is replaced, an import factory goes and comes back, and another export factory
refuses the service. -/
theorem Session.History.hooks_paired_replaced :
    ∃ (s : Session .plain) (told : List (Effect .plain)), s.History told ∧ s.journal.newIds.Nodup ∧
      (s.journal.hooks Call.endpointHook?).map (fun k => (k.taken?.isSome, k.description.id)) =
        [(true, "i"), (false, "i"), (true, "ii")] ∧
      (s.journal.hooks Call.proxyHook?).map (fun k => (k.taken?.isSome, k.description.id)) =
        [(true, "x"), (false, "x"), (true, "x")] ∧
      (s.journal.any fun | .createEndpoint f _ created => f.tag == "k" && ! created | _ => false) ∧
      Hook.Paired (s.journal.hooks Call.endpointHook?)
        (s.registry.exports.map fun e => (e.factory, e.description)) ∧
      ∀ f d, .createEndpoint f d false ∈ s.journal → ∀ g, .removeEndpoint g d ∉ s.journal := by
  let env : Environment .plain := { Environment.granting with
    wrap := fun _ f _ _ => if f.tag = "k" then .error "refused" else .ok () }
  have h := (Session.History.start "here" false).run env
    [.addExportFactory ⟨"f", "A"⟩ ∅, .addImportFactory ⟨"g", "A"⟩ ∅,
      .addService ()
        (.ofList [(Key.serviceId, "7"), (Key.objectClass, "A, B"), (Key.exportedInterfaces, "*")]),
      .addEndpoint (.make "x" 7 "there" "A" ∅), .reconcile, .addExportFactory ⟨"h", "A"⟩ ∅,
      .removeImportFactory ⟨"g", "A"⟩ ∅, .reconcile, .addImportFactory ⟨"g", "A"⟩ ∅,
      .addExportFactory ⟨"k", "B"⟩ ∅, .reconcile]
  have hfresh := h.hooks_paired.2.2 (by decide +kernel)
  exact ⟨_, _, h, by decide +kernel, by decide +kernel, by decide +kernel, by decide +kernel,
    h.hooks_paired.1, hfresh.2⟩

end RemoteServices
