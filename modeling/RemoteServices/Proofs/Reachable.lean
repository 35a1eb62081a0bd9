import RemoteServices.Registry.Operation

/-!
# Reachable registries

A registry begins empty, is told one thing after the other, and hands out its effects in between.
Factories and transport may answer differently each time, so every operation comes with an
environment of its own.
-/
namespace RemoteServices

variable {O : Objects}

/-- The registries that come about, whatever factories and transport answer. -/
inductive Registry.Reachable : Registry O → Prop
  | empty (frameworkUuid : String) (importLocalEndpoints : Bool) :
    Reachable (.empty frameworkUuid importLocalEndpoints)
  | apply (env : Environment O) (op : Operation O) {s : Session O} (h : Reachable s.registry) :
    Reachable (s.apply env op).registry
  | takeEffect {r r' : Registry O} {e : Effect O} (h : Reachable r)
    (he : r.takeEffect = some (e, r')) :
    Reachable r'

/-- The registries that come about in environments of a kind, each with the operations that it was
told. -/
inductive Registry.Told (P : Environment O → Prop) (frameworkUuid : String)
    (importLocalEndpoints : Bool) :
    List (Operation O) → Registry O → Prop
  | empty : Told P frameworkUuid importLocalEndpoints [] (.empty frameworkUuid importLocalEndpoints)
  | apply {env : Environment O} (henv : P env) (op : Operation O) {ops : List (Operation O)}
    {s : Session O} (h : Told P frameworkUuid importLocalEndpoints ops s.registry) :
    Told P frameworkUuid importLocalEndpoints (ops ++ [op]) (s.apply env op).registry
  | takeEffect {ops : List (Operation O)} {r r' : Registry O} {e : Effect O}
    (h : Told P frameworkUuid importLocalEndpoints ops r) (he : r.takeEffect = some (e, r')) :
    Told P frameworkUuid importLocalEndpoints ops r'

/-- The sessions that come about, each with the effects that were handed out. -/
inductive Session.History : Session O → List (Effect O) → Prop
  | start (frameworkUuid : String) (importLocalEndpoints : Bool) :
    History (.ofRegistry (.empty frameworkUuid importLocalEndpoints)) []
  | apply (env : Environment O) (op : Operation O) {s : Session O} {told : List (Effect O)}
    (h : History s told) :
    History (s.apply env op) told
  | takeEffect {s : Session O} {r : Registry O} {told : List (Effect O)} {e : Effect O}
    (h : History s told) (he : s.registry.takeEffect = some (e, r)) :
    History ⟨r, s.journal⟩ (told ++ [e])

/-- The sessions that one may become when its registry is told things of a kind, whatever factories
and transport answer, each with the effects that were handed out on the way. -/
inductive Session.Becomes (P : Operation O → Prop) (s : Session O) :
    Session O → List (Effect O) → Prop
  | refl : Becomes P s s []
  | apply (env : Environment O) {op : Operation O} (hop : P op) {s' : Session O}
    {told : List (Effect O)} (h : Becomes P s s' told) :
    Becomes P s (s'.apply env op) told
  | takeEffect {s' : Session O} {r : Registry O} {told : List (Effect O)} {e : Effect O}
    (h : Becomes P s s' told) (he : s'.registry.takeEffect = some (e, r)) :
    Becomes P s ⟨r, s'.journal⟩ (told ++ [e])

/-- Services, handlers and proxies without content. -/
def Objects.plain : Objects := ⟨Unit, Unit, Unit⟩

/-- An environment that refuses nothing. -/
def Environment.granting : Environment .plain where
  configurationType := "plain"
  freshId j := .ofList (List.replicate (j.newIds.length + 1) 'i')
  connection _ _ _ := .ok ∅
  wrap _ _ _ _ := .ok ()
  proxy _ _ _ := .ok ()

/-- An environment that refuses everything. -/
def Environment.refusing : Environment O where
  configurationType := ""
  freshId _ := ""
  connection _ _ _ := .error (.transport "")
  wrap _ _ _ _ := .error ""
  proxy _ _ _ := .error ""

theorem Registry.takeEffect_eq_some {r r' : Registry O} {e : Effect O} :
    r.takeEffect = some (e, r') ↔ r.effects = e :: r'.effects ∧
    r' = { r with effects := r'.effects } := by
  rw [takeEffect]
  cases hr : r.effects with
  | nil => simp
  | cons f es =>
    simp only [Option.some.injEq, Prod.mk.injEq, List.cons.injEq]
    constructor
    · rintro ⟨rfl, rfl⟩
      exact ⟨⟨rfl, rfl⟩, rfl⟩
    · rintro ⟨⟨rfl, hes⟩, hr'⟩
      exact ⟨rfl, hes ▸ hr'.symm⟩

theorem Registry.Reachable.run (env : Environment O) (ops : List (Operation O)) {s : Session O}
    (h : s.registry.Reachable) : (s.run env ops).registry.Reachable := by
  induction ops generalizing s with
  | nil => exact h
  | cons op ops ih => exact ih (h.apply env op)

section

variable {P : Environment O → Prop} {frameworkUuid : String} {importLocalEndpoints : Bool}
  {ops : List (Operation O)}

theorem Registry.Told.reachable {r : Registry O}
    (h : r.Told P frameworkUuid importLocalEndpoints ops) : r.Reachable := by
  induction h with
  | empty => exact .empty frameworkUuid importLocalEndpoints
  | apply _ op _ ih => exact ih.apply _ op
  | takeEffect _ he ih => exact ih.takeEffect he

theorem Registry.Told.run {env : Environment O} (henv : P env) (ops' : List (Operation O))
    {s : Session O} (h : s.registry.Told P frameworkUuid importLocalEndpoints ops) :
    (s.run env ops').registry.Told P frameworkUuid importLocalEndpoints (ops ++ ops') := by
  induction ops' generalizing s ops with
  | nil =>
    rw [List.append_nil]
    exact h
  | cons op ops' ih =>
    rw [List.append_cons]
    exact ih (h.apply henv op)

variable (P frameworkUuid importLocalEndpoints) in
theorem Registry.Told.of_run (env : Environment O) (henv : P env) (ops : List (Operation O)) :
    ((Session.ofRegistry (.empty frameworkUuid importLocalEndpoints)).run env ops).registry.Told
      P frameworkUuid
      importLocalEndpoints ops :=
  Registry.Told.run henv ops (s := .ofRegistry _) .empty

end

theorem Session.History.reachable {s : Session O} {told : List (Effect O)} (h : s.History told) :
    s.registry.Reachable := by
  induction h with
  | start frameworkUuid importLocalEndpoints => exact .empty frameworkUuid importLocalEndpoints
  | apply env op _ ih => exact ih.apply env op
  | takeEffect _ he ih => exact ih.takeEffect he

theorem Session.History.run (env : Environment O) (ops : List (Operation O)) {s : Session O}
    {told : List (Effect O)} (h : s.History told) : (s.run env ops).History told := by
  induction ops generalizing s with
  | nil => exact h
  | cons op ops ih => exact ih (h.apply env op)

section

variable {P : Operation O → Prop} {s s' : Session O} {told : List (Effect O)}

theorem Session.Becomes.reachable (h : s.Becomes P s' told) (hs : s.registry.Reachable) :
    s'.registry.Reachable := by
  induction h with
  | refl => exact hs
  | apply env _ _ ih => exact ih.apply env _
  | takeEffect _ he ih => exact ih.takeEffect he

theorem Session.Becomes.run (h : s.Becomes P s' told) (env : Environment O)
    (ops : List (Operation O)) (hops : ∀ op ∈ ops, P op) : s.Becomes P (s'.run env ops) told := by
  induction ops generalizing s' with
  | nil => exact h
  | cons op ops ih =>
    exact ih (h.apply env (hops op List.mem_cons_self)) fun o ho =>
      hops o (List.mem_cons_of_mem op ho)

end

end RemoteServices
