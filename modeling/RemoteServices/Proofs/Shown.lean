import RemoteServices.Proofs.Steps
import RemoteServices.Proofs.Turnover
import Mathlib.Data.List.Forall2

/-!
# What a space shows

A space that is told all effects of a registry shows just the live imports: one proxy for each,
found by its id, with the properties of its endpoint under those of the registration.  Whatever the
registry is told, this stays so: `ServiceSpace.Shows.turn`.
-/
namespace RemoteServices

variable {O : Objects}

namespace ServiceSpace

def tellAll (s : ServiceSpace O.Proxy) (effects : List (Effect O)) : ServiceSpace O.Proxy :=
  effects.foldl tell s

theorem tellAll_append (s : ServiceSpace O.Proxy) (es fs : List (Effect O)) :
    s.tellAll (es ++ fs) = (s.tellAll es).tellAll fs :=
  List.foldl_append

theorem get?_registration (number : Int64) (interface : String) (p : Properties) (key : String) :
    (registration number interface p).get? key =
      if key = Key.imported then some "true"
      else if key = Key.objectClass then some interface
      else if key = Key.serviceId then some (Text.int64Text number)
      else p.get? key := by
  simp only [registration, Properties.get?_set]

end ServiceSpace

/-- A proxy that an import has in a space. -/
structure RegisteredProxy.StandsFor (p : RegisteredProxy O.Proxy) (i : Import O) : Prop where
  endpointId : p.endpointId = i.endpointId
  proxy : p.proxy = i.proxy
  /-- The properties are those of the endpoint, but for three of them. -/
  properties : ∃ number : Int64, ∀ key, p.properties.get? key =
    if key = Key.imported then some "true"
    else if key = Key.objectClass then some i.interface
    else if key = Key.serviceId then some (Text.int64Text number)
    else i.description.properties.get? key

namespace ServiceSpace

/-- The space holds just the proxies of the imports. -/
def Shows (s : ServiceSpace O.Proxy) (imports : List (Import O)) : Prop :=
  List.Forall₂ RegisteredProxy.StandsFor s.proxies imports

variable {s : ServiceSpace O.Proxy} {imports : List (Import O)}

theorem tellAll_map {α : Type} {f : α → Effect O}
    (hf : ∀ a (s : ServiceSpace O.Proxy), s.tell (f a) = s) (as : List α)
    (s : ServiceSpace O.Proxy) : s.tellAll (as.map f) = s := by
  induction as with
  | nil => rfl
  | cons a as ih =>
    rw [List.map_cons, tellAll, List.foldl_cons, hf]
    exact ih

theorem Shows.endpointIds (h : s.Shows imports) :
    s.proxies.map RegisteredProxy.endpointId = imports.map Import.endpointId := by
  have hids := List.rel_map (P := (· = ·)) (fun _ _ hp => hp.endpointId) h
  rwa [List.forall₂_eq_eq_eq] at hids

theorem Shows.unregister (h : s.Shows imports) (endpointId : String) :
    (s.unregister endpointId).Shows (imports.filter (·.endpointId != endpointId)) := by
  refine List.rel_filter (fun p i hp => ?_) h
  simp only [hp.endpointId]

theorem Shows.withdraw (h : s.Shows imports) (ids : List String) :
    (s.tellAll (ids.map .unregister)).Shows (imports.filter (·.endpointId ∉ ids)) := by
  induction ids generalizing s imports with
  | nil => simpa [tellAll] using h
  | cons id ids ih =>
    have hrest := ih (h.unregister id)
    rw [List.filter_filter] at hrest
    refine (congrArg _ (List.filter_congr fun i _ => ?_)).mp hrest
    by_cases hid : i.endpointId = id <;> simp [hid]

theorem Shows.register (h : s.Shows imports) {i : Import O}
    (hi : i.endpointId ∉ imports.map Import.endpointId) :
    (s.tell (.register i.description i.proxy)).Shows (imports ++ [i]) := by
  have hnew : s.unregister i.endpointId = s := by
    have hall : s.proxies.filter (·.endpointId != i.endpointId) = s.proxies := by
      refine List.filter_eq_self.mpr fun p hp => ?_
      have hmem := h.endpointIds ▸ List.mem_map_of_mem (f := RegisteredProxy.endpointId) hp
      simpa using fun heq : p.endpointId = i.endpointId => hi (heq ▸ hmem)
    rw [ServiceSpace.unregister, hall]
  rw [tell, ServiceSpace.register, Import.description_id, hnew]
  exact List.rel_append h (.cons ⟨rfl, rfl, _, get?_registration _ _ _⟩ .nil)

theorem Shows.registerAll (h : s.Shows imports) {made : List (Import O)}
    (hids : ((imports ++ made).map Import.endpointId).Nodup) :
    (s.tellAll (made.map fun i => .register i.description i.proxy)).Shows (imports ++ made) := by
  induction made generalizing s imports with
  | nil => simpa [tellAll] using h
  | cons i made ih =>
    have hi : i.endpointId ∉ imports.map Import.endpointId := by
      rw [List.map_append] at hids
      exact fun hmem => (List.nodup_append.mp hids).2.2 _ hmem _ List.mem_cons_self rfl
    have hrest := ih (h.register hi) (by simpa using hids)
    rw [List.append_assoc] at hrest
    exact hrest

/-- The space follows the imports that go and come. -/
theorem Shows.turn {env : Environment O} {r r' : Registry O} {t : Turnover O}
    (h : (s.tellAll r.effects).Shows r.imports) (ht : r.Turns env r' t)
    (hids : (r'.imports.map Import.endpointId).Nodup) :
    (s.tellAll r'.effects).Shows r'.imports := by
  have hwithdrawn := h.withdraw (t.withdrawn.map Import.endpointId)
  rw [List.map_map] at hwithdrawn
  rw [ht.imports] at hids ⊢
  rw [ht.effects, Turnover.effects]
  simp only [tellAll_append, tellAll_map (f := fun e : Export O => Effect.retract e.description)
    fun _ _ => rfl, tellAll_map (f := fun e : Export O => Effect.publish e.description)
      fun _ _ => rfl]
  exact hwithdrawn.registerAll hids

end ServiceSpace

end RemoteServices
