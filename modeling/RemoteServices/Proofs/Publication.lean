import RemoteServices.Proofs.Description
import RemoteServices.Proofs.Grounding
import RemoteServices.Settings
import RemoteServices.Uuid

/-!
# What is published of an export

The description of an export is put together from the properties of the service and those that the
transport gives, and either may bind any key.  `Registry.Told.publishes` says which value every key
has in the end, and that a peer who has these properties has the description.
-/
namespace RemoteServices

variable {O : Objects}

theorem Uuid.not_isBlankText_ofRandom (high low : UInt64) :
    ¬ Text.isBlankText (ofRandom high low) := by
  rw [Text.isBlankText, List.isEmpty_iff, Text.trimmed_eq_nil_iff]
  intro hblank
  have hdash := hblank '-' (by simp [ofRandom])
  exact absurd hdash (by decide)

theorem Settings.not_isBlankText_uuidOr (s : Settings) {fresh : String}
    (h : ¬ Text.isBlankText fresh) :
    ¬ Text.isBlankText (s.uuidOr fresh) := by
  rw [uuidOr]
  split
  · split
    · exact h
    · assumption
  · exact h

theorem Properties.get?_merge (p q : Properties) (key : String) :
    (p.merge q).get? key = (q.get? key).or (p.get? key) :=
  get?_foldl_set q.ascending p key

theorem get?_carriedProperties (p : Properties) (key : String) :
    (carriedProperties p).get? key =
      if key ∈ [Key.serviceId, Key.exportedInterfaces, Key.exportedConfigs] then
        none else p.get? key := by
  rw [carriedProperties, Properties.get?_restrict, List.contains_eq_mem]
  split_ifs <;> simp_all

/-- The value of a key in the description of an export.  Nothing stands above what identifies the
endpoint; the service comes last, and what it tells of its own process is left out. -/
def Export.publishedValue (e : Export O) (frameworkUuid configurationType : String)
    (connection service : Properties) (key : String) : Option String :=
  if key = Key.imported then some "true"
  else if key = Key.objectClass then some e.interface
  else if key = Key.frameworkUuid then some frameworkUuid
  else if key = Key.endpointServiceId then some (Text.int64Text e.serviceId)
  else if key = Key.endpointId then some e.description.id
  else if key = Key.importedConfigs then some configurationType
  else (connection.get? key).or
    (if key ∈ [Key.serviceId, Key.exportedInterfaces, Key.exportedConfigs] then
      none else service.get? key)

theorem Export.get?_properties {e : Export O} {id frameworkUuid configurationType : String}
    {connection service : Properties}
    (h : e.description =
      .make id e.serviceId frameworkUuid e.interface
      (endpointProperties service connection configurationType))
    (key : String) :
    e.description.properties.get? key =
      e.publishedValue frameworkUuid configurationType connection service key := by
  have hid : e.description.id = id := by
    rw [h]
    rfl
  have hproperties :
    e.description.properties = Endpoint.identify id e.serviceId frameworkUuid e.interface
      (endpointProperties service connection configurationType) := by
    generalize e.interface = interface at h
    rw [h]
    rfl
  rw [hproperties, Endpoint.get?_identify, endpointProperties,
    Properties.get?_set, Properties.get?_merge, get?_carriedProperties, publishedValue, hid]

theorem isItem_of_selectInterfaces {p : Properties} {interfaces : List String}
    (h : selectInterfaces p = .ok interfaces) {interface : String}
    (hinterface : interface ∈ interfaces) : Text.IsItem interface := by
  have hadvertised := (sublist_of_selectInterfaces h).subset hinterface
  rw [Properties.list] at hadvertised
  split at hadvertised
  · exact Text.isItem_of_mem_commaItems hadvertised
  · cases hadvertised

/-- An export was made for a service, as the service was registered. -/
structure Export.Origin (P : Environment O → Prop) (frameworkUuid : String)
    (ops : List (Operation O)) (e : Export O) (service : TrackedService O) : Prop where
  made : ∃ env r, P env ∧ r.frameworkUuid = frameworkUuid ∧ e.MadeFor env r service
  registered : Registry.Registered ops e.serviceId service
  selected : ∃ interfaces, selectInterfaces service.properties = .ok interfaces ∧
    e.interface ∈ interfaces

namespace Registry.Told

variable {P : Environment O → Prop} {frameworkUuid : String} {importLocalEndpoints : Bool}
  {ops : List (Operation O)} {r : Registry O}

/-- The service of a live export is tracked as it was registered, unless the transport may call it
illegal. -/
theorem origin (h : r.Told P frameworkUuid importLocalEndpoints ops)
    {e : Export O} (he : e ∈ r.exports) :
    ∃ service, e.Origin P frameworkUuid ops service ∧
      ((∀ env, P env → ¬ env.Condemns e.serviceId) →
        r.services.get? e.serviceId = some service) := by
  induction h with
  | empty => cases he
  | @apply env henv op ops s h ih =>
    have hmatched := h.reachable.matched
    have hdistinct := h.reachable.distinct
    -- What is new is of a service that was tracked before the operation, as was that of what is
    -- older, if it is spared.
    have hwas : ∃ service, e.Origin P frameworkUuid ops service ∧
        ((∀ env, P env → ¬ env.Condemns e.serviceId) →
          s.registry.services.get? e.serviceId = some service) := by
      obtain ⟨t, hturns⟩ := Session.turns_apply hmatched hdistinct env op
      have he := he
      rw [hturns.exports, List.mem_append] at he
      rcases he with he | he
      · exact ih (List.mem_of_mem_filter he)
      · obtain ⟨service, hservice, hselected, hmade⟩ := hturns.created e he
        exact ⟨service, ⟨⟨env, s.registry, henv, h.identity.1, hmade⟩, h.registered hservice,
          interfaces_of_selected hservice hselected⟩, fun _ => hservice⟩
    obtain ⟨service, horigin, htracked⟩ := hwas
    have hop := Session.not_removesService_of_mem hmatched hdistinct he
    refine ⟨service, ⟨horigin.made, horigin.registered.append hop, horigin.selected⟩,
      fun hspared => ?_⟩
    obtain ⟨interfaces, hselect, hinterface⟩ := horigin.selected
    refine Session.services_apply hmatched hdistinct env op he
      (htracked hspared) ?_ (hspared env henv)
    rw [selected_eq (htracked hspared) hselect]
    exact List.ne_nil_of_mem hinterface
  | takeEffect _ heffect ih =>
    rw [(takeEffect_eq_some.mp heffect).2] at he ⊢
    exact ih he

/-- Where neither the id of the process nor any fresh id is blank, a peer who is told the properties
of a live export has its description. -/
theorem publishes (h : r.Told P frameworkUuid importLocalEndpoints ops)
    (huuid : ¬ Text.isBlankText frameworkUuid)
    (hids : ∀ env, P env → ∀ j, ¬ Text.isBlankText (env.freshId j))
    {e : Export O} (he : e ∈ r.exports) :
    Endpoint.ofProperties e.description.properties = .ok e.description ∧
      ∃ env j connection service, P env ∧
        env.connection j e.serviceId e.interface = .ok connection ∧
        Registered ops e.serviceId service ∧ e.service = service.object ∧
        ((∀ env, P env → ¬ env.Condemns e.serviceId) → r.services.get? e.serviceId = some service) ∧
        ∀ key, e.description.properties.get? key =
          e.publishedValue frameworkUuid env.configurationType connection
            service.properties key := by
  obtain ⟨service, horigin, htracked⟩ := h.origin he
  obtain ⟨env, r₀, henv, hr₀, hmade⟩ := horigin.made
  obtain ⟨i, j, connection, hconnection, hdescription⟩ := hmade.described
  obtain ⟨interfaces, hselect, hinterface⟩ := horigin.selected
  rw [hr₀] at hdescription
  refine ⟨?_, env, j, connection, service, henv, hconnection, horigin.registered,
    hmade.service_eq, htracked, Export.get?_properties hdescription⟩
  have hitem := isItem_of_selectInterfaces hselect hinterface
  generalize e.interface = interface at hdescription hitem
  rw [hdescription]
  refine Endpoint.ofProperties_eq_ok.mpr
    ⟨_, _, _, _, Properties.describes_make_iff.mpr ⟨hids env henv i, huuid, hitem⟩, ?_⟩
  exact (Endpoint.make_properties _ _ _ _ _).symm

/-- Both the service and the transport bind keys that identify an endpoint. -/
theorem publishes_spoofed :
    ∃ (env : Environment .plain) (ops : List (Operation .plain))
      (r : Registry .plain) (e : Export .plain),
      r.Told (· = env) (({} : Settings).uuidOr (Uuid.ofRandom 1 2)) false ops ∧ e ∈ r.exports ∧
      Endpoint.ofProperties e.description.properties = .ok e.description ∧
      ([Key.frameworkUuid, Key.objectClass, Key.importedConfigs, "color", "size",
        Key.exportedInterfaces].map
        e.description.properties.get?) =
          [some (Uuid.ofRandom 1 2), some "A", some "plain", some "blue", some "big", none] := by
  let env : Environment .plain := { Environment.granting with
    freshId := fun j => Uuid.ofRandom 3 (.ofNat j.length)
    connection := fun _ _ _ =>
      .ok (.ofList [(Key.objectClass, "Z"), (Key.imported, "false"), (Key.importedConfigs, "no"),
        ("color", "blue")]) }
  let service : Properties :=
    .ofList [(Key.serviceId, "7"), (Key.objectClass, "A, B"), (Key.exportedInterfaces, "*"),
      (Key.endpointId, "fake"), (Key.frameworkUuid, "elsewhere"), ("color", "red"), ("size", "big")]
  let ops : List (Operation .plain) :=
    [.addExportFactory ⟨"f", "A"⟩ ∅, .addService () service, .reconcile]
  have htold := Told.of_run (· = env) (({} : Settings).uuidOr (Uuid.ofRandom 1 2)) false env rfl ops
  have hids : ∀ env', env' = env → ∀ j, ¬ Text.isBlankText (env'.freshId j) := by
    rintro _ rfl j
    exact Uuid.not_isBlankText_ofRandom _ _
  have huuid := Settings.not_isBlankText_uuidOr {} (Uuid.not_isBlankText_ofRandom 1 2)
  let r := ((Session.ofRegistry
    (.empty (({} : Settings).uuidOr (Uuid.ofRandom 1 2)) false)).run env ops).registry
  have hvalues : (r.exports.map fun e =>
      ([Key.frameworkUuid, Key.objectClass, Key.importedConfigs, "color", "size",
        Key.exportedInterfaces].map e.description.properties.get?)) =
      [[some (Uuid.ofRandom 1 2), some "A", some "plain", some "blue", some "big", none]] := by
    decide +kernel
  obtain ⟨e, he, heq⟩ := List.mem_map.mp (hvalues ▸ List.mem_singleton_self _)
  exact ⟨env, ops, r, e, htold, he, (htold.publishes huuid hids he).1, heq⟩

end Registry.Told

end RemoteServices
