import RemoteServices.Proofs.JsonText
import RemoteServices.Proofs.Numerals
import RemoteServices.Proofs.Pieces

/-!
# Descriptions are read as they are made

A description travels as its property map, which may be written as JSON.  What is read of a map, and
of the maps that descriptions hold, is told in `Endpoint.Faithful`; reading a map is faithful, and
so is reading its JSON text, `Endpoint.converts_faithfully`.
-/
namespace RemoteServices

namespace Text

/-- It may be the item of a list, alone or among others. -/
structure IsItem (s : String) : Prop where
  nonempty : s ≠ ""
  whole : ',' ∉ s.toList
  unpadded : trim s = s

theorem isItem_of_mem_commaItems {s item : String} (h : item ∈ commaItems s) : IsItem item := by
  simp only [commaItems, List.mem_map, List.mem_filter] at h
  obtain ⟨cs, ⟨⟨piece, hpiece, rfl⟩, hne⟩, rfl⟩ := h
  refine ⟨fun h => ?_, fun h => ?_, ?_⟩
  · rw [← String.toList_inj, String.toList_ofList] at h
    simp [h] at hne
  · rw [String.toList_ofList] at h
    exact not_mem_of_mem_pieces hpiece (mem_of_mem_trimmed h)
  · rw [trim, String.toList_ofList, trimmed_trimmed]

theorem commaItems_eq_self_iff {s : String} : commaItems s = [s] ↔ IsItem s := by
  constructor
  · exact fun h => isItem_of_mem_commaItems (h ▸ List.mem_singleton_self s)
  · rintro ⟨hne, hwhole, hunpadded⟩
    have htrimmed : trimmed s.toList = s.toList := by
      rw [← String.toList_inj, trim, String.toList_ofList] at hunpadded
      exact hunpadded
    simp [commaItems, pieces_eq_singleton hwhole, htrimmed, hne]

end Text

/-- The map tells of the endpoint with these fields. -/
structure Properties.Describes (p : Properties) (id : String) (n : ServiceId)
    (uuid interface : String) : Prop where
  id_eq : p.get? Key.endpointId = some id
  id_text : ¬ Text.isBlankText id
  serviceId_eq : ∃ text, p.get? Key.endpointServiceId = some text ∧
    Text.Numeral (Text.trimmed text.toList) n.toInt
  frameworkUuid_eq : p.get? Key.frameworkUuid = some uuid
  frameworkUuid_text : ¬ Text.isBlankText uuid
  interface_eq : p.list Key.objectClass = [interface]

namespace Endpoint

theorem required_eq_ok {p : Properties} {key v : String} :
    required p key = .ok v ↔ p.get? key = some v ∧ ¬ Text.isBlankText v := by
  rw [required]
  cases p.get? key with
  | none => simp
  | some w =>
    dsimp only
    rw [Option.some.injEq]
    split
    · rename_i hblank
      constructor
      · exact fun h => nomatch h
      · rintro ⟨rfl, hv⟩
        exact absurd hblank hv
    · rename_i hblank
      constructor
      · rintro ⟨rfl⟩
        exact ⟨rfl, hblank⟩
      · exact fun h => congrArg _ h.1

theorem ofProperties_eq_ok {p : Properties} {e : Endpoint} :
    ofProperties p = .ok e ↔ ∃ id n uuid interface, p.Describes id n uuid interface ∧
      e = make id n uuid interface p := by
  simp only [ofProperties, bind_eq_ok, required_eq_ok]
  constructor
  · rintro ⟨id, ⟨hid, hidText⟩, text, ⟨htext, -⟩, h⟩
    split at h
    case h_2 => cases h
    rename_i n hnumber
    obtain ⟨_, hn, h⟩ := bind_eq_ok.mp h
    cases hn
    obtain ⟨uuid, huuid, h⟩ := bind_eq_ok.mp h
    obtain ⟨huuid, huuidText⟩ := required_eq_ok.mp huuid
    split at h
    case h_2 => cases h
    case h_3 => cases h
    rename_i interface hinterface
    cases h
    exact ⟨id, n, uuid, interface,
      ⟨hid, hidText, ⟨text, htext, Text.readInt64_eq_ok.mp hnumber⟩, huuid, huuidText, hinterface⟩,
      rfl⟩
  · rintro ⟨id, n, uuid, interface, h, rfl⟩
    obtain ⟨text, htext, hnumber⟩ := h.serviceId_eq
    have hread := Text.readInt64_eq_ok.mpr hnumber
    have hblank : ¬ Text.isBlankText text := by
      rw [Text.isBlankText, List.isEmpty_iff]
      exact hnumber.ne_nil
    refine ⟨id, ⟨h.id_eq, h.id_text⟩, text, ⟨htext, hblank⟩, ?_⟩
    rw [hread]
    refine bind_eq_ok.mpr ⟨n, rfl, bind_eq_ok.mpr
      ⟨uuid, required_eq_ok.mpr ⟨h.frameworkUuid_eq, h.frameworkUuid_text⟩, ?_⟩⟩
    rw [h.interface_eq]
    rfl

theorem get?_identify (id : String) (n : ServiceId) (uuid interface : String)
    (p : Properties) (key : String) :
    (identify id n uuid interface p).get? key =
      if key = Key.imported then some "true"
      else if key = Key.objectClass then some interface
      else if key = Key.frameworkUuid then some uuid
      else if key = Key.endpointServiceId then some (Text.int64Text n)
      else if key = Key.endpointId then some id
      else p.get? key := by
  simp only [identify, Properties.get?_set]

theorem identify_identify (id : String) (n : ServiceId) (uuid interface : String) (p : Properties) :
    identify id n uuid interface
      (identify id n uuid interface p) = identify id n uuid interface p :=
  Properties.ext_get? fun key => by
    simp only [get?_identify]
    split_ifs <;> rfl

theorem make_properties (id : String) (n : ServiceId) (uuid interface : String) (p : Properties) :
    make id n uuid interface
      (make id n uuid interface p).properties = make id n uuid interface p := by
  simp only [make, identify_identify]

end Endpoint

/-- What a description holds tells of it, where nothing but its texts is wanting. -/
theorem Properties.describes_make_iff {id uuid interface : String}
    {n : ServiceId} {p : Properties} :
    (Endpoint.make id n uuid interface p).properties.Describes id n uuid interface ↔
      ¬ Text.isBlankText id ∧ ¬ Text.isBlankText uuid ∧ Text.IsItem interface := by
  have hlist : (Endpoint.make id n uuid interface p).properties.list Key.objectClass =
      Text.commaItems interface := by
    rw [list, (Endpoint.make id n uuid interface p).interface_eq]
    rfl
  constructor
  · intro h
    refine ⟨h.id_text, h.frameworkUuid_text, ?_⟩
    rw [← Text.commaItems_eq_self_iff, ← hlist]
    exact h.interface_eq
  · rintro ⟨hid, huuid, hitem⟩
    refine ⟨Endpoint.id_eq _, hid, ⟨_, Endpoint.serviceId_eq _, ?_⟩,
      Endpoint.frameworkUuid_eq _, huuid, ?_⟩
    · rw [Text.trimmed_int64Text]
      exact Text.numeral_int64Text n
    · rw [hlist]
      exact Text.commaItems_eq_self_iff.mpr hitem

theorem Properties.isItem_of_list {p : Properties} {key item : String} (h : p.list key = [item]) :
    Text.IsItem item := by
  rw [list] at h
  split at h
  · exact Text.isItem_of_mem_commaItems (h ▸ List.mem_singleton_self item)
  · cases h

namespace Endpoint

/-- A reader of maps takes those that tell of an endpoint, gives the endpoint that they tell of, and
takes its properties as well. -/
structure Faithful {ε : Type} (read : Properties → Except ε Endpoint) : Prop where
  accepts (p : Properties) : (∃ e, read p = .ok e) ↔ ∃ id n uuid interface,
    p.Describes id n uuid interface
  fields (p : Properties) (e : Endpoint) :
    read p = .ok e → p.Describes e.id e.serviceId e.frameworkUuid e.interface
  unchanged (p : Properties) (e : Endpoint) (key : String) :
    read p = .ok e → key ∉ [Key.endpointServiceId, Key.objectClass, Key.imported] →
    e.properties.get? key = p.get? key
  again (p : Properties) (e : Endpoint) : read p = .ok e → read e.properties = .ok e
  made (id : String) (n : ServiceId) (uuid interface : String) (p : Properties) :
    read (make id n uuid interface p).properties = .ok (make id n uuid interface p) ↔
      ¬ Text.isBlankText id ∧ ¬ Text.isBlankText uuid ∧ Text.IsItem interface

/-- Of an endpoint only three properties need not be those of a map that tells of it. -/
theorem get?_make_of_describes {p : Properties} {id uuid interface key : String} {n : ServiceId}
    (h : p.Describes id n uuid interface)
    (hkey : key ∉ [Key.endpointServiceId, Key.objectClass, Key.imported]) :
    (make id n uuid interface p).properties.get? key = p.get? key := by
  simp only [List.mem_cons, List.not_mem_nil, or_false, not_or] at hkey
  obtain ⟨hserviceId, hobjectClass, himported⟩ := hkey
  change (identify id n uuid interface p).get? key = _
  rw [get?_identify, if_neg himported, if_neg hobjectClass]
  split_ifs with huuid hid
  · rw [huuid, h.frameworkUuid_eq]
  · rw [hid, h.id_eq]
  · rfl

theorem faithful_of_reads {ε : Type} {read : Properties → Except ε Endpoint}
    (h : ∀ p e, read p = .ok e ↔ ofProperties p = .ok e) : Faithful read := by
  have hread (p : Properties) (e : Endpoint) : read p = .ok e ↔
      ∃ id n uuid interface, p.Describes id n uuid interface ∧ e = make id n uuid interface p :=
    (h p e).trans ofProperties_eq_ok
  refine ⟨fun p => ?_, fun p e => ?_, fun p e key => ?_, fun p e => ?_,
    fun id n uuid interface p => ?_⟩
  · simp only [hread]
    constructor
    · rintro ⟨e, id, n, uuid, interface, hp, -⟩
      exact ⟨id, n, uuid, interface, hp⟩
    · rintro ⟨id, n, uuid, interface, hp⟩
      exact ⟨_, id, n, uuid, interface, hp, rfl⟩
  · rw [hread]
    rintro ⟨id, n, uuid, interface, hp, rfl⟩
    exact hp
  · rw [hread]
    rintro ⟨id, n, uuid, interface, hp, rfl⟩ hkey
    exact get?_make_of_describes hp hkey
  · rw [hread, hread]
    rintro ⟨id, n, uuid, interface, hp, rfl⟩
    exact ⟨id, n, uuid, interface,
      Properties.describes_make_iff.mpr ⟨hp.id_text, hp.frameworkUuid_text,
        Properties.isItem_of_list hp.interface_eq⟩,
      (make_properties id n uuid interface p).symm⟩
  · rw [hread]
    constructor
    · rintro ⟨id', n', uuid', interface', hp, heq⟩
      have hp' : (make id n uuid interface p).properties.Describes id n uuid interface := by
        obtain ⟨rfl, rfl, rfl, rfl⟩ : id = id' ∧ n = n' ∧ uuid = uuid' ∧ interface = interface' :=
          ⟨congrArg Endpoint.id heq, congrArg serviceId heq, congrArg frameworkUuid heq,
            congrArg Endpoint.interface heq⟩
        exact hp
      exact Properties.describes_make_iff.mp hp'
    · exact fun hmade => ⟨id, n, uuid, interface, Properties.describes_make_iff.mpr hmade,
        (make_properties id n uuid interface p).symm⟩

/-- Maps are read faithfully, and so are their JSON texts. -/
theorem converts_faithfully :
    Faithful ofProperties ∧ Faithful (fun p => parseJson (.ofList (Json.compact p))) ∧
      Faithful (fun p => parseJson (.ofList (Json.pretty p))) :=
  ⟨faithful_of_reads fun _ _ => Iff.rfl, faithful_of_reads parseJson_compact,
    faithful_of_reads parseJson_pretty⟩

/-- A number with a sign, a zero and white space around it, and a list with an empty item: the map
is read, and what it is read as is read again, also through JSON.  With a blank id it is refused. -/
theorem converts_faithfully_padded :
    ∃ (p : Properties) (e : Endpoint), ofProperties p = .ok e ∧
      p.get? Key.endpointServiceId = some " +042 " ∧
      e.properties.get? Key.endpointServiceId = some "42" ∧
      p.get? Key.objectClass = some " Calc ," ∧ e.interface = "Calc" ∧
      ofProperties e.properties = .ok e ∧ parseJson (.ofList (Json.compact e.properties)) = .ok e ∧
      parseJson (.ofList (Json.pretty e.properties)) = .ok e ∧
      (∀ e', ofProperties (p.set Key.endpointId " \u2003") ≠ .ok e') ∧
      ∀ e', parseJson (.ofList (Json.compact (p.set Key.endpointId " \u2003"))) ≠ .ok e' := by
  let p : Properties := .ofList
    [(Key.endpointId, "e"), (Key.endpointServiceId, " +042 "), (Key.frameworkUuid, "f"),
      (Key.objectClass, " Calc ,")]
  have hread : ofProperties p = .ok (make "e" 42 "f" "Calc" p) := by decide +kernel
  obtain ⟨hmap, hcompact, hpretty⟩ := converts_faithfully
  have hblank {ε : Type} {read : Properties → Except ε Endpoint} (hfaithful : Faithful read)
      (e' : Endpoint) : read (p.set Key.endpointId " \u2003") ≠ .ok e' := by
    intro hread'
    have hdescribes := hfaithful.fields _ _ hread'
    have hid : " \u2003" = e'.id :=
      Option.some.inj ((Properties.get?_set_self ..).symm.trans hdescribes.id_eq)
    exact hdescribes.id_text (hid ▸ by decide +kernel)
  exact ⟨p, _, hread, by decide +kernel, by decide +kernel, by decide +kernel,
    rfl, hmap.again _ _ hread, hcompact.again _ _ ((parseJson_compact _ _).mpr hread),
    hpretty.again _ _ ((parseJson_pretty _ _).mpr hread), hblank hmap, hblank hcompact⟩

end Endpoint

end RemoteServices
