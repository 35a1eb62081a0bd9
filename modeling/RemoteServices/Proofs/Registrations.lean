import RemoteServices.Proofs.Keyed
import RemoteServices.Proofs.Listing
import RemoteServices.Proofs.Shown
import Mathlib

/-!
# What a space holds

A space is asked to register and to unregister proxies.  What it holds then are the registrations
after which nothing more was asked about their endpoint, `ServiceSpace.Stands`; and it finds them in
the order in which they were made, however its entries are arranged,
`ServiceSpace.serves_registrations`.
-/
namespace RemoteServices.ServiceSpace

variable {Proxy : Type}

inductive Request (Proxy : Type)
  | register (endpointId interface : String) (proxy : Proxy) (p : Properties)
  | unregister (endpointId : String)

namespace Request

def endpointId : Request Proxy → String
  | register endpointId .. => endpointId
  | unregister endpointId => endpointId

def registers : Request Proxy → Bool
  | register .. => true
  | unregister _ => false

end Request

def grant (s : ServiceSpace Proxy) : Request Proxy → ServiceSpace Proxy
  | .register endpointId interface proxy p => s.register endpointId interface proxy p
  | .unregister endpointId => s.unregister endpointId

/-- The space that granted the requests in turn. -/
def after (requests : List (Request Proxy)) : ServiceSpace Proxy := requests.foldl grant ∅

def registrations (requests : List (Request Proxy)) : Nat := requests.countP Request.registers

theorem registrations_concat (requests : List (Request Proxy)) (q : Request Proxy) :
    registrations (requests ++ [q]) = registrations requests + q.registers.toNat := by
  rw [registrations, List.countP_append, List.countP_singleton]
  cases q.registers <;> rfl

/-- The properties are those that come with the `n`-th registration, but for three of them. -/
def Stamped (n : Nat) (interface : String) (given properties : Properties) : Prop :=
  ∀ key, properties.get? key =
    if key = Key.imported then some "true"
    else if key = Key.objectClass then some interface
    else if key = Key.serviceId then some (toString n)
    else given.get? key

/-- The `n`-th registration was of this proxy, under this interface, and it was the last request
about the endpoint. -/
def Stands (requests : List (Request Proxy)) (n : Nat) (interface : String)
    (r : RegisteredProxy Proxy) : Prop :=
  ∃ before given later, requests = before ++
    .register r.endpointId interface r.proxy given :: later ∧
    n = registrations before + 1 ∧ (∀ q ∈ later, q.endpointId ≠ r.endpointId) ∧
    Stamped n interface given r.properties

theorem number_eq {r : RegisteredProxy Proxy} {n : Nat}
    (h : r.properties.get? Key.serviceId = some (toString n)) (hn : n < 2 ^ 63) :
    r.number = .ofNat n := by
  have hread := Text.readInt64_eq_ok.mpr (Text.numeral_int64Text (.ofNat n))
  rw [RegisteredProxy.number, Properties.int64?, h, ← Text.int64Text_ofNat (Nat.le_of_lt_succ hn)]
  dsimp only
  rw [Text.trimmed_int64Text, hread]
  rfl

namespace Stands

variable {requests : List (Request Proxy)} {n : Nat} {interface : String}
  {r : RegisteredProxy Proxy}

theorem le (h : Stands requests n interface r) : n ≤ registrations requests := by
  obtain ⟨before, given, later, rfl, rfl, -⟩ := h
  rw [registrations, registrations, List.countP_append, List.countP_cons_of_pos rfl]
  omega

theorem number (h : Stands requests n interface r) (hn : registrations requests < 2 ^ 63) :
    r.number = .ofNat n := by
  have hle := h.le
  obtain ⟨before, given, later, -, -, -, hproperties⟩ := h
  exact number_eq (hproperties Key.serviceId) (by omega)

theorem toInt_number (h : Stands requests n interface r) (hn : registrations requests < 2 ^ 63) :
    r.number.toInt = n := by
  have hle := h.le
  rw [h.number hn, Int64.toInt_ofNat_of_lt (by omega)]

theorem objectClass (h : Stands requests n interface r) :
    r.properties.get? Key.objectClass = some interface := by
  obtain ⟨before, given, later, -, -, -, hproperties⟩ := h
  exact hproperties Key.objectClass

end Stands

theorem not_stands_nil {n : Nat} {interface : String} {r : RegisteredProxy Proxy} :
    ¬ Stands [] n interface r := by
  rintro ⟨before, given, later, h, -⟩
  simp at h

/-- What stood stays, unless the last request is about its endpoint; and what is registered last
stands. -/
theorem stands_concat {requests : List (Request Proxy)} {q : Request Proxy}
    {n : Nat} {interface : String} {r : RegisteredProxy Proxy} :
    Stands (requests ++ [q]) n interface r ↔
      Stands requests n interface r ∧ q.endpointId ≠ r.endpointId ∨
      ∃ given, q = .register r.endpointId interface r.proxy given ∧ n = registrations requests + 1 ∧
        Stamped n interface given r.properties := by
  constructor
  · rintro ⟨before, given, later, heq, hn, hlater, hproperties⟩
    rcases List.eq_nil_or_concat later with rfl | ⟨later, last, rfl⟩
    · obtain ⟨rfl, hq⟩ := List.append_inj' heq rfl
      exact .inr ⟨given, List.singleton_inj.mp hq, hn, hproperties⟩
    · rw [List.concat_eq_append, ← List.cons_append, ← List.append_assoc] at heq
      obtain ⟨rfl, hq⟩ := List.append_inj' heq rfl
      obtain rfl := List.singleton_inj.mp hq
      rw [List.concat_eq_append, List.forall_mem_append] at hlater
      exact .inl ⟨⟨before, given, later, rfl, hn, hlater.1, hproperties⟩,
        hlater.2 q List.mem_cons_self⟩
  · rintro (⟨⟨before, given, later, rfl, hn, hlater, hproperties⟩, hq⟩ | ⟨given, rfl,
      hn, hproperties⟩)
    · refine ⟨before, given, later ++ [q], by simp, hn, ?_, hproperties⟩
      rw [List.forall_mem_append]
      exact ⟨hlater, by simpa using hq⟩
    · exact ⟨requests, given, [], rfl, hn, by simp, hproperties⟩

/-- The space holds what stands, each proxy once and in the order of the numbers. -/
structure Holds (s : ServiceSpace Proxy) (requests : List (Request Proxy)) : Prop where
  stands : ∀ r, r ∈ s.proxies ↔ ∃ n interface, Stands requests n interface r
  distinct : (s.proxies.map RegisteredProxy.endpointId).Nodup
  ascending : s.proxies.Pairwise fun a b => a.number < b.number
  next : s.nextNumber = .ofNat (registrations requests + 1)

variable {s : ServiceSpace Proxy} {requests : List (Request Proxy)}

theorem Holds.unregister (h : s.Holds requests) (endpointId : String) :
    (s.unregister endpointId).Holds (requests ++ [.unregister endpointId]) where
  stands r := by
    have hconcat (n : Nat) (interface : String) :
      Stands (requests ++ [.unregister endpointId]) n interface r ↔
        Stands requests n interface r ∧ endpointId ≠ r.endpointId := by
      rw [stands_concat]
      simp [Request.endpointId]
    simp only [ServiceSpace.unregister, List.mem_filter, h.stands, hconcat, bne_iff_ne,
      ne_comm (a := endpointId), exists_and_right]
  distinct := h.distinct.sublist (List.filter_sublist.map _)
  ascending := h.ascending.filter _
  next := by
    rw [registrations, List.countP_append]
    exact h.next

theorem Holds.register (h : s.Holds requests) (hbound : registrations requests + 1 < 2 ^ 63)
    (endpointId interface : String) (proxy : Proxy) (given : Properties) :
    (s.register endpointId interface proxy given).Holds
      (requests ++ [.register endpointId interface proxy given]) := by
  let r : RegisteredProxy Proxy := ⟨endpointId, proxy, registration s.nextNumber interface given⟩
  have hstamped : Stamped (registrations requests + 1) interface given r.properties := by
    intro key
    rw [← Text.int64Text_ofNat (Nat.le_of_lt_succ hbound), ← h.next]
    exact get?_registration s.nextNumber interface given key
  have hnumber : r.number = .ofNat (registrations requests + 1) :=
    number_eq (hstamped Key.serviceId) hbound
  have hproxies : (s.register endpointId interface proxy given).proxies =
      (s.unregister endpointId).proxies ++ [r] := rfl
  have hrest := h.unregister endpointId
  constructor
  case stands =>
    intro x
    rw [hproxies, List.mem_append, hrest.stands, List.mem_singleton]
    simp only [stands_concat, Request.endpointId, exists_or, reduceCtorEq, false_and,
      exists_false, or_false]
    refine or_congr_right ⟨?_, ?_⟩
    · rintro rfl
      exact ⟨_, _, _, rfl, rfl, hstamped⟩
    · rintro ⟨n, interface', given', heq, rfl, hx⟩
      obtain ⟨hid, rfl, hproxy, rfl⟩ := Request.register.inj heq
      have hproperties : x.properties = r.properties :=
        Properties.ext_get? fun key => (hx key).trans (hstamped key).symm
      rw [show x = ⟨x.endpointId, x.proxy, x.properties⟩ from rfl, ← hid, ← hproxy, hproperties]
  case distinct =>
    rw [hproxies]
    refine nodup_concat_key hrest.distinct fun hmem => ?_
    obtain ⟨x, hx, hid⟩ := List.mem_map.mp hmem
    have hne : x.endpointId ≠ endpointId := bne_iff_ne.mp (List.mem_filter.mp hx).2
    exact hne hid
  case ascending =>
    rw [hproxies, List.pairwise_append]
    refine ⟨hrest.ascending, List.pairwise_singleton _ _, fun x hx y hy => ?_⟩
    obtain rfl := List.mem_singleton.mp hy
    obtain ⟨n, _, hstands⟩ := (h.stands x).mp (List.mem_of_mem_filter hx)
    have hle := hstands.le
    rw [Int64.lt_iff_toInt_lt, hnumber, hstands.toInt_number (by omega),
      Int64.toInt_ofNat_of_lt hbound]
    omega
  case next =>
    rw [registrations, List.countP_append]
    change s.nextNumber + 1 = _
    rw [h.next]
    exact (Int64.ofNat_add _ 1).symm

theorem holds_after (requests : List (Request Proxy)) (h : registrations requests < 2 ^ 63 - 1) :
    (after requests).Holds requests := by
  induction requests using List.reverseRecOn with
  | nil =>
    refine ⟨fun r => iff_of_false List.not_mem_nil ?_, .nil, .nil, rfl⟩
    rintro ⟨n, interface, hstands⟩
    exact not_stands_nil hstands
  | append_singleton requests q ih =>
    rw [registrations_concat] at h
    rw [after, List.foldl_append]
    cases q with
    | register endpointId interface proxy given =>
      rw [Request.registers, Bool.toNat_true] at h
      exact (ih (by omega)).register (by omega) endpointId interface proxy given
    | unregister endpointId => exact (ih (by omega)).unregister endpointId

/-- Another arrangement of the same entries is sorted back. -/
theorem Holds.find_eq (h : s.Holds requests) {t : ServiceSpace Proxy}
    (ht : t.proxies.Perm s.proxies) (f : Filter) :
    t.find f = s.proxies.filter fun r => f.matches r.properties := by
  have hnumbers : (s.proxies.map RegisteredProxy.number).Nodup :=
    List.pairwise_map.mpr (h.ascending.imp fun hlt => (Int64.ne_of_lt hlt))
  have hperm : (t.find f).Perm (s.proxies.filter fun r => f.matches r.properties) :=
    (List.mergeSort_perm _ _).trans (ht.filter _)
  have hfound : (t.find f).Pairwise fun a b => a.number ≤ b.number := by
    refine (List.pairwise_mergeSort (fun a b c hab hbc => ?_)
      (fun a b => ?_) _).imp of_decide_eq_true
    · exact decide_eq_true (Int64.le_trans (of_decide_eq_true hab) (of_decide_eq_true hbc))
    · simpa using Int64.le_total a.number b.number
  have hheld : (s.proxies.filter fun r => f.matches r.properties).Pairwise fun a b =>
      a.number ≤ b.number :=
    (h.ascending.filter _).imp fun hlt => Int64.le_of_lt hlt
  refine List.Perm.eq_of_pairwise (fun a b ha hb hab hba => ?_) hfound hheld hperm
  exact List.inj_on_of_nodup_map hnumbers (List.mem_of_mem_filter (hperm.subset ha))
    (List.mem_of_mem_filter hb)
    (Int64.le_antisymm hab hba)

/-- What a space answers that was asked for registrations. -/
structure Serves (s : ServiceSpace Proxy) (requests : List (Request Proxy)) : Prop where
  found : ∀ f : Filter, f.Chunked → ∀ r, r ∈ s.find f ↔
    (∃ n interface, Stands requests n interface r) ∧ f.Satisfied r.properties
  once : ∀ f, ((s.find f).map RegisteredProxy.endpointId).Nodup
  ordered : ∀ f, (s.find f).Pairwise fun a b => a.number < b.number
  /-- The numbers are those of the registrations. -/
  numbered : ∀ n interface r, Stands requests n interface r → r.number.toInt = n
  size_eq : s.size =
    {endpointId | ∃ n interface r, Stands requests n interface r ∧ r.endpointId = endpointId}.ncard
  /-- The oldest registration that stands answers for an interface. -/
  first : ∀ interface, ',' ∉ interface.toList →
    (∀ n interface r, Stands requests n interface r → ',' ∉ interface.toList) →
    ∀ proxy, s.get? interface = some proxy ↔
      ∃ n r, Stands requests n interface r ∧ r.proxy = proxy ∧ ∀ m r',
      Stands requests m interface r' → n ≤ m

theorem Holds.ncard (h : s.Holds requests) :
    {endpointId | ∃ n interface r, Stands requests n interface r ∧
      r.endpointId = endpointId}.ncard = s.proxies.length := by
  have hset :
    {endpointId | ∃ n interface r, Stands requests n interface r ∧ r.endpointId = endpointId} =
      ↑(s.proxies.map RegisteredProxy.endpointId).toFinset := by
    ext endpointId
    simp only [Set.mem_ofPred_eq, List.coe_toFinset, List.mem_map, h.stands]
    constructor
    · rintro ⟨n, interface, r, hstands, rfl⟩
      exact ⟨r, ⟨n, interface, hstands⟩, rfl⟩
    · rintro ⟨r, ⟨n, interface, hstands⟩, rfl⟩
      exact ⟨n, interface, r, hstands, rfl⟩
  rw [hset, Set.ncard_coe_finset, List.toFinset_card_of_nodup h.distinct, List.length_map]

theorem Stands.matches_exactly {n : Nat} {interface wanted : String} {r : RegisteredProxy Proxy}
    (h : Stands requests n interface r) (hinterface : ',' ∉ interface.toList) :
    (Filter.exactly Key.objectClass wanted).matches r.properties ↔ interface = wanted := by
  rw [Filter.matches_iff (Filter.chunked_exactly _ _), Filter.exactly,
    Filter.Satisfied, h.objectClass]
  simp [Filter.fitsValue_singleton, hinterface]

theorem head?_eq_some_iff {l : List (RegisteredProxy Proxy)}
    (h : l.Pairwise fun a b => a.number < b.number) {r : RegisteredProxy Proxy} :
    l.head? = some r ↔ r ∈ l ∧ ∀ r' ∈ l, r.number ≤ r'.number := by
  cases l with
  | nil => simp
  | cons a l =>
    obtain ⟨ha, -⟩ := List.pairwise_cons.mp h
    rw [List.head?_cons, Option.some.injEq]
    constructor
    · rintro rfl
      exact ⟨List.mem_cons_self, List.forall_mem_cons.mpr
        ⟨Int64.le_refl _, fun b hb => Int64.le_of_lt (ha b hb)⟩⟩
    · rintro ⟨hr, hleast⟩
      rcases List.mem_cons.mp hr with rfl | hr
      · rfl
      · exact absurd (hleast a List.mem_cons_self) (Int64.not_le.mpr (ha r hr))

theorem Holds.serves (h : s.Holds requests) (hbound : registrations requests < 2 ^ 63)
    {t : ServiceSpace Proxy} (ht : t.proxies.Perm s.proxies) : t.Serves requests where
  found f hf r := by
    rw [h.find_eq ht, List.mem_filter, h.stands, Filter.matches_iff hf]
  once f := by
    rw [h.find_eq ht]
    exact h.distinct.sublist (List.filter_sublist.map _)
  ordered f := by
    rw [h.find_eq ht]
    exact h.ascending.filter _
  numbered n interface r hstands := hstands.toInt_number hbound
  size_eq := by rw [h.ncard, size, ht.length_eq]
  first wanted hwanted hplain proxy := by
    have hmem (r : RegisteredProxy Proxy) :
        r ∈ t.find (.exactly Key.objectClass wanted) ↔ ∃ n, Stands requests n wanted r := by
      rw [h.find_eq ht, List.mem_filter, h.stands]
      constructor
      · rintro ⟨⟨n, interface, hstands⟩, hmatches⟩
        obtain rfl := (hstands.matches_exactly (hplain _ _ _ hstands)).mp hmatches
        exact ⟨n, hstands⟩
      · rintro ⟨n, hstands⟩
        exact ⟨⟨n, wanted, hstands⟩, (hstands.matches_exactly hwanted).mpr rfl⟩
    have hordered := h.ascending.filter fun r =>
      (Filter.exactly Key.objectClass wanted).matches r.properties
    rw [← h.find_eq ht] at hordered
    simp only [get?, firstOf, Option.map_eq_some_iff, head?_eq_some_iff hordered, hmem]
    constructor
    · rintro ⟨r, ⟨⟨n, hstands⟩, hleast⟩, rfl⟩
      refine ⟨n, r, hstands, rfl, fun m r' hstands' => ?_⟩
      have hle := Int64.le_iff_toInt_le.mp (hleast r' ⟨m, hstands'⟩)
      rw [hstands.toInt_number hbound, hstands'.toInt_number hbound] at hle
      exact_mod_cast hle
    · rintro ⟨n, r, hstands, rfl, hleast⟩
      refine ⟨r, ⟨⟨n, hstands⟩, fun r' hr' => ?_⟩, rfl⟩
      obtain ⟨m, hstands'⟩ := hr'
      rw [Int64.le_iff_toInt_le, hstands.toInt_number hbound, hstands'.toInt_number hbound]
      exact_mod_cast hleast m r' hstands'

/-- The id that the space shows for the proxy of an endpoint. -/
def serviceId? (s : ServiceSpace Proxy) (endpointId : String) : Option String :=
  (s.proxies.find? (·.endpointId == endpointId)).bind (·.properties.get? Key.serviceId)

/-- The ids that registrations give, each as the space shows it right after. -/
def idsGiven (s : ServiceSpace Proxy) : List (Request Proxy) → List (Option String)
  | [] => []
  | .register endpointId interface proxy p :: requests =>
    (s.register endpointId interface proxy p).serviceId? endpointId ::
      idsGiven (s.register endpointId interface proxy p) requests
  | .unregister endpointId :: requests => idsGiven (s.unregister endpointId) requests

theorem serviceId?_register (s : ServiceSpace Proxy) (endpointId interface : String)
    (proxy : Proxy) (p : Properties) :
    (s.register endpointId interface proxy p).serviceId? endpointId = some
      (Text.int64Text s.nextNumber) := by
  have hnone : (s.unregister endpointId).proxies.find? (·.endpointId == endpointId) = none := by
    rw [find?_key_eq_none]
    exact fun r hr => bne_iff_ne.mp (List.mem_filter.mp hr).2
  rw [serviceId?, register, List.find?_append, hnone, Option.none_or,
    List.find?_cons_of_pos (by simp)]
  exact get?_registration s.nextNumber interface p Key.serviceId

theorem idsGiven_eq {k : Nat} (requests : List (Request Proxy)) (hs : s.nextNumber = .ofNat k)
    (hbound : k + registrations requests ≤ 2 ^ 63) :
    s.idsGiven requests = (List.range' k (registrations requests)).map fun n =>
    some (toString n) := by
  induction requests generalizing s k with
  | nil => rfl
  | cons q requests ih =>
    cases q with
    | register endpointId interface proxy p =>
      have hcount : registrations (.register endpointId interface proxy p :: requests) =
          registrations requests + 1 :=
        List.countP_cons_of_pos rfl
      have hnext : (s.register endpointId interface proxy p).nextNumber = .ofNat (k + 1) := by
        rw [register, hs]
        exact (Int64.ofNat_add k 1).symm
      rw [hcount] at hbound ⊢
      rw [idsGiven, serviceId?_register, hs, Text.int64Text_ofNat (by rw [Text.maxInt64]; omega),
        ih hnext (by omega), List.range'_succ, List.map_cons]
    | unregister endpointId =>
      have hcount : registrations (.unregister endpointId :: requests) = registrations requests :=
        List.countP_cons_of_neg Bool.false_ne_true
      rw [hcount] at hbound ⊢
      rw [idsGiven, ih (s := s.unregister endpointId) hs hbound]

/-- A space finds what is registered and was not registered again or unregistered since, each in its
turn, under a number that was never given before.  In which order it keeps the entries makes no
difference. -/
theorem serves_registrations (requests : List (Request Proxy)) (h : requests.length < 2 ^ 63 - 1) :
    (∀ t : ServiceSpace Proxy, t.proxies.Perm (after requests).proxies → t.Serves requests) ∧
    (∅ : ServiceSpace Proxy).idsGiven requests =
      ((List.range' 1 (registrations requests)).map fun n => some (toString n)) ∧
    ((∅ : ServiceSpace Proxy).idsGiven requests).Nodup := by
  have hcount : registrations requests ≤ requests.length := List.countP_le_length
  have hids := idsGiven_eq (s := (∅ : ServiceSpace Proxy)) (k := 1) requests rfl (by omega)
  refine ⟨fun t ht => (holds_after requests (by omega)).serves (by omega) ht, hids, ?_⟩
  rw [hids]
  exact (List.nodup_range' 1).map fun m n hmn => Text.eq_of_toString_eq (Option.some.inj hmn)

/-- One endpoint is registered again, after another of the same interface, and one is withdrawn; the
entries are kept in reverse. -/
theorem serves_registrations_again :
    let requests : List (Request Nat) := [
      .register "e1" "A" 1 (.ofList [(Key.serviceId, "99")]), .register "e2" "A" 2 ∅,
      .register "e1" "A" 3 (.ofList [("region", "eu")]), .register "e3" "B" 4 ∅, .unregister "e3"]
    let t : ServiceSpace Nat := ⟨(after requests).proxies.reverse, 0⟩
    let f : Filter := .equal "region" ["e", ""]
    requests.length < 2 ^ 63 - 1 ∧ t.Serves requests ∧
      (∅ : ServiceSpace Nat).idsGiven requests = [some "1", some "2", some "3", some "4"] ∧
      (∃ r ∈ t.find f, r.proxy = 3 ∧ (∃ n interface, Stands requests n interface r) ∧
        f.Satisfied r.properties) ∧
      ∃ n r, Stands requests n "A" r ∧ r.proxy = 2 ∧ ∀ m r', Stands requests m "A" r' → n ≤ m := by
  intro requests t f
  have hlength : requests.length < 2 ^ 63 - 1 := by decide
  obtain ⟨hserves, hids, -⟩ := serves_registrations requests hlength
  have hserves := hserves t (List.reverse_perm _)
  have hplain : ∀ n interface r, Stands requests n interface r → ',' ∉ interface.toList := by
    rintro n interface r ⟨before, given, later, heq, -⟩
    have hmem : Request.register r.endpointId interface r.proxy given ∈ requests := by
      rw [heq]
      exact List.mem_append_right _ List.mem_cons_self
    have hinterface : interface = "A" ∨ interface = "B" := by
      simp only [requests, List.mem_cons, Request.register.injEq,
        List.not_mem_nil, reduceCtorEq] at hmem
      tauto
    rcases hinterface with rfl | rfl <;> decide
  have hchunked : f.Chunked := by
    rw [Filter.Chunked]
    exact List.cons_ne_nil _ _
  have hfound : (t.find f).map RegisteredProxy.proxy = [3] := by cbv
  obtain ⟨r, hr, hproxy⟩ := List.mem_map.mp (hfound ▸ List.mem_singleton_self 3)
  obtain ⟨hstands, hsatisfied⟩ := (hserves.found f hchunked r).mp hr
  have hget : t.get? "A" = some 2 := by cbv
  exact ⟨hlength, hserves, hids, ⟨r, hr, hproxy, hstands, hsatisfied⟩,
    (hserves.first "A" (by decide) hplain 2).mp hget⟩

end RemoteServices.ServiceSpace
