import RemoteServices.Proofs.Base
import RemoteServices.Proofs.ExportPass
import RemoteServices.Proofs.Reachable

/-!
# Addresses to listen on

If no host is set to be advertised, the address to listen on is.  Whatever address that is, and
however it is written, the endpoints have URLs with that address, or the loopback address if it is
no particular one: `Http.Location.listenable_advertised`.
-/
namespace RemoteServices

/-- The loopback address stands in for an address that is no particular one. -/
def Ip.particular (ip : Ip) : Ip := if ip.isUnspecified then .v4 ⟨127, 0, 0, 1⟩ else ip

namespace Http.Location

open Url

variable {s : HttpSettings} {ip : Ip}

theorem ofChars?_advertisedHost (hnone : s.advertiseHost = none ∨ s.advertiseHost = some "")
    (hip : s.listenAddress = .ok ip) :
    Ip.ofChars? s.advertisedHost.toList = some ip.particular := by
  have hbind : Ip.ofChars? s.bindAddress.toList = some ip := by
    rw [HttpSettings.listenAddress] at hip
    split at hip
    · cases hip
      assumption
    · cases hip
  have hhost : s.advertisedHost = if ip.isUnspecified then "127.0.0.1" else s.bindAddress := by
    rcases hnone with h | h <;>
      simp [HttpSettings.advertisedHost, HttpSettings.advertisedHost.fromAddress, h, hbind]
  rw [hhost, Ip.particular]
  split
  · decide +kernel
  · exact hbind

theorem kept_eq_self {cs : List Char} (h : ∀ c ∈ cs, Host.isOfAddress c ∨ c = '[' ∨ c = ']') :
    kept cs = cs := by
  refine List.filter_eq_self.mpr fun c hc => ?_
  rw [Bool.not_eq_true', ← Bool.not_eq_true]
  intro hignored
  simp only [isIgnored, Bool.or_eq_true, beq_iff_eq] at hignored
  rcases hignored with (rfl | rfl) | rfl <;> exact absurd (h _ hc) (by decide)

theorem pointsAt_of_address {l : Location} {x : Ip}
    (h : Ip.ofChars? l.settings.advertisedHost.toList = some x) :
    l.PointsAt (root (.address x) l.port) := by
  refine ⟨.address x, ?_, rfl⟩
  rw [Ip.ofChars?] at h
  split at h
  · rename_i y hy
    cases h
    have htext : l.hostText = l.settings.advertisedHost.toList := by
      simp [hostText, ip6_eq_none_of_ip4 hy]
    rw [htext, kept_eq_self fun c hc => .inl (Host.isOfAddress_of_ip4 hy c hc)]
    exact Host.ofChars_of_ip4 hy
  · obtain ⟨y, hy, rfl⟩ := Option.map_eq_some_iff.mp h
    have htext : l.hostText = '[' :: (l.settings.advertisedHost.toList ++ [']']) := by
      simp [hostText, hy]
    have haddress := Host.isOfAddress_of_readIp6 (Host.readIp6_of_ofChars? hy)
    rw [htext, kept_eq_self]
    · exact Host.ofChars_of_ip6 hy
    · exact List.forall_mem_cons.mpr ⟨.inr (.inl rfl), List.forall_mem_append.mpr
        ⟨fun c hc => .inl (haddress c hc), List.forall_mem_singleton.mpr (.inr (.inr rfl))⟩⟩

/-- The URL below which all endpoints are has the address. -/
theorem base_of_listenAddress (hnone : s.advertiseHost = none ∨ s.advertiseHost = some "")
    (hip : s.listenAddress = .ok ip) (port : UInt16) :
    (⟨s, port⟩ : Location).base = .ok (root (.address ip.particular) port) := by
  have hpoints := pointsAt_of_address (l := ⟨s, port⟩) (ofChars?_advertisedHost hnone hip)
  exact hpoints.plain.base_eq_ok.mpr hpoints

end Http.Location

namespace Session

variable {O : Objects} {env : Environment O} {serviceId : ServiceId}

theorem exportInterface_ne_config
    (hconnection : ∀ j interface reason,
      env.connection j serviceId interface ≠ .error (.config reason))
    (service : TrackedService O) (interface : String) (s : Session O) (reason : String) :
    (exportInterface env serviceId service interface s).1 ≠ .error (.config reason) := by
  intro h
  rw [exportInterface] at h
  split at h
  · cases h
  · dsimp only at h
    split at h
    · rename_i fault hfault
      cases h
      exact hconnection _ _ _ hfault
    · split at h <;> cases h

theorem exportInterfaces_ne_config
    (hconnection : ∀ j interface reason,
      env.connection j serviceId interface ≠ .error (.config reason))
    (service : TrackedService O) (interfaces : List String) (s : Session O) (reason : String) :
    (exportInterfaces env serviceId service interfaces s).1.failure ≠ some (.config reason) := by
  induction interfaces generalizing s with
  | nil => exact fun h => by cases h
  | cons interface interfaces ih =>
    rw [exportInterfaces]
    split
    · exact ih s
    · have hfirst := exportInterface_ne_config hconnection service interface s reason
      dsimp only
      generalize exportInterface env serviceId service interface s = first at hfirst ⊢
      obtain ⟨answer, s'⟩ := first
      dsimp only at hfirst ⊢
      rw [Outcome.cons.eq_def]
      split
      · exact ih s'
      · exact ih s'
      · intro h
        cases h
        exact hfirst rfl

theorem exportService_ne_config
    (hconnection : ∀ j interface reason,
      env.connection j serviceId interface ≠ .error (.config reason))
    (s : Session O) (reason : String) :
    (exportService env serviceId s).1.failure ≠ some (.config reason) := by
  rw [exportService]
  split
  · exact fun h => by cases h
  · split
    · rename_i fault hfault
      obtain ⟨illegal, rfl⟩ := illegalArgument_of_selectInterfaces hfault
      exact fun h => by cases h
    · exact exportInterfaces_ne_config hconnection _ _ s reason

end Session

namespace Http.Location

open Url

variable {s : HttpSettings} {ip : Ip}

/-- Whatever address a process can listen at, its endpoints have URLs with that address and the
port, unless it is told to advertise another host.  So no export fails for its settings, whatever
happened before. -/
theorem listenable_advertised (hnone : s.advertiseHost = none ∨ s.advertiseHost = some "")
    (hip : s.listenAddress = .ok ip) :
    (∀ port, (⟨s, port⟩ : Location).base = .ok (root (.address ip.particular) port)) ∧
    (∀ port n interface, ∃ u, (⟨s, port⟩ : Location).endpointUrl n interface = .ok u ∧
      u.host = .address ip.particular ∧
      u.port.getD defaultPort = port ∧
      (⟨s, port⟩ : Location).connection n interface =
        .ok ((∅ : Properties).set Key.httpUrl u.render)) ∧
    ∀ (O : Objects) (env : Environment O),
      (∀ j n interface, ∃ port,
        env.connection j n interface = (⟨s, port⟩ : Location).connection n interface) →
      ∀ (session : Session O) (n : ServiceId) (reason : String),
        (∀ service interface, (Session.exportInterface env n service interface session).1 ≠
          .error (.config reason)) ∧
        (Session.exportService env n session).1.failure ≠ some (.config reason) := by
  have hbase := base_of_listenAddress hnone hip
  have hurl (port : UInt16) (n : ServiceId) (interface : String) :
      ∃ u, (⟨s, port⟩ : Location).endpointUrl n interface = .ok u ∧
      u.host = .address ip.particular ∧
        u.port.getD defaultPort = port ∧
        (⟨s, port⟩ : Location).connection n interface =
          .ok ((∅ : Properties).set Key.httpUrl u.render) := by
    have hendpoint : (⟨s, port⟩ : Location).endpointUrl n interface =
      .ok ((root (.address ip.particular) port).withPath
        ["service".toList, (Text.int64Text n).toList, interface.toList]) := by
      rw [endpointUrl, hbase]
      rfl
    refine ⟨_, hendpoint, rfl, ?_, ?_⟩
    · change (if port = defaultPort then none else some port).getD defaultPort = port
      split
      · rename_i h
        exact h.symm
      · rfl
    · rw [connection, hendpoint]
      rfl
  refine ⟨hbase, hurl, fun O env henv session n reason => ?_⟩
  have hconnection (j : Journal) (interface reason : String) :
      env.connection j n interface ≠ .error (.config reason) := by
    obtain ⟨port, hport⟩ := henv j n interface
    obtain ⟨u, -, -, -, hok⟩ := hurl port n interface
    rw [hport, hok]
    exact fun h => by cases h
  exact ⟨fun service interface =>
    Session.exportInterface_ne_config hconnection service interface session reason,
      Session.exportService_ne_config hconnection session reason⟩

/-- An address that is contracted and ends in one of version 4, with a transport that counts ports
up; and the address that is no particular one, in either version. -/
theorem listenable_advertised_contracted :
    let s : HttpSettings := { bindAddress := "2001:DB8::1.2.3.4", advertiseHost := some "" }
    let ip : Ip := .v6 ⟨[0x2001, 0xdb8, 0, 0, 0, 0, 0x102, 0x304], rfl⟩
    let env : Environment .plain := { Environment.granting with
      connection :=
        fun j n interface => (⟨s, .ofNat (8000 + j.length)⟩ : Location).connection n interface }
    s.advertiseHost = some "" ∧ s.listenAddress = .ok ip ∧
      (⟨s, 80⟩ : Location).base = .ok ⟨none, .address ip, none, [[]], none, none⟩ ∧
      (∀ session n reason,
        (Session.exportService env n session).1.failure ≠ some (.config reason)) ∧
      ∀ anyAddress ∈ ["0.0.0.0", "::"],
        (⟨{ bindAddress := anyAddress }, 80⟩ : Location).base =
          .ok ⟨none, .address (.v4 ⟨127, 0, 0, 1⟩), none, [[]], none, none⟩ := by
  intro s ip env
  have listens (text : String) (host : Option String) {ip : Ip}
      (hread : Ip.ofChars? text.toList = some ip) :
      HttpSettings.listenAddress { bindAddress := text, advertiseHost := host } = .ok ip := by
    rw [HttpSettings.listenAddress, hread]
  have hip : s.listenAddress = .ok ip := listens _ _ (by decide +kernel)
  obtain ⟨hbase, -, hexport⟩ := listenable_advertised (.inr rfl) hip
  have hv4 : HttpSettings.listenAddress { bindAddress := "0.0.0.0" } = .ok (.v4 ⟨0, 0, 0, 0⟩) :=
    listens _ none (by decide +kernel)
  have hv6 : HttpSettings.listenAddress { bindAddress := "::" } =
      .ok (.v6 ⟨[0, 0, 0, 0, 0, 0, 0, 0], rfl⟩) :=
    listens _ none (by decide +kernel)
  refine ⟨rfl, hip, hbase 80, fun session n reason => ?_, ?_⟩
  · exact (hexport .plain env (fun _ _ _ => ⟨_, rfl⟩) session n reason).2
  · rw [List.forall_mem_cons, List.forall_mem_singleton]
    exact ⟨(listenable_advertised (.inl rfl) hv4).1 80, (listenable_advertised (.inl rfl) hv6).1 80⟩

end Http.Location

end RemoteServices
