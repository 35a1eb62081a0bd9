import RemoteServices.Error
import RemoteServices.Http.Route
import RemoteServices.Proofs.Percent

/-!
# The path in the text of a URL

Name, host and port of a URL that was read hold nothing that delimits the parts of a URL
(`Url.Delimited`).  So the path that is found in its text is the path that it has,
`Http.pathOf_render`.
-/
namespace RemoteServices

namespace Url

/-- What delimits the parts of a URL is in none that comes before the path. -/
structure Delimited (u : Url) : Prop where
  userinfo : ∀ i ∈ u.userinfo, ∀ c ∈ i, ¬ endsAuthority c
  host : ∀ c ∈ u.host.render, ¬ endsAuthority c

theorem forall_mem_intercalate {P : Char → Prop} {sep : String} {parts : List String}
    (hsep : ∀ c ∈ sep.toList, P c) (hparts : ∀ s ∈ parts, ∀ c ∈ s.toList, P c) :
    ∀ c ∈ (sep.intercalate parts).toList, P c := by
  induction parts with
  | nil => simp
  | cons s parts ih =>
    obtain ⟨hs, hparts⟩ := List.forall_mem_cons.mp hparts
    cases parts with
    | nil => simpa using hs
    | cons t parts =>
      rw [String.intercalate_cons_cons, String.toList_append, String.toList_append]
      exact List.forall_mem_append.mpr ⟨List.forall_mem_append.mpr ⟨hs, hsep⟩, ih hparts⟩

theorem not_endsAuthority_digitChar (n : Nat) : ¬ endsAuthority n.digitChar := by
  rw [endsAuthority_iff, not_or, not_or, not_or]
  exact ⟨Nat.digitChar_ne '/' rfl, Nat.digitChar_ne '\\' rfl, Nat.digitChar_ne '?' rfl,
    Nat.digitChar_ne '#' rfl⟩

theorem not_endsAuthority_of_mem_toDigits {b : Nat} (hb : 1 < b) (n : Nat) :
    ∀ c ∈ Nat.toDigits b n, ¬ endsAuthority c := by
  induction n using Nat.strongRecOn with
  | _ n ih =>
    rw [Nat.toDigits_eq_if hb]
    split
    · exact List.forall_mem_singleton.mpr (not_endsAuthority_digitChar n)
    · have hlt : n / b < n := Nat.div_lt_self (by omega) hb
      exact List.forall_mem_append.mpr
        ⟨ih _ hlt, List.forall_mem_singleton.mpr (not_endsAuthority_digitChar _)⟩

theorem not_endsAuthority_of_mem_toString (n : Nat) :
    ∀ c ∈ (toString n).toList, ¬ endsAuthority c := by
  change ∀ c ∈ n.repr.toList, ¬ endsAuthority c
  rw [Nat.toList_repr]
  exact not_endsAuthority_of_mem_toDigits (by decide) n

theorem not_endsAuthority_of_mem_ip4 (x : Ip4) : ∀ c ∈ x.render.toList, ¬ endsAuthority c := by
  refine forall_mem_intercalate (by simp [endsAuthority_iff]) fun s hs => ?_
  obtain ⟨o, -, rfl⟩ := List.mem_map.mp hs
  exact not_endsAuthority_of_mem_toString o.toNat

theorem not_endsAuthority_of_mem_groups (gs : List UInt16) :
    ∀ c ∈ (Ip6.renderGroups gs).toList, ¬ endsAuthority c := by
  refine forall_mem_intercalate (by simp [endsAuthority_iff]) fun s hs => ?_
  obtain ⟨g, -, rfl⟩ := List.mem_map.mp hs
  rw [Ip6.hexDigits, String.toList_ofList]
  exact not_endsAuthority_of_mem_toDigits (by decide) g.toNat

theorem not_endsAuthority_of_mem_ip6 (x : Ip6) : ∀ c ∈ x.render.toList, ¬ endsAuthority c := by
  rw [Ip6.render]
  dsimp only
  split
  · exact not_endsAuthority_of_mem_groups x.groups
  · rw [String.toList_append, String.toList_append]
    exact List.forall_mem_append.mpr
      ⟨List.forall_mem_append.mpr ⟨not_endsAuthority_of_mem_groups _, by simp [endsAuthority_iff]⟩,
        not_endsAuthority_of_mem_groups _⟩

theorem not_endsAuthority_of_mem_address (ip : Ip) :
    ∀ c ∈ (Host.address ip).render, ¬ endsAuthority c := by
  cases ip with
  | v4 x => exact not_endsAuthority_of_mem_ip4 x
  | v6 x =>
    rw [Host.render]
    exact List.forall_mem_cons.mpr
      ⟨by decide, List.forall_mem_append.mpr ⟨not_endsAuthority_of_mem_ip6 x,
        List.forall_mem_singleton.mpr (by decide)⟩⟩

theorem not_endsAuthority_of_mem_domain {cs name : List Char} (h : Domain.ofChars? cs = some name) :
    ∀ c ∈ name, ¬ endsAuthority c := by
  simp only [Domain.ofChars?, Option.bind_eq_bind, Option.bind_eq_some_iff] at h
  obtain ⟨folded, -, labels, -, h⟩ := h
  split at h
  · cases h
  · rename_i hfree
    cases h
    intro c hc hends
    simp only [Bool.or_eq_true, List.any_eq_true, not_or, not_exists, not_and] at hfree
    refine hfree.1 c hc ?_
    rcases endsAuthority_iff.mp hends with rfl | rfl | rfl | rfl <;> simp [Domain.isForbidden]

theorem not_endsAuthority_of_mem_host {cs : List Char} {host : Host}
    (h : Host.ofChars cs = .ok host) :
    ∀ c ∈ host.render, ¬ endsAuthority c := by
  rw [Host.ofChars.eq_def] at h
  split at h
  · cases h
  · split at h
    · split at h
      · cases h
        exact not_endsAuthority_of_mem_address _
      · cases h
    · cases h
  · split at h
    · cases h
    · cases h
    · rename_i hname
      split at h
      · split at h
        · cases h
          exact not_endsAuthority_of_mem_address _
        · cases h
      · cases h
        obtain ⟨text, -, htext⟩ := Option.bind_eq_some_iff.mp hname
        exact not_endsAuthority_of_mem_domain htext

theorem reservedInUserinfo_of_endsAuthority (c : Char) (h : endsAuthority c) :
    reservedInUserinfo c := by
  rcases endsAuthority_iff.mp h with rfl | rfl | rfl | rfl <;>
    simp [reservedInUserinfo, reservedInPath]

theorem not_endsAuthority_of_mem_userinfo {cs i : List Char} (h : readUserinfo cs = some i) :
    ∀ c ∈ i, ¬ endsAuthority c := by
  have hencoded (ds : List Char) : ∀ c ∈ encode reservedInUserinfo ds,
      ¬ endsAuthority c := fun c hc =>
    not_endsAuthority_of_mem_encode reservedInUserinfo_of_endsAuthority hc
  rw [readUserinfo] at h
  split at h
  · cases h
  · cases h
  · cases h
    exact List.forall_mem_append.mpr ⟨hencoded _, List.forall_mem_cons.mpr ⟨by decide, hencoded _⟩⟩
  · cases h
    exact hencoded _

theorem delimited_of_read {cs : List Char} {u : Url} (h : read cs = .ok u) : u.Delimited := by
  rw [read] at h
  dsimp only at h
  obtain ⟨host, hhost, h⟩ := bind_eq_ok.mp h
  obtain ⟨port, -, h⟩ := bind_eq_ok.mp h
  cases h
  refine ⟨fun i hi => ?_, not_endsAuthority_of_mem_host hhost⟩
  obtain ⟨text, -, htext⟩ := Option.bind_eq_some_iff.mp hi
  exact not_endsAuthority_of_mem_userinfo htext

theorem Delimited.toList_render {u : Url} (h : u.Delimited) :
    ∃ authority, (∀ c ∈ authority, ¬ endsAuthority c) ∧
      u.render.toList = "http://".toList ++ (authority ++ (renderPath u.path ++ u.renderTail)) := by
  refine ⟨(u.userinfo.map (· ++ ['@'])).getD [] ++
    (u.host.render ++ (u.port.map fun n => ':' :: (toString n.toNat).toList).getD []), ?_,
    String.toList_ofList.trans ?_⟩
  · refine List.forall_mem_append.mpr ⟨?_, List.forall_mem_append.mpr ⟨h.host, ?_⟩⟩
    · cases hi : u.userinfo with
      | none => exact List.forall_mem_nil _
      | some i =>
        exact List.forall_mem_append.mpr
          ⟨h.userinfo i hi, List.forall_mem_singleton.mpr (by decide)⟩
    · cases u.port with
      | none => exact List.forall_mem_nil _
      | some n =>
        exact List.forall_mem_cons.mpr ⟨by decide, not_endsAuthority_of_mem_toString n.toNat⟩
  · cases u.userinfo <;> cases u.port <;>
      simp only [List.append_assoc, Option.map_none, Option.map_some,
        Option.getD_none, Option.getD_some]

end Url

namespace Http

theorem pathOf_append {authority path tail : List Char}
    (hauthority : ∀ c ∈ authority, ¬ Url.endsAuthority c) (hpath : ∀ c ∈ path, c ≠ '?' ∧ c ≠ '#')
    (hslash : ∀ c ∈ path.head?, c = '/') (htail : ∀ c ∈ tail.head?, c = '?' ∨ c = '#') :
    pathOf ("http://".toList ++ (authority ++ (path ++ tail))) = path := by
  have hafter : Text.afterFirst "://".toList ("http://".toList ++ (authority ++ (path ++ tail))) =
      some (authority ++ (path ++ tail)) := by
    simp [Text.afterFirst]
  have hdrop : ∀ c ∈ authority, c != '/' && c != '?' && c != '#' := fun c hc => by
    have h := hauthority c hc
    rw [Url.endsAuthority_iff, not_or, not_or, not_or] at h
    simpa only [Bool.and_eq_true, bne_iff_ne] using ⟨⟨h.1, h.2.2.1⟩, h.2.2.2⟩
  -- A path may be empty, and so may what follows it.
  have hstop : (path ++ tail).dropWhile (fun c => c != '/' && c != '?' && c != '#') =
      path ++ tail := by
    cases path with
    | nil =>
      cases tail with
      | nil => rfl
      | cons c tail => rcases htail c rfl with rfl | rfl <;> rfl
    | cons c path =>
      obtain rfl : c = '/' := hslash c rfl
      rfl
  have htake : ∀ c ∈ path, c != '?' && c != '#' := by
    simpa using hpath
  have hend : tail.takeWhile (fun c => c != '?' && c != '#') = [] := by
    cases tail with
    | nil => rfl
    | cons c tail => rcases htail c rfl with rfl | rfl <;> rfl
  rw [pathOf, hafter, Option.getD_some, List.dropWhile_append_of_pos hdrop, hstop,
    List.takeWhile_append_of_pos htake, hend, List.append_nil]
  simp

/-- The path that is found in the text of a URL is the one that the URL has. -/
theorem pathOf_render {u : Url} (h : u.Delimited)
    (hpath : ∀ s ∈ u.path, ∀ c ∈ s, ¬ Url.endsAuthority c) :
    pathOf u.render.toList = Url.renderPath u.path := by
  obtain ⟨authority, hauthority, hrender⟩ := h.toList_render
  have hplain : ∀ c ∈ Url.renderPath u.path, c ≠ '?' ∧ c ≠ '#' := by
    intro c hc
    obtain ⟨s, hs, hc⟩ := List.mem_flatMap.mp hc
    rcases List.mem_cons.mp hc with rfl | hc
    · decide
    · have hends := hpath s hs c hc
      rw [Url.endsAuthority_iff, not_or, not_or, not_or] at hends
      exact hends.2.2
  have hslash : ∀ c ∈ (Url.renderPath u.path).head?, c = '/' := by
    cases u.path <;> simp [Url.renderPath]
  have htail : ∀ c ∈ u.renderTail.head?, c = '?' ∨ c = '#' := by
    rw [Url.renderTail]
    cases u.query <;> cases u.fragment <;> simp
  rw [hrender]
  exact pathOf_append hauthority hplain hslash htail

end Http

end RemoteServices
