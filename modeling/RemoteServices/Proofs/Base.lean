import RemoteServices.Proofs.Addresses
import RemoteServices.Proofs.Routing

/-!
# Where endpoints are said to be

The text of the host is spliced into a URL, unread.  If nothing in it ends the authority or a name
of a user, the URL is that of the host and the port, or is refused; if something does, the URL
points elsewhere or is refused: `Http.Location.base_points_at_host`.
-/
namespace RemoteServices

namespace Url

/-- The URL of a host and a port, and of nothing there; the usual port is not written. -/
def root (host : Host) (port : UInt16) : Url :=
  ⟨none, host, if port = defaultPort then none else some port, [[]], none, none⟩

def digits (port : UInt16) : List Char := (toString port.toNat).toList

theorem isDigit_of_mem_digits (port : UInt16) : ∀ c ∈ digits port, c.isDigit :=
  Text.isDigit_of_mem_toString port.toNat

theorem digits_ne_nil (port : UInt16) : digits port ≠ [] := Text.toString_ne_nil port.toNat

theorem readUInt16_digits (port : UInt16) : Text.readUInt16 (digits port) = .ok port := by
  have hdigits := isDigit_of_mem_digits port
  have hvalue : Nat.ofDigitChars 10 (digits port) 0 = port.toNat :=
    Text.ofDigitChars_toString port.toNat
  have hread : Text.readDigits 65535 .tooLarge 0 (digits port) = .ok port.toNat :=
    (Text.readDigits_eq_ok (Nat.zero_le _)).mpr
      ⟨hdigits, hvalue.symm, Nat.le_of_lt_succ port.toNat_lt⟩
  have hunsigned : Text.readUnsigned 65535 (digits port) = .ok port.toNat := by
    rw [Text.readUnsigned.eq_def]
    split
    · exact absurd ‹_› (digits_ne_nil port)
    · rename_i h
      exact absurd (hdigits '+' (h ▸ List.mem_cons_self)) (by decide)
    · rename_i h
      exact absurd (hdigits '+' (h ▸ List.mem_cons_self)) (by decide)
    · exact hread
  rw [Text.readUInt16, hunsigned]
  exact congrArg Except.ok (UInt16.ofNat_toNat)

theorem readPort_digits (port : UInt16) :
    readPort (digits port) = .ok (if port = defaultPort then none else some port) := by
  rw [readPort.eq_def]
  split
  · exact absurd ‹_› (digits_ne_nil port)
  · rename_i h
    exact absurd (isDigit_of_mem_digits port '+' (h ▸ List.mem_cons_self)) (by decide)
  · rw [readUInt16_digits]

theorem readPort_of_colon {cs : List Char} (h : ':' ∈ cs) : readPort cs = .error .invalidPort := by
  rw [readPort.eq_def]
  split
  · cases h
  · rfl
  · rename_i hplus
    split
    · rename_i n hn
      rw [Text.readUInt16, Text.readUnsigned.eq_def] at hn
      split at hn
      · cases h
      · cases hn
      · exact absurd rfl (hplus _)
      · cases hread : Text.readDigits 65535 .tooLarge 0 cs with
        | ok m =>
          exact absurd (((Text.readDigits_eq_ok (Nat.zero_le _)).mp hread).1 ':' h) (by decide)
        | error fault =>
          rw [hread] at hn
          cases hn
    · rfl

theorem splitPort_cons {bracketed : Bool} {c : Char} (h : ¬ (c = ':' ∧ ¬ bracketed))
    (cs : List Char) :
    splitPort bracketed (c :: cs) =
      (c :: (splitPort (if c = '[' then true else if c = ']' then false else bracketed) cs).1,
        (splitPort (if c = '[' then true else if c = ']' then false else bracketed) cs).2) := by
  rw [splitPort, if_neg h]

theorem splitPort_append {bracketed : Bool} {cs : List Char}
    (hcs : ∀ c ∈ cs, c ≠ '[' ∧ c ≠ ']' ∧ (bracketed ∨ c ≠ ':')) (rest : List Char) :
    splitPort bracketed
      (cs ++ rest) = (cs ++ (splitPort bracketed rest).1, (splitPort bracketed rest).2) := by
  induction cs with
  | nil => rfl
  | cons c cs ih =>
    obtain ⟨⟨hopen, hclose, hcolon⟩, hcs⟩ := List.forall_mem_cons.mp hcs
    have hinside : ¬ (c = ':' ∧ ¬ bracketed) :=
      fun h => h.2 (hcolon.resolve_right (not_not.mpr h.1))
    rw [List.cons_append, splitPort_cons hinside, if_neg hopen, if_neg hclose, ih hcs]
    rfl

theorem splitPort_colon (bracketed : Bool) (cs : List Char) (port : UInt16) :
    splitPort bracketed (cs ++ ':' :: digits port) = (cs, some (digits port)) ∨
    (∃ before after, splitPort bracketed (cs ++ ':' :: digits port) = (before,
      some (after ++ ':' :: digits port))) ∨
    ((bracketed ∨ '[' ∈ cs) ∧ splitPort bracketed (cs ++ ':' :: digits port) =
      (cs ++ ':' :: digits port, none)) := by
  induction cs generalizing bracketed with
  | nil =>
    cases bracketed with
    | false => exact .inl rfl
    | true =>
      have hplain : ∀ c ∈ ':' :: digits port, c ≠ '[' ∧ c ≠ ']' ∧ (true ∨ c ≠ ':') := by
        refine List.forall_mem_cons.mpr ⟨by decide, fun c hc => ⟨?_, ?_, .inl rfl⟩⟩ <;>
          exact fun h => absurd (h ▸ isDigit_of_mem_digits port c hc) (by decide)
      have h := splitPort_append hplain []
      rw [List.append_nil] at h
      exact .inr (.inr ⟨.inl rfl, h.trans (by simp [splitPort])⟩)
  | cons c cs ih =>
    by_cases hcolon : c = ':' ∧ ¬ bracketed
    · rw [List.cons_append, splitPort, if_pos hcolon]
      exact .inr (.inl ⟨[], cs, rfl⟩)
    · rw [List.cons_append, splitPort_cons hcolon]
      rcases ih (if c = '[' then true else if c = ']' then false else bracketed) with
        h | ⟨before, after, h⟩ | ⟨hopen, h⟩
      · exact .inl (by rw [h])
      · exact .inr (.inl ⟨c :: before, after, by rw [h]⟩)
      · refine .inr (.inr ⟨?_, by rw [h]⟩)
        rcases hopen with hopen | hopen
        · split_ifs at hopen with h₁ h₂
          · exact .inr (h₁ ▸ List.mem_cons_self)
          · exact .inl hopen
        · exact .inr (List.mem_cons_of_mem _ hopen)

theorem splitLast_of_notMem {c : Char} {cs : List Char} (h : c ∉ cs) :
    splitLast c cs = (none, cs) := by
  have hdrop : cs.reverse.dropWhile (· != c) = [] := by
    refine List.dropWhile_eq_nil_iff.mpr fun d hd => ?_
    rw [List.mem_reverse] at hd
    exact bne_iff_ne.mpr fun hdc => h (hdc ▸ hd)
  rw [splitLast, hdrop]

theorem read_root {host : List Char} (hhost : ∀ c ∈ host, ¬ endsAuthority c ∧ c ≠ '@')
    (port : UInt16) :
    read ('/' :: '/' :: (host ++ ':' :: (digits port ++ ['/']))) =
      (Host.ofChars (splitPort false (kept host ++ ':' :: digits port)).1).bind fun h =>
        (readPort ((splitPort false (kept host ++ ':' :: digits port)).2.getD [])).map fun p =>
        ⟨none, h, p, [[]], none, none⟩ := by
  have hdigits (c : Char) (hc : c ∈ digits port) : (! isIgnored c) = true := by
    have hdigit := isDigit_of_mem_digits port c hc
    rw [Bool.not_eq_true', isIgnored, Bool.or_eq_false_iff, Bool.or_eq_false_iff,
      beq_eq_false_iff_ne, beq_eq_false_iff_ne, beq_eq_false_iff_ne]
    refine ⟨⟨?_, ?_⟩, ?_⟩ <;> exact fun h => absurd (h ▸ hdigit) (by decide)
  have hfilter : ('/' :: '/' :: (host ++ ':' :: (digits port ++ ['/']))).filter (! isIgnored ·) =
      '/' :: '/' :: (kept host ++ ':' :: (digits port ++ ['/'])) := by
    rw [List.filter_cons_of_pos (by decide), List.filter_cons_of_pos (by decide),
      List.filter_append, List.filter_cons_of_pos (by decide), List.filter_append,
      List.filter_eq_self.mpr hdigits]
    rfl
  have hplain : ∀ c ∈ kept host ++ ':' :: digits port, (! endsAuthority c) = true ∧ c ≠ '@' := by
    refine List.forall_mem_append.mpr
      ⟨fun c hc => ?_, List.forall_mem_cons.mpr ⟨by decide, fun c hc => ?_⟩⟩
    · obtain ⟨hends, hat⟩ := hhost c (List.mem_filter.mp hc).1
      exact ⟨by simpa using hends, hat⟩
    · have hends := not_endsAuthority_of_mem_toString port.toNat c hc
      exact ⟨by simpa using hends, fun h =>
        absurd (h ▸ isDigit_of_mem_digits port c hc) (by decide)⟩
  have hserver : ∀ c ∈ kept host ++ ':' :: digits port, (! endsAuthority c) = true :=
    fun c hc => (hplain c hc).1
  have hname : '@' ∉ kept host ++ ':' :: digits port := fun h => (hplain '@' h).2 rfl
  -- The slashes at the start are those before the host.
  have hstart : ('/' :: '/' :: ((kept host ++ ':' :: digits port) ++ ['/'])).dropWhile isSlash =
      (kept host ++ ':' :: digits port) ++ ['/'] := by
    rw [List.dropWhile_cons_of_pos (by decide), List.dropWhile_cons_of_pos (by decide)]
    obtain ⟨c, cs, hcs⟩ :=
      List.exists_cons_of_ne_nil (l := kept host ++ ':' :: digits port) (by simp)
    have hc := hserver c (hcs ▸ List.mem_cons_self)
    rw [hcs, List.cons_append, List.dropWhile_cons_of_neg]
    rw [endsAuthority, Bool.not_eq_true', Bool.or_eq_false_iff, Bool.or_eq_false_iff] at hc
    simp [hc.1.1]
  have happend : kept host ++ ':' :: (digits port ++ ['/']) = (kept host ++ ':' :: digits port) ++
      ['/'] := by simp
  have hend : ['/'].takeWhile (! endsAuthority ·) = [] := rfl
  rw [read, hfilter, happend, hstart, List.takeWhile_append_of_pos hserver,
    List.dropWhile_append_of_pos hserver, hend, List.append_nil, splitLast_of_notMem hname]
  dsimp only
  cases Host.ofChars (splitPort false (kept host ++ ':' :: digits port)).1 with
  | error fault => rfl
  | ok h =>
    cases readPort ((splitPort false (kept host ++ ':' :: digits port)).2.getD []) with
    | error fault => rfl
    | ok p => rfl

/-- A text that is read as a host is an address in brackets, or holds nothing that separates parts
of a URL. -/
theorem Host.brackets_or_notMem_of_ofChars {cs : List Char} {h : Host}
    (hread : Host.ofChars cs = .ok h) :
    (∃ inner, cs = '[' :: (inner ++ [']']) ∧ ∀ c ∈ inner, Host.isOfAddress c) ∨
    ∀ c ∈ separators, c ∉ cs := by
  rw [Host.ofChars.eq_def] at hread
  split at hread
  · cases hread
  · rename_i cs
    split at hread
    · rename_i hlast
      obtain ⟨inner, rfl⟩ := List.getLast?_eq_some_iff.mp hlast
      rw [List.dropLast_concat] at hread
      split at hread
      · rename_i x hx
        exact .inl ⟨inner, rfl, Host.isOfAddress_of_readIp6 hx⟩
      · cases hread
    · cases hread
  · right
    intro c hc hmem
    have hname (name : List Char) :
        ((textOf? (decode cs)).bind fun text => Domain.ofChars? text.toList) ≠ some name := by
      intro hname
      obtain ⟨text, htext, hname⟩ := Option.bind_eq_some_iff.mp hname
      exact Domain.notMem_of_ofChars? hname hc
        ((unchanging_of_mem_separators hc).mem_of_textOf?_decode htext hmem)
    split at hread
    · cases hread
    · cases hread
    · exact hname _ ‹_›

theorem splitPort_of_ofChars {cs : List Char} {h : Host} (hread : Host.ofChars cs = .ok h)
    (port : UInt16) :
    splitPort false (cs ++ ':' :: digits port) = (cs, some (digits port)) := by
  rcases Host.brackets_or_notMem_of_ofChars hread with ⟨inner, rfl, hinner⟩ | hcs
  · have hplain : ∀ c ∈ inner, c ≠ '[' ∧ c ≠ ']' ∧ (true ∨ c ≠ ':') := by
      refine fun c hc => ⟨?_, ?_, .inl rfl⟩ <;> exact fun h => absurd (h ▸ hinner c hc) (by decide)
    rw [List.cons_append, List.append_assoc, splitPort_cons (by decide), if_pos rfl,
      splitPort_append hplain]
    rfl
  · have hplain : ∀ c ∈ cs, c ≠ '[' ∧ c ≠ ']' ∧ (false ∨ c ≠ ':') := by
      refine fun c hc => ⟨?_, ?_, .inr ?_⟩ <;> exact fun h => hcs c (h ▸ by decide) hc
    rw [splitPort_append hplain]
    simp [splitPort]

/-- So the URL is that of the host if its text is that of one, else there is none. -/
theorem read_root_eq_ok {host : List Char} (hhost : ∀ c ∈ host, ¬ endsAuthority c ∧ c ≠ '@')
    {port : UInt16} {u : Url} :
    read ('/' :: '/' :: (host ++ ':' :: (digits port ++ ['/']))) = .ok u ↔
      ∃ h, Host.ofChars (kept host) = .ok h ∧ u = root h port := by
  rw [read_root hhost]
  constructor
  · intro hread
    obtain ⟨h, hh, hread⟩ := bind_eq_ok.mp hread
    rcases splitPort_colon false (kept host) port with
      hsplit | ⟨before, after, hsplit⟩ | ⟨hopen, hsplit⟩
    · rw [hsplit] at hh hread
      rw [Option.getD_some, readPort_digits] at hread
      cases hread
      exact ⟨h, hh, rfl⟩
    · rw [hsplit, Option.getD_some, readPort_of_colon (by simp)] at hread
      cases hread
    · -- A bracket stays open, so the text with the port is no address, and it is no name either.
      rw [hsplit] at hh
      have hopen : '[' ∈ kept host := by simpa using hopen
      rcases Host.brackets_or_notMem_of_ofChars hh with ⟨inner, heq, -⟩ | hnone
      · have hlast := congrArg List.getLast? heq
        obtain ⟨ds, d, hds⟩ := (List.eq_nil_or_concat' _).resolve_left (digits_ne_nil port)
        have hdigit := isDigit_of_mem_digits port d (by simp [hds])
        rw [hds, ← List.cons_append, ← List.append_assoc, List.getLast?_concat, ← List.cons_append,
          List.getLast?_concat] at hlast
        cases hlast
        exact absurd hdigit (by decide)
      · exact absurd (List.mem_append_left _ hopen) (hnone '[' (by decide))
  · rintro ⟨h, hh, rfl⟩
    rw [splitPort_of_ofChars hh, hh, Option.getD_some, readPort_digits]
    rfl

end Url

namespace Http.Location

open Url

/-- The text of the host as it stands in the URL: an address of version 6 is in brackets. -/
def hostText (l : Location) : List Char :=
  let host := l.settings.advertisedHost.toList
  if (Ip6.ofChars? host).isSome then '[' :: (host ++ [']']) else host

/-- The URL is that of the host and of the port.  The whole text of the host, but for tabs and line
ends, is read as the host of a URL is: a name is percent-decoded and brought into its ASCII form,
and what is the text of an address becomes the address. -/
def PointsAt (l : Location) (u : Url) : Prop :=
  ∃ host, Host.ofChars (kept l.hostText) = .ok host ∧ u = root host l.port

/-- Nothing in the host that is advertised ends the authority of a URL or a user's name. -/
def Plain (l : Location) : Prop :=
  ∀ c ∈ l.settings.advertisedHost.toList, c ∉ ['/', '\\', '?', '#', '@']

variable {l : Location}

theorem plain_iff : l.Plain ↔ ∀ c ∈ l.hostText, ¬ endsAuthority c ∧ c ≠ '@' := by
  have hchar (c : Char) : c ∉ ['/', '\\', '?', '#', '@'] ↔ ¬ endsAuthority c ∧ c ≠ '@' := by
    simp [endsAuthority_iff, and_assoc]
  rw [Plain, hostText]
  split
  · have hopen : ¬ endsAuthority '[' ∧ '[' ≠ '@' := by decide
    have hclose : ¬ endsAuthority ']' ∧ ']' ≠ '@' := by decide
    rw [List.forall_mem_cons, List.forall_mem_append, List.forall_mem_singleton,
      and_iff_right hopen, and_iff_left hclose]
    simp only [hchar]
  · simp only [hchar]

theorem base_eq_ok_iff {u : Url} : l.base = .ok u ↔ read l.baseText = .ok u := by
  rw [base]
  cases read l.baseText <;> simp [Except.mapError]

/-- A host in which nothing ends it is pointed at, or there is no base. -/
theorem Plain.base_eq_ok (h : l.Plain) {u : Url} : l.base = .ok u ↔ l.PointsAt u :=
  base_eq_ok_iff.trans (read_root_eq_ok (plain_iff.mp h))

theorem base_eq_error {fault : RemoteError} (h : l.base = .error fault) :
    ∃ cause : Fault, fault = .config
      ("invalid endpoint base 'http:" ++ .ofList l.baseText ++ "': " ++ cause.message) := by
  rw [base] at h
  cases hread : read l.baseText with
  | ok u =>
    rw [hread] at h
    cases h
  | error cause =>
    rw [hread] at h
    cases h
    exact ⟨cause, rfl⟩

theorem PointsAt.plain {u : Url} (h : l.PointsAt u) : l.Plain := by
  obtain ⟨host, hhost, -⟩ := h
  refine plain_iff.mpr fun c hc => ?_
  by_contra hends
  have hends : c ∈ ['/', '\\', '?', '#', '@'] := by
    rw [not_and_or, not_not, not_not, endsAuthority_iff] at hends
    simpa [or_assoc] using hends
  have hforeign : ! isIgnored c ∧ ¬ (Host.isOfAddress c ∨ c = '[' ∨ c = ']') := by
    simp only [List.mem_cons, List.not_mem_nil, or_false] at hends
    rcases hends with rfl | rfl | rfl | rfl | rfl <;> decide
  have hkept : c ∈ kept l.hostText := List.mem_filter.mpr ⟨hc, hforeign.1⟩
  rcases Host.brackets_or_notMem_of_ofChars hhost with ⟨inner, heq, hinner⟩ | hnone
  · refine hforeign.2 ?_
    rw [heq, List.mem_cons, List.mem_append, List.mem_singleton] at hkept
    rcases hkept with h | h | h
    · exact .inr (.inl h)
    · exact .inl (hinner c h)
    · exact .inr (.inr h)
  · exact hnone c (List.mem_append_left [':', '[', ']'] hends) hkept

/-- Unless something in the host that is advertised ends it, the base is the URL of the host and the
port and of nothing else, or the text is that of no host and is refused, which is a fault of the
settings.  If something does, the base is refused or points elsewhere. -/
theorem base_points_at_host (l : Location) :
    (l.Plain →
      (∀ u, l.base = .ok u ↔ l.PointsAt u) ∧
      ((∀ host, Host.ofChars (kept l.hostText) ≠ .ok host) → ∃ cause : Fault,
        l.base = .error (.config
          ("invalid endpoint base 'http:" ++ .ofList l.baseText ++ "': " ++ cause.message)))) ∧
    (∀ u, l.base = .ok u → (l.PointsAt u ↔ l.Plain)) ∧
    ∀ fault, l.base = .error fault → ∃ cause : Fault,
      fault = .config
        ("invalid endpoint base 'http:" ++ .ofList l.baseText ++ "': " ++ cause.message) := by
  refine ⟨fun hplain => ⟨fun u => hplain.base_eq_ok, fun hnone => ?_⟩,
    fun u hbase => ⟨PointsAt.plain, fun hplain => hplain.base_eq_ok.mp hbase⟩,
    fun fault => base_eq_error⟩
  cases hbase : l.base with
  | ok u =>
    obtain ⟨host, hhost, -⟩ := hplain.base_eq_ok.mp hbase
    exact absurd hhost (hnone host)
  | error fault =>
    obtain ⟨cause, rfl⟩ := base_eq_error hbase
    exact ⟨cause, rfl⟩

/-- The path begins within the host that is advertised, so the port is a part of it and there is
none in the authority. -/
theorem base_points_elsewhere :
    let l := ofSettings { advertiseHost := some "[::1]/x" }
    ∃ u, l.base = .ok u ∧ l.port = 8888 ∧ u.port = none ∧ u.path = ["x:8888".toList, []] ∧
      ¬ l.PointsAt u := by
  intro l
  have htext : l.baseText = "//[::1]/x:8888/".toList := by decide +kernel
  have hread : read "//[::1]/x:8888/".toList =
      .ok ⟨none, .address (.v6 ⟨[0, 0, 0, 0, 0, 0, 0, 1], rfl⟩), none,
        ["x:8888".toList, []], none, none⟩ := by cbv
  refine ⟨_, by rw [base, htext, hread]; rfl, rfl, rfl, rfl, fun hpoints => ?_⟩
  obtain ⟨host, -, heq⟩ := hpoints
  cases congrArg Url.port heq

end Http.Location

end RemoteServices
