import RemoteServices.Proofs.Names

/-!
# Two readers of addresses

An address is read in a strict form where a process is to listen, and in the form that URLs allow
where it stands for a host.  Every text that is an address in the strict form is the same address as
a host: `Url.Host.readIp4_of_ofChars?` and `Url.Host.readIp6_of_ofChars?`.  In either form there is
nothing in it but digits, colons and dots.
-/
namespace RemoteServices

namespace Text

theorem hexDigit?_of_digit? {c : Char} {d : Nat} (h : digit? c = some d) :
    hexDigit? c = some d ∧ d < 10 := by
  rw [digit?, Option.ite_none_right_eq_some, Option.some.injEq] at h
  obtain ⟨hc, rfl⟩ := h
  refine ⟨if_pos hc, ?_⟩
  have hhigh : c.toNat ≤ '9'.toNat := hc.2
  change c.toNat - 48 < 10
  change c.toNat ≤ 57 at hhigh
  omega

theorem mapM_hexDigit?_of_digits {cs : List Char} {ds : List Nat} (h : cs.mapM digit? = some ds) :
    cs.mapM hexDigit? = some ds ∧ (∀ d ∈ ds, d < 10) ∧ cs.length = ds.length := by
  induction cs generalizing ds with
  | nil =>
    cases h
    exact ⟨rfl, by simp, rfl⟩
  | cons c cs ih =>
    simp only [List.mapM_cons, Option.pure_def, Option.bind_eq_bind, Option.bind_eq_some_iff] at h
    obtain ⟨d, hd, ds, hds, h⟩ := h
    cases h
    obtain ⟨hhex, hlt⟩ := hexDigit?_of_digit? hd
    obtain ⟨hhexes, hlts, hlength⟩ := ih hds
    refine ⟨?_, List.forall_mem_cons.mpr ⟨hlt, hlts⟩, congrArg (· + 1) hlength⟩
    simp [List.mapM_cons, hhex, hhexes]

theorem isSome_of_hexValue? {cs : List Char} {n : Nat} (h : hexValue? cs = some n) :
    ∀ c ∈ cs, (hexDigit? c).isSome := by
  intro c hc
  obtain ⟨ds, hds, -⟩ := Option.map_eq_some_iff.mp h
  obtain ⟨d, -, hd⟩ := exists_mem_of_mapM hds hc
  exact Option.isSome_of_eq_some hd

theorem exists_hexValue? {cs : List Char} (h : ∀ c ∈ cs, (hexDigit? c).isSome) :
    ∃ n, hexValue? cs = some n := by
  have hmapM : ∃ ds, cs.mapM hexDigit? = some ds := by
    induction cs with
    | nil => exact ⟨[], rfl⟩
    | cons c cs ih =>
      obtain ⟨hc, hcs⟩ := List.forall_mem_cons.mp h
      obtain ⟨d, hd⟩ := Option.isSome_iff_exists.mp hc
      obtain ⟨ds, hds⟩ := ih hcs
      exact ⟨d :: ds, by simp [List.mapM_cons, hd, hds]⟩
  obtain ⟨ds, hds⟩ := hmapM
  exact ⟨_, congrArg (Option.map _) hds⟩

theorem eq_append_of_pieces {sep : Char} {cs p : List Char} {ps : List (List Char)}
    (h : pieces sep cs = p :: ps) :
    (ps = [] ∧ cs = p) ∨ ∃ rest, cs = p ++ sep :: rest ∧ pieces sep rest = ps := by
  by_cases hsep : sep ∈ cs
  · obtain ⟨first, rest, rfl, hfirst⟩ := List.eq_append_cons_of_mem hsep
    rw [pieces_append_of_notMem hfirst, List.cons.injEq] at h
    obtain ⟨rfl, rfl⟩ := h
    exact .inr ⟨rest, rfl, rfl⟩
  · rw [pieces_eq_singleton hsep, List.cons.injEq] at h
    exact .inl ⟨h.2.symm, h.1⟩

end Text

namespace Ip4

theorem part?_of_digits {cs : List Char} {ds : List Nat} (hds : cs.mapM Text.digit? = some ds)
    (hne : cs ≠ []) (hleading : ∀ rest, cs ≠ '0' :: rest) :
    Url.Host.part? cs = some (ds.foldl (fun n d => 10 * n + d) 0) := by
  obtain ⟨hhex, hlt, -⟩ := Text.mapM_hexDigit?_of_digits hds
  rw [Url.Host.part?.eq_def]
  split
  · exact absurd rfl hne
  · exact absurd rfl (hleading _)
  · exact absurd rfl (hleading _)
  · exact absurd rfl (hleading _)
  · rw [Url.Host.inBase, hhex, Option.bind_some, if_pos (by simpa using hlt)]

theorem octet?_eq_some {cs : List Char} {o : UInt8} (h : octet? cs = some o) :
    cs ≠ [] ∧ cs.length ≤ 3 ∧ (∀ c ∈ cs, (Text.digit? c).isSome) ∧
    Url.Host.part? cs = some o.toNat := by
  rw [octet?.eq_def] at h
  split at h
  · cases h
    exact ⟨by simp, by simp, List.forall_mem_singleton.mpr (by decide), by decide⟩
  · cases h
  · rename_i hleading
    have hoctet {ds : List Nat} (hds : cs.mapM Text.digit? = some ds) (hne : ds ≠ [])
        (hlength : ds.length ≤ 3)
        (ho : ds.foldl (fun n d => 10 * n + d) 0 = o.toNat) :
        cs ≠ [] ∧ cs.length ≤ 3 ∧ (∀ c ∈ cs, (Text.digit? c).isSome) ∧
        Url.Host.part? cs = some o.toNat := by
      have heq := (Text.mapM_hexDigit?_of_digits hds).2.2
      have hcs : cs ≠ [] := List.ne_nil_of_length_pos (heq ▸ List.length_pos_iff.mpr hne)
      refine ⟨hcs, heq ▸ hlength, fun c hc => ?_, ho ▸ part?_of_digits hds hcs fun rest hrest =>
        hleading rest hrest⟩
      obtain ⟨d, -, hd⟩ := exists_mem_of_mapM hds hc
      exact Option.isSome_of_eq_some hd
    split at h
    · rename_i a hds
      cases h
      have hlt := (Text.mapM_hexDigit?_of_digits hds).2.1
      simp only [List.mem_cons, List.not_mem_nil, or_false, forall_eq] at hlt
      exact hoctet hds (by simp) (by simp) (by simp; omega)
    · rename_i a b hds
      cases h
      have hlt := (Text.mapM_hexDigit?_of_digits hds).2.1
      simp only [List.mem_cons, List.not_mem_nil, or_false, forall_eq_or_imp, forall_eq] at hlt
      exact hoctet hds (by simp) (by simp) (by simp; omega)
    · rename_i a b c hds
      dsimp only at h
      split at h
      · cases h
        exact hoctet hds (by simp) (by simp) (by simp; omega)
      · cases h
    · cases h

theorem ofChars?_eq_some {cs : List Char} {x : Ip4} (h : ofChars? cs = some x) :
    ∃ a b c d, Text.pieces '.' cs = [a, b, c, d] ∧ octet? a = some x.a ∧
      octet? b = some x.b ∧ octet? c = some x.c ∧
      octet? d = some x.d := by
  rw [ofChars?] at h
  split at h
  · rename_i a b c d hpieces
    simp only [Option.pure_def, Option.bind_eq_bind, Option.bind_eq_some_iff] at h
    obtain ⟨a', ha, b', hb, c', hc, d', hd, h⟩ := h
    cases h
    exact ⟨a, b, c, d, hpieces, ha, hb, hc, hd⟩
  · cases h

theorem isSome_digit?_of_ofChars? {cs : List Char} {x : Ip4} (h : ofChars? cs = some x) :
    ∀ c ∈ cs, c = '.' ∨ (Text.digit? c).isSome := by
  obtain ⟨a, b, c, d, hpieces, ha, hb, hc, hd⟩ := ofChars?_eq_some h
  intro e he
  by_cases hdot : e = '.'
  · exact .inl hdot
  · obtain ⟨p, hp, hep⟩ := Text.exists_mem_pieces he hdot
    rw [hpieces] at hp
    simp only [List.mem_cons, List.not_mem_nil, or_false] at hp
    right
    rcases hp with rfl | rfl | rfl | rfl
    · exact (octet?_eq_some ha).2.2.1 e hep
    · exact (octet?_eq_some hb).2.2.1 e hep
    · exact (octet?_eq_some hc).2.2.1 e hep
    · exact (octet?_eq_some hd).2.2.1 e hep

end Ip4

namespace Url.Host

theorem assemble_octets (a b c d : UInt8) :
    (assemble 4 [a.toNat, b.toNat, c.toNat, d.toNat]).map Ip4.ofNat = some ⟨a, b, c, d⟩ := by
  have ha := a.toNat_lt
  have hb := b.toNat_lt
  have hc := c.toNat_lt
  have hd := d.toNat_lt
  simp only [assemble, Nat.reduceSub, Nat.reducePow, Nat.reduceLT, and_true, Nat.pow_eq]
  rw [if_pos ha, if_pos hb, if_pos hc, if_pos hd]
  simp only [Option.map_some, Ip4.ofNat, Option.some.injEq, Ip4.mk.injEq,
    ← UInt8.toNat_inj, UInt8.toNat_ofNat']
  omega

theorem readIp4_of_ofChars? {cs : List Char} {x : Ip4} (h : Ip4.ofChars? cs = some x) :
    endsInNumber cs ∧ readIp4 cs = some x := by
  obtain ⟨a, b, c, d, hpieces, ha, hb, hc, hd⟩ := Ip4.ofChars?_eq_some h
  obtain ⟨hne, -, hdigits, hpart⟩ := Ip4.octet?_eq_some hd
  have hparts : parts cs = [a, b, c, d] := by
    rw [parts, hpieces]
    exact if_neg (by simpa using hne)
  refine ⟨?_, ?_⟩
  · rw [endsInNumber, hparts]
    simp only [List.getLast?_cons_cons, List.getLast?_singleton, Bool.or_eq_true, Bool.and_eq_true]
    exact .inl ⟨by simpa using hne, List.all_eq_true.mpr hdigits⟩
  · have hassemble := assemble_octets x.a x.b x.c x.d
    obtain ⟨n, hn, hx⟩ := Option.map_eq_some_iff.mp hassemble
    simp only [readIp4, hparts, List.mapM_cons, List.mapM_nil, (Ip4.octet?_eq_some ha).2.2.2,
      (Ip4.octet?_eq_some hb).2.2.2, (Ip4.octet?_eq_some hc).2.2.2, hpart, Option.pure_def,
      Option.bind_eq_bind, Option.bind_some, hn, hx]

theorem spanHex_append {ds : List Char} (hds : ∀ c ∈ ds, (Text.hexDigit? c).isSome)
    {n : Nat} (hn : ds.length ≤ n) (rest : List Char)
    (hrest : ∀ c ∈ rest.head?, Text.hexDigit? c = none) : spanHex n (ds ++ rest) = (ds, rest) := by
  induction ds generalizing n with
  | nil =>
    cases n with
    | zero => rfl
    | succ n =>
      cases rest with
      | nil => rfl
      | cons c rest =>
        have hc : ¬ (Text.hexDigit? c).isSome := by
          rw [hrest c rfl]
          decide
        exact if_neg hc
  | cons d ds ih =>
    obtain ⟨hd, hds⟩ := List.forall_mem_cons.mp hds
    cases n with
    | zero => cases hn
    | succ n =>
      rw [List.cons_append, spanHex, if_pos hd, ih hds (Nat.le_of_succ_le_succ hn)]

theorem spanHex_spec (n : Nat) (cs : List Char) :
    (spanHex n cs).1 ++ (spanHex n cs).2 = cs ∧ ∀ c ∈ (spanHex n cs).1,
      (Text.hexDigit? c).isSome := by
  induction n generalizing cs with
  | zero => cases cs <;> exact ⟨rfl, by simp [spanHex]⟩
  | succ n ih =>
    cases cs with
    | nil => exact ⟨rfl, by simp [spanHex]⟩
    | cons c cs =>
      rw [spanHex]
      split
      · rename_i hc
        exact ⟨congrArg (c :: ·) (ih cs).1, List.forall_mem_cons.mpr ⟨hc, (ih cs).2⟩⟩
      · exact ⟨rfl, by simp⟩

theorem group?_eq_some {p : List Char} {g : UInt16} (h : Ip6.group? p = some g) :
    p ≠ [] ∧ p.length ≤ 4 ∧ (∀ c ∈ p, (Text.hexDigit? c).isSome) ∧
    (Text.hexValue? p).map UInt16.ofNat = some g := by
  rw [Ip6.group?, Option.ite_none_left_eq_some, not_or, Nat.not_lt] at h
  obtain ⟨⟨hne, hlength⟩, hvalue⟩ := h
  obtain ⟨n, hn, -⟩ := Option.map_eq_some_iff.mp hvalue
  exact ⟨by simpa using hne, hlength, Text.isSome_of_hexValue? hn, hvalue⟩

variable {groups : List UInt16} {gap : Option Nat}

/-- How the text `cs` goes on after the group `g`, by what is left of it. -/
def afterGroup (groups : List UInt16) (gap : Option Nat) (cs : List Char) (g : UInt16) :
    List Char → Option Ip6
  | [] => fill (groups ++ [g]) gap
  | [':'] => none
  | ':' :: rest => scanGroups (groups ++ [g]) gap rest
  | '.' :: _ =>
    if 6 < taken groups gap then none else (Ip4.ofChars? cs).bind fun x =>
      fill (groups ++ x.groups) gap
  | _ => none

theorem scanGroups_of_spanHex {cs ds rest : List Char} {g : UInt16}
    (hspan : spanHex 4 cs = (ds, rest)) (hne : ds ≠ [])
    (hvalue : (Text.hexValue? ds).map UInt16.ofNat = some g) (htaken : taken groups gap < 8) :
    scanGroups groups gap cs = afterGroup groups gap cs g rest := by
  obtain ⟨happend, hdigits⟩ := spanHex_spec 4 cs
  rw [hspan] at happend hdigits
  dsimp only at happend hdigits
  obtain ⟨d, ds, rfl⟩ := List.exists_cons_of_ne_nil hne
  subst happend
  rw [List.cons_append] at hspan ⊢
  rw [scanGroups]
  · rw [hspan]
    dsimp only
    rw [List.isEmpty_cons, if_neg (by decide), hvalue]
    dsimp only
    rw [if_neg (Nat.not_le.mpr htaken)]
    split
    · rfl
    · rfl
    · rename_i hrest
      rw [Text.shorten, dif_pos (by simp; omega), afterGroup]
      exact hrest
    · rw [afterGroup]
      cases Ip4.ofChars? _ <;> rfl
    · rw [afterGroup] <;> assumption
  · rintro rfl
    exact absurd (hdigits ':' List.mem_cons_self) (by decide)

theorem scanGroups_last {p : List Char} {g : UInt16} (hp : Ip6.group? p = some g)
    (htaken : taken groups gap < 8) :
    scanGroups groups gap p = fill (groups ++ [g]) gap := by
  obtain ⟨hne, hlength, hdigits, hvalue⟩ := group?_eq_some hp
  have hspan := spanHex_append hdigits hlength [] (by simp)
  rw [List.append_nil] at hspan
  rw [scanGroups_of_spanHex hspan hne hvalue htaken]
  rfl

theorem scanGroups_next {p rest : List Char} {g : UInt16} (hp : Ip6.group? p = some g)
    (htaken : taken groups gap < 8) (hrest : rest ≠ []) :
    scanGroups groups gap (p ++ ':' :: rest) = scanGroups (groups ++ [g]) gap rest := by
  obtain ⟨hne, hlength, hdigits, hvalue⟩ := group?_eq_some hp
  have hspan := spanHex_append hdigits hlength (':' :: rest) (by simp; decide)
  obtain ⟨c, cs, rfl⟩ := List.exists_cons_of_ne_nil hrest
  rw [scanGroups_of_spanHex hspan hne hvalue htaken]
  rfl

theorem scanGroups_ip4 {p : List Char} {x : Ip4} (hp : Ip4.ofChars? p = some x)
    (htaken : taken groups gap ≤ 6) :
    scanGroups groups gap p = fill (groups ++ x.groups) gap := by
  obtain ⟨a, b, c, d, hpieces, ha, -⟩ := Ip4.ofChars?_eq_some hp
  obtain ⟨hempty, -⟩ | ⟨rest, rfl, -⟩ := Text.eq_append_of_pieces hpieces
  · cases hempty
  · obtain ⟨hne, hlength, hdigits, -⟩ := Ip4.octet?_eq_some ha
    have hhex : ∀ e ∈ a, (Text.hexDigit? e).isSome := fun e he => by
      obtain ⟨n, hn⟩ := Option.isSome_iff_exists.mp (hdigits e he)
      exact Option.isSome_of_eq_some (Text.hexDigit?_of_digit? hn).1
    obtain ⟨g, hg⟩ := Text.exists_hexValue? hhex
    have hspan := spanHex_append hhex (Nat.le_succ_of_le hlength) ('.' :: rest) (by simp; decide)
    rw [scanGroups_of_spanHex hspan hne (congrArg (Option.map UInt16.ofNat) hg)
      (by omega), afterGroup, if_neg (Nat.not_lt.mpr htaken), hp]
    rfl

theorem tailGroups?_cons {p q : List Char} {ps : List (List Char)} {gs : List UInt16}
    (h : Ip6.tailGroups? (p :: q :: ps) = some gs) :
    ∃ g gs', Ip6.group? p = some g ∧ Ip6.tailGroups? (q :: ps) = some gs' ∧ gs = g :: gs' := by
  rw [Ip6.tailGroups?] at h
  · simp only [Option.pure_def, Option.bind_eq_bind, Option.bind_eq_some_iff] at h
    obtain ⟨g, hg, gs', hgs', h⟩ := h
    cases h
    exact ⟨g, gs', hg, hgs', rfl⟩
  · simp

/-- The groups up to the end of a text are read one after the other. -/
theorem scanGroups_of_tailGroups? {cs : List Char} {ps : List (List Char)} {gs : List UInt16}
    (hpieces : Text.pieces ':' cs = ps) (h : Ip6.tailGroups? ps = some gs)
    (htaken : taken groups gap + gs.length ≤ 8) :
    scanGroups groups gap cs = fill (groups ++ gs) gap := by
  induction ps generalizing cs groups gs with
  | nil => exact absurd hpieces (Text.pieces_ne_nil ':' cs)
  | cons p ps ih =>
    cases ps with
    | nil =>
      obtain ⟨-, rfl⟩ | ⟨rest, -, hrest⟩ := Text.eq_append_of_pieces hpieces
      · rw [Ip6.tailGroups?] at h
        split at h
        · rename_i g hg
          cases h
          exact scanGroups_last hg htaken
        · obtain ⟨x, hx, rfl⟩ := Option.map_eq_some_iff.mp h
          exact scanGroups_ip4 hx (Nat.le_of_add_le_add_right htaken)
      · exact absurd hrest (Text.pieces_ne_nil ':' rest)
    | cons q ps =>
      obtain ⟨g, gs, hg, hgs, rfl⟩ := tailGroups?_cons h
      obtain ⟨hps, -⟩ | ⟨rest, rfl, hrest⟩ := Text.eq_append_of_pieces hpieces
      · cases hps
      · have hne : rest ≠ [] := by
          rintro rfl
          obtain ⟨rfl, rfl⟩ : q = [] ∧ ps = [] := by
            cases hrest
            exact ⟨rfl, rfl⟩
          cases hgs
        rw [List.length_cons] at htaken
        have hnext : taken (groups ++ [g]) gap + gs.length ≤ 8 := by
          rw [taken, List.length_append, List.length_singleton]
          rw [taken] at htaken
          omega
        rw [scanGroups_next hg (by omega) hne, ih hrest hgs hnext,
          List.append_assoc, List.singleton_append]

theorem scanGroups_contraction {cs back : List Char} {ps : List (List Char)} {gs : List UInt16}
    (hpieces : Text.pieces ':' cs = ps) (h : ps.mapM Ip6.group? = some gs)
    (htaken : groups.length + gs.length < 8) :
    scanGroups groups none (cs ++ ':' :: ':' :: back) = scanGroups (groups ++ gs)
      (some (groups ++ gs).length) back := by
  induction ps generalizing cs groups gs with
  | nil => exact absurd hpieces (Text.pieces_ne_nil ':' cs)
  | cons p ps ih =>
    simp only [List.mapM_cons, Option.pure_def, Option.bind_eq_bind, Option.bind_eq_some_iff] at h
    obtain ⟨g, hg, gs, hgs, h⟩ := h
    cases h
    rw [List.length_cons] at htaken
    have htaken' : taken groups none < 8 := by
      rw [taken]
      simp
      omega
    obtain ⟨rfl, rfl⟩ | ⟨rest, rfl, hrest⟩ := Text.eq_append_of_pieces hpieces
    · cases hgs
      have hfree : taken (groups ++ [g]) none < 8 ∧ (none : Option Nat).isNone := by
        rw [taken, List.length_append]
        simpa using htaken
      rw [scanGroups_next hg htaken' (by simp), scanGroups, if_pos hfree]
      rfl
    · rw [List.append_assoc, List.cons_append, scanGroups_next hg htaken' (by simp),
        ih hrest hgs (by rw [List.length_append, List.length_singleton]; omega),
        List.append_assoc, List.singleton_append]

theorem eq_append_of_splitContraction {cs front back : List Char}
    (h : Ip6.splitContraction cs = some (front, back)) :
    cs = front ++ ':' :: ':' :: back := by
  fun_induction Ip6.splitContraction cs generalizing front with
  | case1 => cases h; rfl
  | case2 c cs _ ih =>
    obtain ⟨⟨front', back'⟩, hsplit, heq⟩ := Option.map_eq_some_iff.mp h
    cases heq
    rw [ih hsplit, List.cons_append]
  | case3 => cases h

theorem scanGroups_of_groupTexts {cs : List Char} {gs : List UInt16}
    (h : Ip6.tailGroups? (Ip6.groupTexts cs) = some gs)
    (htaken : taken groups gap + gs.length ≤ 8) :
    scanGroups groups gap cs = fill (groups ++ gs) gap := by
  rw [Ip6.groupTexts] at h
  split at h
  · rename_i hempty
    obtain rfl := List.isEmpty_iff.mp hempty
    cases h
    rw [scanGroups, List.append_nil]
  · exact scanGroups_of_tailGroups? rfl h htaken

theorem readIp6_eq_scanGroups {cs : List Char} (hcolon : ∀ rest, cs ≠ ':' :: rest) :
    readIp6 cs = scanGroups [] none cs := by
  rw [readIp6]
  · exact fun rest h => hcolon _ h
  · exact fun rest h => hcolon _ h

theorem tailGroups?_nil_cons (ps : List (List Char)) : Ip6.tailGroups? ([] :: ps) = none := by
  cases ps <;> rfl

theorem readIp6_of_ofChars? {cs : List Char} {x : Ip6} (h : Ip6.ofChars? cs = some x) :
    readIp6 cs = some x := by
  rw [Ip6.ofChars?] at h
  split at h
  · obtain ⟨gs, hgs, hx⟩ := Option.bind_eq_some_iff.mp h
    have hlength : gs.length = 8 := by
      rw [Ip6.ofGroups?] at hx
      split at hx
      · assumption
      · cases hx
    have hcolon (rest : List Char) : cs ≠ ':' :: rest := by
      rintro rfl
      rw [Ip6.groupTexts, List.isEmpty_cons, if_neg (by decide), Text.pieces, if_pos rfl,
        tailGroups?_nil_cons] at hgs
      cases hgs
    rw [readIp6_eq_scanGroups hcolon, scanGroups_of_groupTexts hgs (by simp [taken, hlength]),
      List.nil_append]
    exact hx
  · rename_i front back hsplit
    obtain rfl := eq_append_of_splitContraction hsplit
    simp only [Option.bind_eq_bind, Option.bind_eq_some_iff] at h
    obtain ⟨fronts, hfront, backs, hback, h⟩ := h
    rw [Option.ite_none_right_eq_some] at h
    obtain ⟨hlength, hx⟩ := h
    have hscan : scanGroups fronts (some fronts.length) back = some x := by
      rw [scanGroups_of_groupTexts hback (by simp [taken]; omega), fill, List.take_left,
        List.drop_left, List.length_append]
      exact hx
    rw [Ip6.groupTexts] at hfront
    split at hfront
    · rename_i hempty
      obtain rfl := List.isEmpty_iff.mp hempty
      cases hfront
      exact hscan
    · rename_i hne
      have hcolon (rest : List Char) : front ++ ':' :: ':' :: back ≠ ':' :: rest := by
        intro heq
        obtain ⟨c, front, rfl⟩ := List.exists_cons_of_ne_nil (by simpa using hne)
        obtain ⟨rfl, -⟩ := List.cons.inj heq
        rw [Text.pieces, if_pos rfl, List.mapM_cons] at hfront
        cases hfront
      rw [readIp6_eq_scanGroups hcolon, scanGroups_contraction rfl hfront (by simp; omega)]
      exact hscan

/-- The characters of addresses: digits, colons and dots. -/
def isOfAddress (c : Char) : Bool := (Text.hexDigit? c).isSome || c == ':' || c == '.'

theorem isOfAddress_of_hexDigit? {c : Char} (h : (Text.hexDigit? c).isSome) : isOfAddress c := by
  rw [isOfAddress, h]
  rfl

theorem isOfAddress_of_ip4 {cs : List Char} {x : Ip4} (h : Ip4.ofChars? cs = some x) :
    ∀ c ∈ cs, isOfAddress c := by
  intro c hc
  rcases Ip4.isSome_digit?_of_ofChars? h c hc with rfl | hdigit
  · decide
  · obtain ⟨n, hn⟩ := Option.isSome_iff_exists.mp hdigit
    exact isOfAddress_of_hexDigit? (Option.isSome_of_eq_some (Text.hexDigit?_of_digit? hn).1)

theorem isOfAddress_of_scanGroups {cs : List Char} {x : Ip6}
    (h : scanGroups groups gap cs = some x) :
    ∀ c ∈ cs, isOfAddress c := by
  fun_induction scanGroups groups gap cs with
  | case1 => simp
  | case2 groups gap cs _ ih => exact List.forall_mem_cons.mpr ⟨by decide, ih h⟩
  | case6 groups gap c cs _ ds g _ _ hspan =>
    obtain ⟨happend, hdigits⟩ := spanHex_spec 4 (c :: cs)
    rw [hspan, List.append_nil] at happend
    rw [hspan] at hdigits
    exact happend ▸ fun d hd => isOfAddress_of_hexDigit? (hdigits d hd)
  | case8 groups gap c cs _ ds g _ _ rest _ rest' _ hrest hspan ih =>
    obtain ⟨happend, hdigits⟩ := spanHex_spec 4 (c :: cs)
    rw [hspan] at happend hdigits
    rw [Text.shorten, Option.dite_none_right_eq_some] at hrest
    obtain ⟨_, heq⟩ := hrest
    cases heq
    rw [← happend]
    exact List.forall_mem_append.mpr
      ⟨fun d hd => isOfAddress_of_hexDigit? (hdigits d hd),
        List.forall_mem_cons.mpr ⟨by decide, ih h⟩⟩
  | case11 groups gap c cs _ ds g _ _ _ _ x hx _ => exact isOfAddress_of_ip4 hx
  | _ => cases h

theorem isOfAddress_of_readIp6 {cs : List Char} {x : Ip6} (h : readIp6 cs = some x) :
    ∀ c ∈ cs, isOfAddress c := by
  rw [readIp6.eq_def] at h
  split at h
  · exact List.forall_mem_cons.mpr
      ⟨by decide, List.forall_mem_cons.mpr ⟨by decide, isOfAddress_of_scanGroups h⟩⟩
  · cases h
  · exact isOfAddress_of_scanGroups h

end Url.Host

namespace Text

theorem intercalate_pieces (sep : Char) (cs : List Char) :
    [sep].intercalate (pieces sep cs) = cs := by
  induction cs with
  | nil => rfl
  | cons c cs ih =>
    obtain ⟨p, ps, hps⟩ := List.exists_cons_of_ne_nil (pieces_ne_nil sep cs)
    rw [pieces]
    split
    · rename_i hc
      rw [hps, List.intercalate_cons_cons, ← hps, ih, hc]
      rfl
    · rw [hps] at ih ⊢
      cases ps with
      | nil =>
        rw [List.intercalate_singleton] at ih ⊢
        rw [ih]
      | cons q ps =>
        rw [List.intercalate_cons_cons] at ih ⊢
        rw [← ih]
        rfl

end Text

namespace Url

def decimals : List Char := ['0', '1', '2', '3', '4', '5', '6', '7', '8', '9', '.']

theorem mem_decimals_of_ofChars? {cs : List Char} {x : Ip4} (h : Ip4.ofChars? cs = some x) :
    ∀ c ∈ cs, c ∈ decimals := by
  intro c hc
  rcases Ip4.isSome_digit?_of_ofChars? h c hc with rfl | hdigit
  · decide
  · obtain ⟨d, hd⟩ := Option.isSome_iff_exists.mp hdigit
    rw [Text.digit?, Option.ite_none_right_eq_some] at hd
    obtain ⟨⟨hlow, hhigh⟩, -⟩ := hd
    change 48 ≤ c.toNat at hlow
    change c.toNat ≤ 57 at hhigh
    have hc := (by decide : ∀ n : Fin 10, Char.ofNat (48 + n.val) ∈ decimals)
      ⟨c.toNat - 48, by omega⟩
    rwa [Nat.add_sub_cancel' hlow, Char.ofNat_toNat] at hc

theorem decimal_of_mem {c : Char} (hc : c ∈ decimals) :
    Text.isAscii c ∧ c.toLower = c ∧ Domain.turns (Text.Direction.ofChar c) = false := by
  simp only [decimals, List.mem_cons, List.not_mem_nil, or_false] at hc
  rcases hc with rfl | rfl | rfl | rfl | rfl | rfl | rfl | rfl | rfl | rfl | rfl <;> decide +kernel

theorem decode_of_notMem {cs : List Char} (h : '%' ∉ cs) :
    decode cs = cs.flatMap String.utf8EncodeChar := by
  induction cs with
  | nil => rfl
  | cons c cs ih =>
    obtain ⟨hc, hcs⟩ := List.ne_and_not_mem_of_not_mem_cons h
    rw [decode_cons (Ne.symm hc), ih hcs, List.flatMap_cons]

theorem Domain.ofChars?_of_decimals {cs : List Char} (h : ∀ c ∈ cs, c ∈ decimals) :
    Domain.ofChars? cs = some cs := by
  have hascii {label : List Char} (hlabel : ∀ c ∈ label, c ∈ decimals) : label.all Text.isAscii :=
    List.all_eq_true.mpr fun c hc => (decimal_of_mem (hlabel c hc)).1
  have hfold : fold cs = some cs := by
    have hlower : cs.map Char.toLower = cs.map id :=
      List.map_congr_left fun c hc => (decimal_of_mem (h c hc)).2.1
    rw [fold, if_pos (hascii h), hlower, List.map_id]
  have hpieces : ∀ label ∈ Text.pieces '.' cs, ∀ c ∈ label, c ∈ decimals := fun label hlabel c hc =>
    h c (Text.mem_of_mem_pieces hlabel hc)
  have hread : ∀ label ∈ Text.pieces '.' cs, readLabel label = some label := by
    intro label hlabel
    have hmarker : ¬ marker.isPrefixOf label := fun hprefix => by
      obtain ⟨rest, rfl⟩ := List.isPrefixOf_iff_prefix.mp hprefix
      exact absurd (hpieces _ hlabel 'x' (List.mem_append_left rest (by decide))) (by decide)
    rw [readLabel, if_neg hmarker, if_pos (by rw [hascii (hpieces label hlabel)]; rfl)]
  have hencode : (Text.pieces '.' cs).map asciiLabel = (Text.pieces '.' cs).map id :=
    List.map_congr_left fun label hlabel => if_pos (hascii (hpieces label hlabel))
  have hallowed : cs.any isForbidden = false := by
    have hdecimal : ∀ c ∈ decimals, isForbidden c = false := by simp [decimals, isForbidden]
    exact List.any_eq_false.mpr fun c hc => by simp [hdecimal c (h c hc)]
  have hplaces : keepPlaces (Text.pieces '.' cs) := by
    have hturns : ((Text.pieces '.' cs).map (·.map Text.Direction.ofChar)).any
        (·.any turns) = false := by
      simp only [List.any_map, List.any_eq_false, Function.comp_apply, Bool.not_eq_true]
      exact fun label hlabel c hc => (decimal_of_mem (hpieces label hlabel c hc)).2.2
    rw [keepPlaces, hturns]
    rfl
  simp only [ofChars?, Option.bind_eq_bind, hfold, Option.bind_some,
    mapM_eq_self hread, hencode, List.map_id, Text.intercalate_pieces, hallowed, hplaces]
  rfl

/-- An address of version 4 to listen on is the same address as a host. -/
theorem Host.ofChars_of_ip4 {cs : List Char} {x : Ip4} (h : Ip4.ofChars? cs = some x) :
    Host.ofChars cs = .ok (.address (.v4 x)) := by
  have hdecimals := mem_decimals_of_ofChars? h
  have htext : textOf? (decode cs) = some (.ofList cs) := by
    rw [decode_of_notMem fun hpercent => absurd (hdecimals '%' hpercent) (by decide), textOf?_utf8]
  obtain ⟨hends, hread⟩ := readIp4_of_ofChars? h
  rw [Host.ofChars.eq_def]
  split
  · cases h
  · exact absurd (hdecimals '[' List.mem_cons_self) (by decide)
  · rename_i hne _
    obtain ⟨c, cs, rfl⟩ := List.exists_cons_of_ne_nil hne
    rw [htext, Option.bind_some, String.toList_ofList, Domain.ofChars?_of_decimals hdecimals]
    simp only [hends, hread, if_true]

theorem Host.ofChars_of_ip6 {cs : List Char} {x : Ip6} (h : Ip6.ofChars? cs = some x) :
    Host.ofChars ('[' :: (cs ++ [']'])) = .ok (.address (.v6 x)) := by
  have hlast : (cs ++ [']']).getLast? = some ']' := List.getLast?_concat
  rw [Host.ofChars]
  simp only [if_pos hlast, List.dropLast_concat, readIp6_of_ofChars? h]

theorem ip6_eq_none_of_ip4 {cs : List Char} {x : Ip4} (h : Ip4.ofChars? cs = some x) :
    Ip6.ofChars? cs = none := by
  have hcolon : ':' ∉ cs := fun hmem => absurd (mem_decimals_of_ofChars? h ':' hmem) (by decide)
  have hsplit : Ip6.splitContraction cs = none := by
    cases hsplit : Ip6.splitContraction cs with
    | none => rfl
    | some parts =>
      obtain ⟨front, back⟩ := parts
      exact absurd (Host.eq_append_of_splitContraction hsplit ▸
        List.mem_append_right front List.mem_cons_self) hcolon
  have hne : cs.isEmpty = false := by
    cases cs with
    | nil => cases h
    | cons c cs => rfl
  -- One group, or two that an address of version 4 stands for, are not eight.
  simp only [Ip6.ofChars?, hsplit, Ip6.groupTexts, hne, Bool.false_eq_true, if_false,
    Text.pieces_eq_singleton hcolon, Ip6.tailGroups?, h]
  cases Ip6.group? cs <;> rfl

end Url

end RemoteServices
