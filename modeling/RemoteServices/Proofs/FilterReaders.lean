import RemoteServices.Filter.Parser
import RemoteServices.Proofs.Trimming

/-!
# What the readers of filters read

Each reader of filters as a relation between a text, what is read of it and what is left.  Its
callers need no more than that; the lengths by which the recursion ends are gone.
-/
namespace RemoteServices.Filter

/-- The reader's result is this, and this is left. -/
def Reads {α : Type} {P : List Char → Prop} (r : Except Stop (α × { r : List Char // P r })) (a : α)
    (rest : List Char) : Prop :=
  ∃ h, r = .ok (a, ⟨rest, h⟩)

theorem expect_eq_ok {c : Char} {cs ds : List Char} {h : ds.length < cs.length} :
    expect c cs = .ok ⟨ds, h⟩ ↔ skipBlanks cs = c :: ds := by
  rw [expect]
  split
  · rename_i hskip
    simp [hskip]
  · rename_i d ds' hskip
    split
    · rename_i hd
      simp [hskip, hd]
    · rename_i hd
      simp [hskip, hd]

theorem reads_map {α β : Type} {P Q : List Char → Prop}
    {x : Except Stop (α × { r : List Char // P r })} (hlen : ∀ r, P r → Q r) {make : α → β}
    {b : β} {rest : List Char} :
    Reads (P := Q) (do
      let ⟨a, rest, hrest⟩ ← x
      return (make a, ⟨rest, hlen rest hrest⟩)) b rest ↔ ∃ a, Reads x a rest ∧ b = make a := by
  simp only [Reads, bind_eq_ok, Prod.exists, Subtype.exists]
  constructor
  · rintro ⟨_, a, rest', hrest', hread, hresult⟩
    cases hresult
    exact ⟨a, ⟨hrest', hread⟩, rfl⟩
  · rintro ⟨a, ⟨hrest, hread⟩, rfl⟩
    exact ⟨hlen _ hrest, a, rest, hrest, hread, rfl⟩

theorem reads_list {P Q : List Char → Prop}
    {x : Except Stop (List Filter × { r : List Char // P r })} (hlen : ∀ r, P r → Q r)
    {make : List Filter → Filter} {f : Filter} {rest : List Char} :
    Reads (P := Q) (do
      let ⟨parts, rest, hrest⟩ ← x
      if parts.isEmpty then throw ⟨.emptyList, rest⟩
      return (make parts, ⟨rest, hlen rest hrest⟩)) f rest ↔
    ∃ parts, Reads x parts rest ∧ parts ≠ [] ∧ f = make parts := by
  simp only [Reads, bind_eq_ok, Prod.exists, Subtype.exists]
  constructor
  · rintro ⟨_, parts, rest', hrest', hread, hresult⟩
    split at hresult
    · cases hresult
    · rename_i hne
      cases hresult
      exact ⟨parts, ⟨hrest', hread⟩, by simpa using hne, rfl⟩
  · rintro ⟨parts, ⟨hrest, hread⟩, hne, rfl⟩
    exact ⟨hlen _ hrest, parts, rest, hrest, hread, by simp [hne]; rfl⟩

theorem reads_readFilter {cs rest : List Char} {f : Filter} :
    Reads (readFilter cs) f rest ↔ ∃ body rest', skipBlanks cs = '(' :: body ∧ Reads
      (readBody body) f rest' ∧
      skipBlanks rest' = ')' :: rest := by
  rw [readFilter]
  simp only [Reads, bind_eq_ok, Prod.exists, Subtype.exists, expect_eq_ok]
  constructor
  · rintro ⟨h, body, hbody, hskip, f', rest', hrest', hread, rest'', hlen, hskip', heq⟩
    cases heq
    exact ⟨body, rest', hskip, ⟨hrest', hread⟩, hskip'⟩
  · rintro ⟨body, rest', hskip, ⟨hrest', hread⟩, hskip'⟩
    have hlen := length_skipBlanks_le cs
    have hlen' := length_skipBlanks_le rest'
    simp only [hskip, hskip', List.length_cons] at hlen hlen'
    exact ⟨by omega, body, by omega, hskip, f, rest', hrest', hread, rest, by omega, hskip', rfl⟩

theorem reads_readBody {cs rest : List Char} {f : Filter} :
    Reads (readBody cs) f rest ↔
      (∃ r parts, skipBlanks cs = '&' :: r ∧ Reads (readParts r) parts rest ∧
        parts ≠ [] ∧ f = .all parts) ∨
      (∃ r parts, skipBlanks cs = '|' :: r ∧ Reads (readParts r) parts rest ∧
        parts ≠ [] ∧ f = .any parts) ∨
      (∃ r part, skipBlanks cs = '!' :: r ∧ Reads (readFilter r) part rest ∧ f = .negation part) ∨
      ∃ c r, skipBlanks cs = c :: r ∧ c ≠ '&' ∧ c ≠ '|' ∧ c ≠ '!' ∧ readItem
        (c :: r) = .ok (f, rest) := by
  have hlen := length_skipBlanks_le cs
  rw [readBody]
  dsimp only
  split
  · rename_i h
    simp [Reads, h]
  · rename_i r h
    exact (reads_list _).trans (by simp [h])
  · rename_i r h
    exact (reads_list _).trans (by simp [h])
  · rename_i r h
    exact (reads_map _).trans (by simp [h])
  · rename_i c r hand hor hnot h
    have hc : c ≠ '&' ∧ c ≠ '|' ∧ c ≠ '!' := ⟨hand, hor, hnot⟩
    refine Iff.trans (b := readItem (c :: r) = .ok (f, rest)) ?_ (by simp [h, hc])
    split
    · rename_i hi
      simp [Reads, hi]
    · rename_i f' rest' hi
      have hle : rest'.length ≤ cs.length := by
        have := length_readItem_le hi
        simp only [h, List.length_cons] at hlen this
        omega
      simp only [Reads, hi, Except.ok.injEq, Prod.mk.injEq, Subtype.mk.injEq]
      constructor
      · rintro ⟨-, heq⟩
        exact heq
      · rintro ⟨rfl, rfl⟩
        exact ⟨hle, rfl, rfl⟩

/-- Filters are read for as long as a parenthesis opens. -/
theorem reads_readParts {cs rest : List Char} {fs : List Filter} :
    Reads (readParts cs) fs rest ↔
      (∃ r f rest' fs', skipBlanks cs = '(' :: r ∧ Reads (readFilter ('(' :: r)) f rest' ∧
        Reads (readParts rest') fs' rest ∧ fs = f :: fs') ∨
        ((skipBlanks cs).head? ≠ some '(' ∧ skipBlanks cs = rest ∧ fs = []) := by
  have hlen := length_skipBlanks_le cs
  rw [readParts]
  dsimp only
  split
  · rename_i r h
    refine Iff.trans (b := ∃ f rest' fs', Reads (readFilter ('(' :: r)) f rest' ∧
      Reads (readParts rest') fs' rest ∧
      fs = f :: fs') ?_ (by simp [h])
    simp only [Reads, bind_eq_ok, Prod.exists, Subtype.exists]
    constructor
    · rintro ⟨_, f, rest', hrest', hread, fs', rest'', hrest'', hread', heq⟩
      cases heq
      exact ⟨f, rest', fs', ⟨hrest', hread⟩, ⟨hrest'', hread'⟩, rfl⟩
    · rintro ⟨f, rest', fs', ⟨hrest', hread⟩, ⟨hrest, hread'⟩, rfl⟩
      have hle : rest.length ≤ cs.length := by
        simp only [h, List.length_cons] at hlen hrest'
        omega
      exact ⟨hle, f, rest', hrest', hread, fs', rest, hrest, hread', rfl⟩
  · rename_i hnot
    have hhead : (skipBlanks cs).head? ≠ some '(' := by
      intro hhead
      obtain ⟨r, hr⟩ := List.head?_eq_some_iff.mp hhead
      exact hnot r hr
    constructor
    · rintro ⟨_, heq⟩
      cases heq
      exact .inr ⟨hhead, rfl, rfl⟩
    · rintro (⟨r, _, _, _, h, -⟩ | ⟨-, rfl, rfl⟩)
      · exact absurd h (hnot r)
      · exact ⟨hlen, rfl⟩

theorem readKey_eq_ok {cs key rest : List Char} :
    readKey cs = .ok (key, rest) ↔ cs = key ++ rest ∧ (∀ c ∈ key, ¬ endsKey c) ∧
    ∀ c ∈ rest.head?, c = '=' := by
  rw [readKey]
  constructor
  · intro h
    have hkey : key = cs.takeWhile (! endsKey ·) ∧ rest = cs.dropWhile (! endsKey ·) ∧
        ∀ c ∈ rest.head?, c = '=' := by
      split at h
      · rename_i hrest
        cases h
        exact ⟨rfl, hrest.symm, by simp⟩
      · rename_i c ds hrest
        split at h
        · rename_i hc
          cases h
          exact ⟨rfl, hrest.symm, by simp [hc]⟩
        · cases h
    obtain ⟨rfl, rfl, hhead⟩ := hkey
    exact ⟨List.takeWhile_append_dropWhile.symm, fun c hc =>
      by simpa using List.mem_takeWhile_imp hc, hhead⟩
  · rintro ⟨rfl, hplain, hhead⟩
    have hpass : ∀ c ∈ key, (! endsKey c) = true := fun c hc => by simpa using hplain c hc
    rw [List.takeWhile_append_of_pos hpass, List.dropWhile_append_of_pos hpass]
    cases rest with
    | nil => simp
    | cons c rest =>
      obtain rfl := hhead c rfl
      simp [endsKey]

theorem readItem_eq_ok {cs rest : List Char} {f : Filter} :
    readItem cs = .ok (f, rest) ↔ ∃ key value chunks, cs = key ++ '=' :: value ∧
      (∀ c ∈ key, ¬ endsKey c) ∧
      Text.trimmed key ≠ [] ∧ readValue value = .ok (chunks, rest) ∧ f = ofChunks
        (Text.trimmed key) chunks := by
  rw [readItem]
  constructor
  · intro h
    obtain ⟨⟨key, left⟩, hkey, hitem⟩ := bind_eq_ok.mp h
    obtain ⟨rfl, hplain, hhead⟩ := readKey_eq_ok.mp hkey
    dsimp only at hitem
    split at hitem
    · cases hitem
    · rename_i hne
      obtain ⟨⟨value, hlen⟩, hexpect, hchunks⟩ := bind_eq_ok.mp hitem
      obtain ⟨⟨chunks, rest'⟩, hvalue, heq⟩ := bind_eq_ok.mp hchunks
      cases heq
      rw [expect_eq_ok] at hexpect
      cases left with
      | nil => cases hexpect
      | cons c left =>
        obtain rfl := hhead c rfl
        have hvalue' : left = value := by simpa [skipBlanks, Text.isBlank] using hexpect
        exact ⟨key, value, chunks, by rw [hvalue'], hplain, by simpa using hne, hvalue, rfl⟩
  · rintro ⟨key, value, chunks, rfl, hplain, hne, hvalue, rfl⟩
    have hkey : readKey (key ++ '=' :: value) = .ok (key, '=' :: value) :=
      readKey_eq_ok.mpr ⟨rfl, hplain, by simp⟩
    have hexpect : expect '=' ('=' :: value) = .ok ⟨value, by simp⟩ :=
      expect_eq_ok.mpr (by simp [skipBlanks, Text.isBlank])
    simp only [hkey, hexpect, hvalue, bind, Except.bind]
    rw [if_neg (by simpa using hne)]
    rfl

end RemoteServices.Filter
