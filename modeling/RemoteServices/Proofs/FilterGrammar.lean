import RemoteServices.Filter.Printer
import RemoteServices.Proofs.FilterReaders

/-!
# The language of filters

The grammar of filters, apart from any way to read them.  Reading accepts just the texts that it
derives, and makes of each the filter that it is derived for: `Filter.parse_eq_ok`.
-/
namespace RemoteServices.Filter

/-- White space, or nothing. -/
def Blanks (cs : List Char) : Prop := ∀ c ∈ cs, Text.isBlank c

/-- The text before an equals sign stands for this key. -/
structure KeyText (key cs : List Char) : Prop where
  plain : ∀ c ∈ cs, c ≠ '=' ∧ c ≠ '(' ∧ c ≠ ')' ∧ c ≠ '*'
  trimmed : Text.trimmed cs = key
  nonempty : key ≠ []
  /-- It would be taken for an operator otherwise. -/
  operand : ∀ c ∈ key.head?, c ≠ '&' ∧ c ≠ '|' ∧ c ≠ '!'

/-- Plain characters, and escaped ones. -/
inductive ChunkText : List Char → List Char → Prop
  | nil : ChunkText [] []
  | plain {c : Char} (hc : c ≠ '(' ∧ c ≠ ')' ∧ c ≠ '*' ∧ c ≠ '\\') {chunk cs : List Char}
    (h : ChunkText chunk cs) :
    ChunkText (c :: chunk) (c :: cs)
  | escaped (c : Char) {chunk cs : List Char} (h : ChunkText chunk cs) :
    ChunkText (c :: chunk) ('\\' :: c :: cs)

/-- Chunks with a star between each two. -/
inductive ValueText : List (List Char) → List Char → Prop
  | last {chunk cs : List Char} (h : ChunkText chunk cs) : ValueText [chunk] cs
  | star {chunk cs : List Char} (h : ChunkText chunk cs) {chunks : List (List Char)}
    {ds : List Char} (h' : ValueText chunks ds) :
    ValueText (chunk :: chunks) (cs ++ '*' :: ds)

mutual

/-- The text is the filter. -/
inductive Derives : Filter → List Char → Prop
  | all {b c cs d : List Char} (hb : Blanks b) (hc : Blanks c) {parts : List Filter}
    (h : DerivesAll parts cs) (hne : parts ≠ []) (hd : Blanks d) :
    Derives (.all parts) (b ++ '(' :: (c ++ '&' :: (cs ++ (d ++ [')']))))
  | any {b c cs d : List Char} (hb : Blanks b) (hc : Blanks c) {parts : List Filter}
    (h : DerivesAll parts cs) (hne : parts ≠ []) (hd : Blanks d) :
    Derives (.any parts) (b ++ '(' :: (c ++ '|' :: (cs ++ (d ++ [')']))))
  | negation {b c cs d : List Char} (hb : Blanks b) (hc : Blanks c) {part : Filter}
    (h : Derives part cs) (hd : Blanks d) :
    Derives (.negation part) (b ++ '(' :: (c ++ '!' :: (cs ++ (d ++ [')']))))
  | present {b c cs : List Char} (hb : Blanks b) (hc : Blanks c) {key : List Char}
    (h : KeyText key cs) :
    Derives (.present (.ofList key)) (b ++ '(' :: (c ++ (cs ++ ['=', '*', ')'])))
  | equal {b c cs ds : List Char} (hb : Blanks b) (hc : Blanks c) {key : List Char}
    (h : KeyText key cs) {chunks : List (List Char)} (hvalue : ValueText chunks ds)
    (hne : ds ≠ ['*']) :
    Derives (.equal (.ofList key) (chunks.map .ofList))
      (b ++ '(' :: (c ++ (cs ++ '=' :: (ds ++ [')']))))

/-- The text is the filters, one after the other. -/
inductive DerivesAll : List Filter → List Char → Prop
  | nil : DerivesAll [] []
  | cons {f : Filter} {fs : List Filter} {cs ds : List Char} (h : Derives f cs)
    (h' : DerivesAll fs ds) :
    DerivesAll (f :: fs) (cs ++ ds)

end

/-- The text is the filter, with white space after it. -/
def DerivesPadded (f : Filter) (cs : List Char) : Prop :=
  ∃ used b, cs = used ++ b ∧ Derives f used ∧ Blanks b

/-- The text is the filter once it is trimmed.  Where it does not start with a parenthesis then, it
stands for itself between two. -/
def Denotes (s : String) (f : Filter) : Prop :=
  (∃ cs, Text.trimmed s.toList = '(' :: cs ∧ DerivesPadded f ('(' :: cs)) ∨
    ∃ c cs, Text.trimmed s.toList = c :: cs ∧ c ≠ '(' ∧
      DerivesPadded f ('(' :: (c :: cs ++ [')']))

theorem blanks_nil : Blanks [] := by simp [Blanks]

theorem Blanks.append {b c : List Char} (hb : Blanks b) (hc : Blanks c) :
    Blanks (b ++ c) := fun d hd =>
  (List.mem_append.mp hd).elim (hb d) (hc d)

theorem skipBlanks_cons {c : Char} (hc : ¬ Text.isBlank c) (cs : List Char) :
    skipBlanks (c :: cs) = c :: cs :=
  List.dropWhile_cons_of_neg hc

theorem skipBlanks_append {b : List Char} (hb : Blanks b) (cs : List Char) :
    skipBlanks (b ++ cs) = skipBlanks cs :=
  List.dropWhile_append_of_pos hb

theorem exists_blanks (cs : List Char) : ∃ b, Blanks b ∧ cs = b ++ skipBlanks cs :=
  ⟨_, fun _ hc => List.mem_takeWhile_imp hc, List.takeWhile_append_dropWhile.symm⟩

theorem not_isBlank_of_skipBlanks {c : Char} {cs ds : List Char} (h : skipBlanks cs = c :: ds) :
    ¬ Text.isBlank c := by
  have hhead : c ∈ (cs.dropWhile Text.isBlank).head? := by
    rw [← skipBlanks, h]
    rfl
  exact Text.not_isBlank_of_mem_head? hhead

theorem not_isSpecial_iff {c : Char} :
    ¬ isSpecial c ↔ c ≠ '(' ∧ c ≠ ')' ∧ c ≠ '*' ∧ c ≠ '\\' := by
  simp [isSpecial, and_assoc]

theorem not_endsKey_iff {c : Char} : ¬ endsKey c ↔ c ≠ '=' ∧ c ≠ '(' ∧ c ≠ ')' ∧ c ≠ '*' := by
  simp [endsKey, and_assoc]

theorem ValueText.plain {c : Char} (hc : c ≠ '(' ∧ c ≠ ')' ∧ c ≠ '*' ∧ c ≠ '\\')
    {chunks : List (List Char)} {cs : List Char} (h : ValueText chunks cs) :
    ValueText (consChunk c chunks) (c :: cs) := by
  cases h with
  | last h => exact .last (h.plain hc)
  | star h h' => exact .star (h.plain hc) h'

theorem ValueText.escaped (c : Char) {chunks : List (List Char)} {cs : List Char}
    (h : ValueText chunks cs) : ValueText (consChunk c chunks) ('\\' :: c :: cs) := by
  cases h with
  | last h => exact .last (h.escaped c)
  | star h h' => exact .star (h.escaped c) h'

theorem ValueText.eq_nil {chunks : List (List Char)} {ds : List Char} (h : ValueText chunks ds)
    (hds : ds = []) :
    chunks = [[]] := by
  cases h with
  | last h =>
    subst hds
    cases h
    rfl
  | star => simp at hds

theorem ValueText.eq_star_iff {chunks : List (List Char)} {ds : List Char}
    (h : ValueText chunks ds) :
    ds = ['*'] ↔ chunks = [[], []] := by
  constructor
  · intro hds
    cases h with
    | last h =>
      subst hds
      cases h with
      | plain hc => exact absurd rfl hc.2.2.1
    | star h h' =>
      obtain ⟨rfl, htail⟩ := List.append_eq_cons_iff.mp hds |>.resolve_right (by simp)
      obtain rfl := (List.cons.inj htail).2
      cases h
      rw [h'.eq_nil rfl]
  · rintro rfl
    cases h with
    | star h h' =>
      cases h
      cases h' with
      | last h' =>
        cases h'
        rfl
      | star _ h'' => cases h''

theorem readValue_plain {c : Char} (hc : c ≠ '(' ∧ c ≠ ')' ∧ c ≠ '*' ∧ c ≠ '\\') (cs : List Char) :
    readValue (c :: cs) = do
      let (chunks, rest) ← readValue cs
      return (consChunk c chunks, rest) := by
  obtain ⟨hopen, hclose, hstar, hescape⟩ := hc
  rw [readValue] <;> intros <;> contradiction

/-- A value that can be read is one of the grammar, up to a closing parenthesis. -/
theorem valueText_of_readValue {cs rest : List Char} {chunks : List (List Char)}
    (h : readValue cs = .ok (chunks, rest)) :
    ∃ ds rest', cs = ds ++ rest ∧ rest = ')' :: rest' ∧ ValueText chunks ds := by
  fun_induction readValue cs generalizing chunks with
  | case1 => cases h
  | case2 cs =>
    cases h
    exact ⟨[], cs, rfl, rfl, .last .nil⟩
  | case3 => cases h
  | case4 cs ih =>
    obtain ⟨⟨chunks', rest'⟩, hread, heq⟩ := bind_eq_ok.mp h
    cases heq
    obtain ⟨ds, rest'', rfl, hrest, hvalue⟩ := ih hread
    exact ⟨'*' :: ds, rest'', rfl, hrest, .star .nil hvalue⟩
  | case5 => cases h
  | case6 c cs ih =>
    obtain ⟨⟨chunks', rest'⟩, hread, heq⟩ := bind_eq_ok.mp h
    cases heq
    obtain ⟨ds, rest'', rfl, hrest, hvalue⟩ := ih hread
    exact ⟨'\\' :: c :: ds, rest'', rfl, hrest, hvalue.escaped c⟩
  | case7 c cs hclose hopen hstar hend hescape ih =>
    have hbackslash : c ≠ '\\' := by
      intro hc
      cases cs with
      | nil => exact hend hc rfl
      | cons d ds => exact hescape d ds hc rfl
    obtain ⟨⟨chunks', rest'⟩, hread, heq⟩ := bind_eq_ok.mp h
    cases heq
    obtain ⟨ds, rest'', rfl, hrest, hvalue⟩ := ih hread
    exact ⟨c :: ds, rest'', rfl, hrest, hvalue.plain ⟨hopen, hclose, hstar, hbackslash⟩⟩

theorem readValue_chunk {chunk cs : List Char} (h : ChunkText chunk cs) {ds rest next : List Char}
    {chunks : List (List Char)} (hread : readValue ds = .ok (next :: chunks, rest)) :
    readValue (cs ++ ds) = .ok ((chunk ++ next) :: chunks, rest) := by
  induction h with
  | nil => exact hread
  | plain hc h ih =>
    rw [List.cons_append, readValue_plain hc, ih]
    rfl
  | escaped c h ih =>
    rw [List.cons_append, List.cons_append, readValue, ih]
    rfl

theorem readValue_of_valueText {chunks : List (List Char)} {ds : List Char}
    (h : ValueText chunks ds) (rest : List Char) :
    readValue (ds ++ ')' :: rest) = .ok (chunks, ')' :: rest) := by
  induction h with
  | last h =>
    have hend : readValue (')' :: rest) = .ok ([[]], ')' :: rest) := rfl
    have hread := readValue_chunk h hend
    rwa [List.append_nil] at hread
  | @star _ _ h chunks ds h' ih =>
    have hstar : readValue ('*' :: (ds ++ ')' :: rest)) = .ok ([] :: chunks, ')' :: rest) := by
      rw [readValue, ih]
      rfl
    have hread := readValue_chunk h hstar
    rwa [List.append_nil, ← List.cons_append, ← List.append_assoc] at hread

theorem ofChunks_of_ne (key : List Char) {chunks : List (List Char)} (h : chunks ≠ [[], []]) :
    ofChunks key chunks = .equal (.ofList key) (chunks.map .ofList) := by
  rw [ofChunks]
  exact h

theorem derives_item {b c cs ds key : List Char} {chunks : List (List Char)}
    (hb : Blanks b) (hc : Blanks c) (hkey : KeyText key cs) (hvalue : ValueText chunks ds) :
    Derives (ofChunks key chunks) (b ++ '(' :: (c ++ (cs ++ '=' :: (ds ++ [')'])))) := by
  by_cases hstar : ds = ['*']
  · rw [hvalue.eq_star_iff.mp hstar, hstar]
    exact .present hb hc hkey
  · rw [ofChunks_of_ne key (hvalue.eq_star_iff.not.mp hstar)]
    exact .equal hb hc hkey hvalue hstar

theorem reads_item {c cs ds key : List Char} {chunks : List (List Char)} (hc : Blanks c)
    (hkey : KeyText key cs) (hvalue : ValueText chunks ds) (rest : List Char) :
    Reads (readBody (c ++ (cs ++ '=' :: (ds ++ ')' :: rest))))
      (ofChunks key chunks) (')' :: rest) := by
  obtain ⟨hplain, rfl, hne, hop⟩ := hkey
  obtain ⟨b, hb, hcs⟩ := exists_blanks cs
  cases hskip : skipBlanks cs with
  | nil =>
    rw [hskip, List.append_nil] at hcs
    exact absurd (Text.trimmed_eq_nil_iff.mpr (hcs ▸ hb)) hne
  | cons d ds' =>
    have hd := not_isBlank_of_skipBlanks hskip
    have htrimmed : Text.trimmed cs = Text.trimmed (d :: ds') := by
      rw [← Text.trimmed_dropWhile cs, ← skipBlanks, hskip]
    rw [hskip] at hcs
    rw [htrimmed, Text.head?_trimmed hd] at hop
    have hread : skipBlanks (c ++ (cs ++ '=' :: (ds ++ ')' :: rest))) = d ::
        (ds' ++ '=' :: (ds ++ ')' :: rest)) := by
      rw [skipBlanks_append hc, hcs, List.append_assoc, skipBlanks_append hb,
        List.cons_append, skipBlanks_cons hd]
    refine reads_readBody.mpr
      (.inr (.inr (.inr ⟨d, _, hread, (hop d rfl).1, (hop d rfl).2.1, (hop d rfl).2.2, ?_⟩)))
    refine readItem_eq_ok.mpr ⟨d :: ds', ds ++ ')' :: rest, chunks, rfl, fun e he =>
      not_endsKey_iff.mpr (hplain e ?_), htrimmed ▸ hne, readValue_of_valueText hvalue rest,
        by rw [htrimmed]⟩
    rw [hcs]
    exact List.mem_append_right b he

theorem skipBlanks_closing {d : List Char} (hd : Blanks d) (rest : List Char) :
    skipBlanks (d ++ ')' :: rest) = ')' :: rest := by
  rw [skipBlanks_append hd, skipBlanks_cons (by decide)]

theorem reads_of_skipBlanks {cs ds rest : List Char} {f : Filter}
    (h : skipBlanks cs = skipBlanks ds) :
    Reads (readFilter cs) f rest ↔ Reads (readFilter ds) f rest := by
  rw [reads_readFilter, reads_readFilter, h]

theorem reads_parenthesized {b body cs rest rest' : List Char} {f : Filter} (hb : Blanks b)
    (hbody : Reads (readBody body) f rest') (hclose : skipBlanks rest' = ')' :: rest)
    (hcs : cs = b ++ '(' :: body) :
    Reads (readFilter cs) f rest := by
  refine reads_readFilter.mpr ⟨body, rest', ?_, hbody, hclose⟩
  rw [hcs, skipBlanks_append hb, skipBlanks_cons (by decide)]

mutual

theorem reads_of_derives {f : Filter} {cs : List Char} (h : Derives f cs) (rest : List Char) :
    Reads (readFilter (cs ++ rest)) f rest := by
  cases h with
  | @all b c cs d hb hc parts h hne hd =>
    have hparts := reads_of_derivesAll h (d ++ ')' :: rest) (by rw [skipBlanks_closing hd]; simp)
    rw [skipBlanks_closing hd] at hparts
    have hop : skipBlanks (c ++ '&' :: (cs ++ (d ++ ')' :: rest))) = '&' ::
        (cs ++ (d ++ ')' :: rest)) := by
      rw [skipBlanks_append hc, skipBlanks_cons (by decide)]
    exact reads_parenthesized hb (reads_readBody.mpr (.inl ⟨_, parts, hop, hparts, hne, rfl⟩))
      (skipBlanks_cons (by decide) rest) (by simp)
  | @any b c cs d hb hc parts h hne hd =>
    have hparts := reads_of_derivesAll h (d ++ ')' :: rest) (by rw [skipBlanks_closing hd]; simp)
    rw [skipBlanks_closing hd] at hparts
    have hop : skipBlanks (c ++ '|' :: (cs ++ (d ++ ')' :: rest))) = '|' ::
        (cs ++ (d ++ ')' :: rest)) := by
      rw [skipBlanks_append hc, skipBlanks_cons (by decide)]
    exact reads_parenthesized hb
      (reads_readBody.mpr (.inr (.inl ⟨_, parts, hop, hparts, hne, rfl⟩)))
      (skipBlanks_cons (by decide) rest) (by simp)
  | @negation b c cs d hb hc part h hd =>
    have hpart := reads_of_derives h (d ++ ')' :: rest)
    have hop : skipBlanks (c ++ '!' :: (cs ++ (d ++ ')' :: rest))) = '!' ::
        (cs ++ (d ++ ')' :: rest)) := by
      rw [skipBlanks_append hc, skipBlanks_cons (by decide)]
    exact reads_parenthesized hb
      (reads_readBody.mpr (.inr (.inr (.inl ⟨_, part, hop, hpart, rfl⟩))))
      (skipBlanks_closing hd rest) (by simp)
  | @present b c cs hb hc key hkey =>
    have hitem := reads_item hc hkey (.star .nil (.last .nil)) rest
    exact reads_parenthesized hb hitem (skipBlanks_cons (by decide) rest) (by simp)
  | @equal b c cs ds hb hc key hkey chunks hvalue hne =>
    have hitem := reads_item hc hkey hvalue rest
    rw [ofChunks_of_ne key (hvalue.eq_star_iff.not.mp hne)] at hitem
    exact reads_parenthesized hb hitem (skipBlanks_cons (by decide) rest) (by simp)

theorem reads_of_derivesAll {fs : List Filter} {cs : List Char}
    (h : DerivesAll fs cs) (rest : List Char) (hrest : (skipBlanks rest).head? ≠ some '(') :
    Reads (readParts (cs ++ rest)) fs (skipBlanks rest) := by
  cases h with
  | nil => exact reads_readParts.mpr (.inr ⟨hrest, rfl, rfl⟩)
  | @cons f fs cs ds h h' =>
    have hfirst := reads_of_derives h (ds ++ rest)
    have hothers := reads_of_derivesAll h' rest hrest
    obtain ⟨body, -, hskip, -⟩ := reads_readFilter.mp hfirst
    rw [List.append_assoc]
    refine reads_readParts.mpr (.inl ⟨body, f, ds ++ rest, fs, hskip, ?_, hothers, rfl⟩)
    exact (reads_of_skipBlanks (by rw [hskip, skipBlanks_cons (by decide)])).mpr hfirst

end

theorem keyText_trimmed {c : Char} {cs : List Char} (hc : ¬ Text.isBlank c)
    (hplain : ∀ d ∈ c :: cs, ¬ endsKey d) (hop : c ≠ '&' ∧ c ≠ '|' ∧ c ≠ '!') :
    KeyText (Text.trimmed (c :: cs)) (c :: cs) where
  plain d hd := not_endsKey_iff.mp (hplain d hd)
  trimmed := rfl
  nonempty h := hc (Text.trimmed_eq_nil_iff.mp h c List.mem_cons_self)
  operand d hd := by
    rw [Text.head?_trimmed hc] at hd
    cases hd
    exact hop

mutual

theorem derives_of_reads {cs rest : List Char} {f : Filter} (h : Reads (readFilter cs) f rest) :
    ∃ used, cs = used ++ rest ∧ Derives f used := by
  obtain ⟨body, rest', hskip, hbody, hclose⟩ := reads_readFilter.mp h
  obtain ⟨b, hb, hcs⟩ := exists_blanks cs
  obtain ⟨c, hc, hbody'⟩ := exists_blanks body
  obtain ⟨d, hd, hrest'⟩ := exists_blanks rest'
  rw [hskip] at hcs
  rw [hclose] at hrest'
  rcases reads_readBody.mp hbody with ⟨r, parts, hop, hparts, hne, rfl⟩ | ⟨r, parts,
    hop, hparts, hne, rfl⟩ |
    ⟨r, part, hop, hpart, rfl⟩ | ⟨e, r, hop, he, he', he'', hitem⟩
  · rw [hop] at hbody'
    have hlt : r.length < cs.length := by simp [hcs, hbody']; omega
    obtain ⟨used, b', hr, hb', hderives⟩ := derivesAll_of_reads hparts
    exact ⟨_, by rw [hcs, hbody', hr, hrest']; simp, .all hb hc hderives hne (hb'.append hd)⟩
  · rw [hop] at hbody'
    have hlt : r.length < cs.length := by simp [hcs, hbody']; omega
    obtain ⟨used, b', hr, hb', hderives⟩ := derivesAll_of_reads hparts
    exact ⟨_, by rw [hcs, hbody', hr, hrest']; simp, .any hb hc hderives hne (hb'.append hd)⟩
  · rw [hop] at hbody'
    have hlt : r.length < cs.length := by simp [hcs, hbody']; omega
    obtain ⟨used, hr, hderives⟩ := derives_of_reads hpart
    exact ⟨_, by rw [hcs, hbody', hr, hrest']; simp, .negation hb hc hderives hd⟩
  · obtain ⟨key, value, chunks, hr, hplain, hne, hvalue, rfl⟩ := readItem_eq_ok.mp hitem
    obtain ⟨ds, rest'', rfl, rfl, hchunks⟩ := valueText_of_readValue hvalue
    rw [hop, hr] at hbody'
    rw [skipBlanks_cons (by decide)] at hclose
    obtain rfl := (List.cons.inj hclose).2
    cases key with
    | nil => exact absurd rfl hne
    | cons k key =>
      obtain rfl := (List.cons.inj hr).1
      have hkey := keyText_trimmed (not_isBlank_of_skipBlanks hop) hplain ⟨he, he', he''⟩
      exact ⟨_, by rw [hcs, hbody']; simp, derives_item hb hc hkey hchunks⟩
termination_by 2 * cs.length

theorem derivesAll_of_reads {cs rest : List Char} {fs : List Filter}
    (h : Reads (readParts cs) fs rest) :
    ∃ used b, cs = used ++ (b ++ rest) ∧ Blanks b ∧ DerivesAll fs used := by
  obtain ⟨b, hb, hcs⟩ := exists_blanks cs
  rcases reads_readParts.mp h with ⟨r, f, rest', fs', hskip, hfirst, hothers, rfl⟩ | ⟨-, rfl, rfl⟩
  · rw [hskip] at hcs
    have hlen : ('(' :: r).length ≤ cs.length := by simp [hcs]
    have hlt : rest'.length < ('(' :: r).length := hfirst.1
    obtain ⟨used, hr, hderives⟩ :=
      derives_of_reads
      ((reads_of_skipBlanks (by rw [hskip, skipBlanks_cons (by decide)])).mpr hfirst)
    obtain ⟨used', b', hrest', hb', hderives'⟩ := derivesAll_of_reads hothers
    exact ⟨used ++ used', b', by rw [hr, hrest']; simp, hb', .cons hderives hderives'⟩
  · exact ⟨[], b, hcs, hb, .nil⟩
termination_by 2 * cs.length + 1

end

theorem readAll_eq_ok {cs : List Char} {f : Filter} :
    readAll cs = .ok f ↔ DerivesPadded f cs := by
  rw [readAll]
  constructor
  · intro h
    obtain ⟨⟨f', rest, hlen⟩, hread, hend⟩ := bind_eq_ok.mp h
    dsimp only at hend
    split at hend
    · rename_i hnil
      cases hend
      obtain ⟨used, hcs, hderives⟩ := derives_of_reads ⟨hlen, hread⟩
      exact ⟨used, rest, hcs, hderives, List.dropWhile_eq_nil_iff.mp (List.isEmpty_iff.mp hnil)⟩
    · cases hend
  · rintro ⟨used, b, rfl, hderives, hb⟩
    obtain ⟨hlen, hread⟩ := reads_of_derives hderives b
    have hnil : skipBlanks b = [] := List.dropWhile_eq_nil_iff.mpr hb
    simp [hread, hnil, bind, Except.bind, pure, Except.pure]

/-- What stands between parentheses is read as it is, and other texts as if they stood there. -/
theorem denotes_iff {s : String} {f : Filter} :
    Denotes s f ↔ Text.trimmed s.toList ≠ [] ∧
      DerivesPadded f (parenthesized (Text.trimmed s.toList)) := by
  rw [Denotes]
  cases Text.trimmed s.toList with
  | nil => simp
  | cons c cs =>
    by_cases hc : c = '('
    · subst hc
      simp [parenthesized]
    · simp [parenthesized, hc]

theorem ofText_eq_ok {s : String} {f : Filter} : ofText s = .ok f ↔ Denotes s f := by
  rw [ofText, ofChars, denotes_iff, ← readAll_eq_ok]
  dsimp only
  split
  · rename_i hempty
    simp [List.isEmpty_iff.mp hempty]
  · rename_i hne
    have hne' : Text.trimmed s.toList ≠ [] := by simpa using hne
    cases readAll (parenthesized (Text.trimmed s.toList)) <;> simp [hne']

theorem parse_eq_ok {s : String} {f : Filter} : parse s = .ok f ↔ Denotes s f := by
  rw [parse, ← ofText_eq_ok]
  cases ofText s <;> simp [Except.mapError]

/-- A text is read as a filter just when the grammar derives it for this filter, and a text that it
derives for none is an illegal argument. -/
theorem parse_derived (s : String) :
    (∀ f, parse s = .ok f ↔ Denotes s f) ∧
    ((∃ f, Denotes s f) ∨ ∃ reason, parse s = .error (.illegalArgument reason)) := by
  refine ⟨fun f => parse_eq_ok, ?_⟩
  simp only [← ofText_eq_ok, parse]
  cases ofText s with
  | ok f => exact .inl ⟨f, rfl⟩
  | error e => exact .inr ⟨_, rfl⟩

/-- Both parentheses around the whole may be left out, but not one of them. -/
theorem parse_derived_bare :
    Denotes "\ta =b\\*c* " (.equal "a" ["b*c", ""]) ∧
      parse "\ta =b\\*c* " = .ok (.equal "a" ["b*c", ""]) ∧
      parse "(a=b" = .error (.illegalArgument "invalid filter at offset 4: unterminated value") ∧
      ¬ ∃ f, Denotes "(a=b" f := by
  have hkey : KeyText ['a'] ['a', ' '] :=
    ⟨by simp, by decide +kernel, by decide, by simp⟩
  have hchunk : ChunkText ['b', '*', 'c'] ['b', '\\', '*', 'c'] :=
    .plain (by decide) (.escaped '*' (.plain (by decide) .nil))
  have hvalue : ValueText [['b', '*', 'c'], []] ['b', '\\', '*', 'c', '*'] :=
    .star hchunk (.last .nil)
  have hderives := Derives.equal blanks_nil blanks_nil hkey hvalue (by decide)
  have hbare : Denotes "\ta =b\\*c* " (.equal "a" ["b*c", ""]) := by
    refine .inr ⟨'a', [' ', '=', 'b', '\\', '*', 'c', '*'], by decide +kernel, by decide, ?_⟩
    exact ⟨_, [], rfl, hderives, blanks_nil⟩
  have hfault : ofText "(a=b" = .error (.invalid 4 .unterminatedValue) := by cbv
  have hrefused : parse "(a=b" =
      .error (.illegalArgument "invalid filter at offset 4: unterminated value") := by
    rw [parse, hfault]
    have hmessage : (ReadError.invalid 4 .unterminatedValue).message =
        "invalid filter at offset 4: unterminated value" := by decide +kernel
    rw [← hmessage]
    rfl
  refine ⟨hbare, ((parse_derived _).1 _).mpr hbare, hrefused, ?_⟩
  rintro ⟨f, hf⟩
  cases hrefused.symm.trans (((parse_derived _).1 f).mpr hf)

end RemoteServices.Filter
