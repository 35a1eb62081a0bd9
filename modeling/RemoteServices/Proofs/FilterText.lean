import RemoteServices.Proofs.FilterGrammar

/-!
# Filters that can be written

A filter may be built that no text denotes.  The others are the well-formed ones: those that come
back when they are written and read, and those that any text is read as, `Filter.parse_toText`.
-/
namespace RemoteServices.Filter

/-- A key that is read back as it is written. -/
structure IsKey (key : String) : Prop where
  nonempty : key ≠ ""
  unpadded : (∀ c ∈ key.toList.head?, ¬ Text.isBlank c) ∧
    ∀ c ∈ key.toList.getLast?, ¬ Text.isBlank c
  plain : ∀ c ∈ key.toList, c ≠ '=' ∧ c ≠ '(' ∧ c ≠ ')' ∧ c ≠ '*'
  operand : ∀ c ∈ key.toList.head?, c ≠ '&' ∧ c ≠ '|' ∧ c ≠ '!'

mutual

def WellFormed : Filter → Prop
  | .all parts => parts ≠ [] ∧ AllWellFormed parts
  | .any parts => parts ≠ [] ∧ AllWellFormed parts
  | .negation part => WellFormed part
  | .present key => IsKey key
  | .equal key chunks => IsKey key ∧ chunks ≠ [] ∧ chunks ≠ ["", ""]

def AllWellFormed : List Filter → Prop
  | [] => True
  | f :: fs => WellFormed f ∧ AllWellFormed fs

end

theorem isKey_iff {key : String} : IsKey key ↔ KeyText key.toList key.toList := by
  constructor
  · rintro ⟨hne, hunpadded, hplain, hop⟩
    exact ⟨hplain, Text.trimmed_eq_self_iff.mpr hunpadded, by simpa using hne, hop⟩
  · rintro ⟨hplain, htrimmed, hne, hop⟩
    exact ⟨by simpa using hne, Text.trimmed_eq_self_iff.mp htrimmed, hplain, hop⟩

theorem KeyText.isKey {key cs : List Char} (h : KeyText key cs) : IsKey (.ofList key) := by
  obtain ⟨hplain, rfl, hne, hop⟩ := h
  rw [isKey_iff, String.toList_ofList]
  exact ⟨fun c hc => hplain c (Text.mem_of_mem_trimmed hc), Text.trimmed_trimmed cs, hne, hop⟩

theorem chunkText_escape (chunk : List Char) : ChunkText chunk (escape chunk) := by
  induction chunk with
  | nil => exact .nil
  | cons c chunk ih =>
    rw [escape]
    split
    · exact ih.escaped c
    · rename_i hc
      exact ih.plain (not_isSpecial_iff.mp hc)

theorem valueText_renderChunks {chunks : List (List Char)} (h : chunks ≠ []) :
    ValueText chunks (renderChunks chunks) := by
  induction chunks with
  | nil => exact absurd rfl h
  | cons chunk chunks ih =>
    cases chunks with
    | nil => exact .last (chunkText_escape chunk)
    | cons next chunks => exact .star (chunkText_escape chunk) (ih (by simp))

theorem map_ofList_toList (chunks : List String) :
    (chunks.map String.toList).map String.ofList = chunks := by
  simp

mutual

theorem derives_render (f : Filter) (h : f.WellFormed) : Derives f f.render := by
  cases f with
  | all parts => exact .all blanks_nil blanks_nil (derivesAll_render parts h.2) h.1 blanks_nil
  | any parts => exact .any blanks_nil blanks_nil (derivesAll_render parts h.2) h.1 blanks_nil
  | negation part => exact .negation blanks_nil blanks_nil (derives_render part h) blanks_nil
  | present key =>
    have hderives := Derives.present blanks_nil blanks_nil (isKey_iff.mp h)
    rwa [String.ofList_toList] at hderives
  | equal key chunks =>
    obtain ⟨hkey, hne, hpresent⟩ := h
    have hvalue : ValueText (chunks.map String.toList) (renderChunks (chunks.map String.toList)) :=
      valueText_renderChunks (by simpa using hne)
    have hstar : renderChunks (chunks.map String.toList) ≠ ['*'] := by
      rw [Ne, hvalue.eq_star_iff]
      intro heq
      have := congrArg (List.map String.ofList) heq
      rw [map_ofList_toList] at this
      exact hpresent this
    have hderives := Derives.equal blanks_nil blanks_nil (isKey_iff.mp hkey) hvalue hstar
    rwa [String.ofList_toList, map_ofList_toList] at hderives

theorem derivesAll_render (fs : List Filter) (h : AllWellFormed fs) :
    DerivesAll fs (renderParts fs) := by
  cases fs with
  | nil => exact .nil
  | cons f fs => exact .cons (derives_render f h.1) (derivesAll_render fs h.2)

end

mutual

theorem Derives.wellFormed {f : Filter} {cs : List Char} (h : Derives f cs) : f.WellFormed := by
  cases h with
  | all hb hc h hne hd => exact ⟨hne, h.wellFormed⟩
  | any hb hc h hne hd => exact ⟨hne, h.wellFormed⟩
  | negation hb hc h hd => exact h.wellFormed
  | present hb hc hkey => exact hkey.isKey
  | equal hb hc hkey hvalue hne =>
    refine ⟨hkey.isKey, ?_, fun heq => hne (hvalue.eq_star_iff.mpr ?_)⟩
    · cases hvalue <;> simp
    · have := congrArg (List.map String.toList) heq
      simpa using this

theorem DerivesAll.wellFormed {fs : List Filter} {cs : List Char} (h : DerivesAll fs cs) :
    AllWellFormed fs := by
  cases h with
  | nil => trivial
  | cons h h' => exact ⟨h.wellFormed, h'.wellFormed⟩

end

theorem exists_render_eq (f : Filter) : ∃ body, f.render = '(' :: (body ++ [')']) := by
  cases f with
  | all parts => exact ⟨'&' :: renderParts parts, rfl⟩
  | any parts => exact ⟨'|' :: renderParts parts, rfl⟩
  | negation part => exact ⟨'!' :: part.render, rfl⟩
  | present key => exact ⟨key.toList ++ ['=', '*'], by simp [render]⟩
  | equal key chunks =>
    exact ⟨key.toList ++ '=' :: renderChunks (chunks.map String.toList), by simp [render]⟩

/-- A filter is written without white space around it and between parentheses. -/
theorem denotes_toText {f g : Filter} :
    Denotes f.toText g ↔ DerivesPadded g f.render := by
  obtain ⟨body, hbody⟩ := exists_render_eq f
  have htrimmed : Text.trimmed f.render = f.render := by
    rw [hbody]
    exact Text.trimmed_eq_self_iff.mpr ⟨by simp; decide, by simp [List.getLast?_cons]; decide⟩
  have hparen : parenthesized f.render = f.render := by simp [hbody, parenthesized]
  rw [denotes_iff, toText, String.toList_ofList, htrimmed, hparen]
  simp [hbody]

theorem denotes_self_iff {f : Filter} : Denotes f.toText f ↔ f.WellFormed := by
  rw [denotes_toText]
  constructor
  · rintro ⟨cs, b, -, hderives, -⟩
    exact hderives.wellFormed
  · exact fun h => ⟨f.render, [], by simp, derives_render f h, blanks_nil⟩

theorem Denotes.wellFormed {s : String} {f : Filter} (h : Denotes s f) : f.WellFormed := by
  obtain ⟨-, cs, b, -, hderives, -⟩ := denotes_iff.mp h
  exact hderives.wellFormed

/-- A filter is read from the text that it is written as just when it is well formed.  Any filter
that a text is read as is, so to write it and to read it again gives it back. -/
theorem parse_toText :
    (∀ f : Filter, parse f.toText = .ok f ↔ f.WellFormed) ∧
    ∀ (s : String) (f : Filter), parse s = .ok f → f.WellFormed ∧ parse f.toText = .ok f := by
  refine ⟨fun f => parse_eq_ok.trans denotes_self_iff, fun s f h => ?_⟩
  have hf := (parse_eq_ok.mp h).wellFormed
  exact ⟨hf, parse_eq_ok.mpr (denotes_self_iff.mpr hf)⟩

/-- A text with white space, an escaped parenthesis and an empty chunk, written and read again. -/
theorem parse_toText_escaped :
    let f : Filter :=
      .all [.equal "a" ["x)", " "], .negation (.any [.present "b c", .equal "d" ["", "y", ""]])]
    parse " ( &(a =x\\)* ) (!(| ( b c=*)(d=*\\y*) ) ))" = .ok f ∧ f.WellFormed ∧
      f.toText = "(&(a=x\\)* )(!(|(b c=*)(d=*y*))))" ∧ parse f.toText = .ok f := by
  intro f
  have hparse : parse " ( &(a =x\\)* ) (!(| ( b c=*)(d=*\\y*) ) ))" = .ok f := by cbv
  obtain ⟨hf, hagain⟩ := parse_toText.2 _ f hparse
  exact ⟨hparse, hf, by decide +kernel, hagain⟩

end RemoteServices.Filter
