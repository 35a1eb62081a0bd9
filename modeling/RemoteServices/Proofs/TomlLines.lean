import RemoteServices.Proofs.Numerals
import RemoteServices.Proofs.TomlStrings
import RemoteServices.Settings.Toml

/-!
# Documents of TOML are read as they are written

A value is read up to the end of its line, and an entry up to the line after it; so a text that is
put together from such lines is read as the entries that they stand for.  Entries of different names
are kept as they are, in the table that a header opens for them.
-/
namespace RemoteServices.Toml

theorem skipBlanks_cons {c : Char} {cs : List Char} (hspace : c ≠ ' ') (htab : c ≠ '\t') :
    skipBlanks (c :: cs) = c :: cs :=
  List.dropWhile_cons_of_neg (by simp [hspace, htab])

theorem ne_of_eq_false {isOf : Char → Bool} {c d : Char} (hc : isOf c) (hd : isOf d = false) :
    c ≠ d := by
  rintro rfl
  exact Bool.false_ne_true (hd.symm.trans hc)

/-- The text is read as the value, up to the end of the line. -/
def ReadsAs (text : List Char) (value : Toml) : Prop :=
  ∀ rest, readValue maxDepth (skipBlanks (text ++ '\n' :: rest)) = some (value, '\n' :: rest)

theorem readValue_cons {depth : Nat} {c : Char} {cs : List Char} (hbracket : c ≠ '[')
    (hbrace : c ≠ '\x7b') :
    readValue depth (c :: cs) =
      if c = '"' ∨ c = '\'' then (readString (c :: cs)).map fun (s, rest) => (.text s, rest) else
        readWord (c :: cs) := by
  rw [readValue.eq_def]
  split
  · exact absurd (List.cons.inj ‹_›).1 hbracket
  · exact absurd (List.cons.inj ‹_›).1 hbrace
  · rename_i heq _ _
    obtain ⟨rfl, rfl⟩ := List.cons.inj heq
    rfl
  · cases ‹_ :: _ = []›

theorem exists_quote_eq_cons (s : List Char) :
    ∃ mark cs, quote s = mark :: cs ∧ (mark = '"' ∨ mark = '\'') := by
  rw [quote]
  cases formOf s with
  | basic => exact ⟨'"', _, rfl, .inl rfl⟩
  | literal => exact ⟨'\'', _, rfl, .inr rfl⟩
  | longBasic => exact ⟨'"', _, rfl, .inl rfl⟩
  | longLiteral => exact ⟨'\'', _, rfl, .inr rfl⟩

theorem readsAs_quote (s : List Char) : ReadsAs (quote s) (.text s) := by
  intro rest
  obtain ⟨mark, cs, hquote, hmark⟩ := exists_quote_eq_cons s
  have hread : readString (quote s ++ '\n' :: rest) = some (s, '\n' :: rest) := by
    refine readString_quote s fun c hc => ?_
    obtain rfl := Option.some.inj hc
    decide
  rw [hquote, List.cons_append] at hread ⊢
  have hother (c : Char) (hquotation : '"' ≠ c) (hapostrophe : '\'' ≠ c) : mark ≠ c := by
    rcases hmark with rfl | rfl
    · exact hquotation
    · exact hapostrophe
  rw [skipBlanks_cons (hother ' ' (by decide) (by decide)) (hother '\t' (by decide) (by decide)),
    readValue_cons (hother '[' (by decide) (by decide)) (hother '\x7b' (by decide) (by decide)),
    if_pos hmark, hread]
  rfl

theorem readsAs_word {word : List Char} {value : Toml} (hne : word ≠ [])
    (hword : word.all isWordChar) (h : word? word = some value) : ReadsAs word value := by
  intro rest
  obtain ⟨c, cs, rfl⟩ := List.exists_cons_of_ne_nil hne
  have hword := List.all_eq_true.mp hword
  have hc := hword c List.mem_cons_self
  have hend : isWordChar '\n' = false := by decide
  have hread : readWord (c :: cs ++ '\n' :: rest) = some (value, '\n' :: rest) := by
    rw [readWord, List.takeWhile_append_of_pos hword, List.dropWhile_append_of_pos hword,
      List.takeWhile_cons_of_neg (by simp [hend]), List.dropWhile_cons_of_neg (by simp [hend]),
      List.append_nil, h]
    rfl
  have hmark : ¬ (c = '"' ∨ c = '\'') := by
    rw [not_or]
    exact ⟨ne_of_eq_false hc (by decide), ne_of_eq_false hc (by decide)⟩
  rw [List.cons_append, skipBlanks_cons (ne_of_eq_false hc (by decide))
    (ne_of_eq_false hc (by decide)), readValue_cons (ne_of_eq_false hc (by decide))
      (ne_of_eq_false hc (by decide)), if_neg hmark]
  exact hread

theorem readsAs_boolean (b : Bool) : ReadsAs (toString b).toList (.boolean b) := by
  cases b with
  | true => exact readsAs_word (by decide) (by decide) (if_pos rfl)
  | false => exact readsAs_word (by decide) (by decide) ((if_neg (by decide)).trans (if_pos rfl))

theorem isGrouped_of_isDigit {cs : List Char} (hne : cs ≠ []) (hcs : ∀ c ∈ cs, c.isDigit) :
    isGrouped isDecimal cs := by
  have hdecimal {c : Char} (hc : c.isDigit) : isDecimal c := by
    rw [isDecimal, Text.digit?_eq, if_pos hc]
    rfl
  fun_induction isGrouped isDecimal cs with
  | case1 => exact absurd rfl hne
  | case2 c => exact hdecimal (hcs c List.mem_cons_self)
  | case3 c cs => exact absurd (hcs '_' (List.mem_cons_of_mem c List.mem_cons_self)) (by decide)
  | case4 c cs hcs' _ ih =>
    obtain ⟨hc, hcs⟩ := List.forall_mem_cons.mp hcs
    rw [hdecimal hc, Bool.true_and]
    exact ih (fun h => hcs' (by rw [h])) hcs

theorem eq_zero_of_head?_toDigits {n : Nat} (h : (Nat.toDigits 10 n).head? = some '0') : n = 0 := by
  induction n using Nat.strongRecOn with
  | _ n ih =>
    rw [Nat.toDigits_eq_if (by decide)] at h
    split at h
    · rename_i hlt
      have hzero : ∀ m : Fin 10, Nat.digitChar m = '0' → m = 0 := by decide
      exact congrArg Fin.val (hzero ⟨n, hlt⟩ (Option.some.inj h))
    · rw [List.head?_append_of_ne_nil _ Nat.toDigits_ne_nil] at h
      have hquotient := ih (n / 10) (by omega) h
      omega

theorem isWhole_toString (n : Nat) : isWhole (toString n).toList := by
  have hgrouped := isGrouped_of_isDigit (Text.toString_ne_nil n) (Text.isDigit_of_mem_toString n)
  rw [isWhole, hgrouped, Bool.true_and, Bool.or_eq_true, bne_iff_ne, beq_iff_eq]
  by_cases hn : n = 0
  · subst hn
    exact .inr rfl
  · refine .inl fun hhead => hn (eq_zero_of_head?_toDigits ?_)
    rwa [← Nat.toList_repr]

theorem integer?_of_isDigit {cs : List Char} {n : Int64} (hcs : ∀ c ∈ cs, c.isDigit)
    (hwhole : isWhole cs) (hread : Text.readInt64 cs = .ok n) : integer? cs = some n := by
  have hsign : splitSign cs = (false, cs) := by
    rw [splitSign.eq_def]
    split
    · exact absurd (hcs '-' List.mem_cons_self) (by decide)
    · exact absurd (hcs '+' List.mem_cons_self) (by decide)
    · rfl
  have hgroups : withoutGroups cs = cs := by
    rw [withoutGroups, List.filter_eq_self]
    intro c hc
    rw [bne_iff_ne]
    rintro rfl
    exact absurd (hcs '_' hc) (by decide)
  rw [integer?.eq_def]
  split
  · exact absurd (hcs 'x' (List.mem_cons_of_mem _ List.mem_cons_self)) (by decide)
  · exact absurd (hcs 'o' (List.mem_cons_of_mem _ List.mem_cons_self)) (by decide)
  · exact absurd (hcs 'b' (List.mem_cons_of_mem _ List.mem_cons_self)) (by decide)
  · rw [hsign, if_pos hwhole, hgroups, hread]
    rfl

theorem integer?_toString {n : Nat} (hn : n ≤ Text.maxInt64) :
    integer? (toString n).toList = some (.ofNat n) := by
  refine integer?_of_isDigit (Text.isDigit_of_mem_toString n) (isWhole_toString n) ?_
  rw [Text.readInt64_eq_ok, ← Text.int64Text_ofNat hn]
  exact Text.numeral_int64Text _

theorem readsAs_natural {n : Nat} (hn : n ≤ Text.maxInt64) :
    ReadsAs (toString n).toList (.integer (.ofNat n)) := by
  have hdigits := Text.isDigit_of_mem_toString n
  have hword : (toString n).toList.all isWordChar := by
    refine List.all_eq_true.mpr fun c hc => ?_
    simp [isWordChar, Char.isAlphanum, hdigits c hc]
  have hne {name : List Char} {c : Char} (hc : c ∈ name) (hletter : ¬ c.isDigit) :
      (toString n).toList ≠ name := by
    rintro rfl
    exact hletter (hdigits c hc)
  have htrue : (toString n).toList ≠ "true".toList := hne (c := 't') (by decide) (by decide)
  have hfalse : (toString n).toList ≠ "false".toList := hne (c := 'f') (by decide) (by decide)
  refine readsAs_word (Text.toString_ne_nil n) hword ?_
  rw [word?, if_neg htrue, if_neg hfalse, integer?_toString hn]

/-- A name that needs no marks around it. -/
def IsBare (name : Key) : Prop := name ≠ [] ∧ name.all isKeyChar

instance (name : Key) : Decidable (IsBare name) := inferInstanceAs (Decidable (_ ∧ _))

theorem IsBare.exists_eq_cons {name : Key} (h : IsBare name) :
    ∃ c cs, name = c :: cs ∧ isKeyChar c ∧ ∀ d ∈ c :: cs, isKeyChar d := by
  obtain ⟨hne, hchars⟩ := h
  obtain ⟨c, cs, rfl⟩ := List.exists_cons_of_ne_nil hne
  have hchars := List.all_eq_true.mp hchars
  exact ⟨c, cs, rfl, hchars c List.mem_cons_self, hchars⟩

theorem readKeyPath_bare {name : List Char} (hname : IsBare name) (rest : List Char)
    (hend : ∀ c ∈ rest.head?, isKeyChar c = false) (hdot : ∀ c ∈ (skipBlanks rest).head?, c ≠ '.') :
    readKeyPath (name ++ rest) = some ([name], skipBlanks rest) := by
  obtain ⟨c, cs, rfl, hc, hcs⟩ := hname.exists_eq_cons
  have hstart : skipBlanks (c :: cs ++ rest) = c :: cs ++ rest :=
    skipBlanks_cons (ne_of_eq_false hc (by decide)) (ne_of_eq_false hc (by decide))
  have hshort : readShort (c :: cs ++ rest) = none := by
    rw [readShort.eq_def]
    split
    · exact absurd (List.cons.inj ‹_›).1 (ne_of_eq_false hc (by decide))
    · exact absurd (List.cons.inj ‹_›).1 (ne_of_eq_false hc (by decide))
    · rfl
  have htake : rest.takeWhile isKeyChar = [] ∧ rest.dropWhile isKeyChar = rest := by
    cases rest with
    | nil => exact ⟨rfl, rfl⟩
    | cons d rest =>
      have hd := hend d rfl
      exact ⟨List.takeWhile_cons_of_neg (by simp [hd]), List.dropWhile_cons_of_neg (by simp [hd])⟩
  have hkey : readKey (c :: cs ++ rest) = some (c :: cs, rest) := by
    rw [readKey, hshort, List.takeWhile_append_of_pos hcs, List.dropWhile_append_of_pos hcs,
      htake.1, htake.2, List.append_nil]
    rfl
  have hpath : readPath (c :: cs ++ rest) = some ([c :: cs], skipBlanks rest) := by
    rw [readPath, hstart, hkey]
    dsimp only
    split
    · rename_i h
      exact absurd rfl (hdot '.' (by rw [h]; rfl))
    · rfl
  rw [readKeyPath, hpath]
  rfl

/-- A line is read, and then those after it. -/
theorem readLines_cons {c : Char} {start rest : List Char} {line : Line}
    (hspace : c ≠ ' ') (htab : c ≠ '\t') (hc : ¬ (c = '\n' ∨ c = '\x0d' ∨ c = '#'))
    (hline : readLine (c :: start) = some (line, '\n' :: rest))
    (hlt : rest.length < (c :: start).length) :
    readLines (c :: start) = (readLines rest).map (line :: ·) := by
  have hend : endLine ('\n' :: rest) = some rest := rfl
  rw [readLines, skipBlanks_cons hspace htab]
  dsimp only
  rw [if_neg hc, hline]
  dsimp only
  rw [hend, Option.bind_some, Text.shorten_of_lt hlt]

theorem readLines_newline (rest : List Char) : readLines ('\n' :: rest) = readLines rest := by
  have hend : endLine ('\n' :: rest) = some rest := rfl
  rw [readLines, skipBlanks_cons (by decide) (by decide)]
  dsimp only
  rw [if_pos (.inl rfl), hend, Option.bind_some, Text.shorten_of_lt (Nat.lt_succ_self _)]

theorem readLine_entry {name text : List Char} {value : Toml} (hname : IsBare name)
    (hvalue : ReadsAs text value) (rest : List Char) :
    readLine (name ++ ' ' :: '=' :: ' ' :: (text ++ '\n' :: rest)) = some
      (.entry [name] value, '\n' :: rest) := by
  have hkey := readKeyPath_bare hname (' ' :: '=' :: ' ' :: (text ++ '\n' :: rest))
    (fun c hc => Option.some.inj hc ▸ by decide) (fun c hc => Option.some.inj hc ▸ by decide)
  obtain ⟨c, cs, rfl, hc, -⟩ := hname.exists_eq_cons
  rw [readLine.eq_def]
  split
  · exact absurd (List.cons.inj ‹_›).1 (ne_of_eq_false hc (by decide))
  · exact absurd (List.cons.inj ‹_›).1 (ne_of_eq_false hc (by decide))
  · rw [hkey]
    change (readValue maxDepth (skipBlanks (text ++ '\n' :: rest))).map _ = _
    rw [hvalue rest]
    rfl

theorem readLine_header {name : List Char} (hname : IsBare name) (rest : List Char) :
    readLine ('[' :: (name ++ ']' :: rest)) = some (.header [name], rest) := by
  have hkey := readKeyPath_bare hname (']' :: rest)
    (fun c hc => Option.some.inj hc ▸ by decide) (fun c hc => Option.some.inj hc ▸ by decide)
  obtain ⟨c, cs, rfl, hc, -⟩ := hname.exists_eq_cons
  rw [readLine.eq_def]
  split
  · exact absurd (List.cons.inj (List.cons.inj ‹_›).2).1 (ne_of_eq_false hc (by decide))
  · rename_i h
    rw [← (List.cons.inj h).2, hkey]
    rfl
  · rename_i h
    exact (h _ rfl).elim

/-- Entries with names that are not dotted, a line each. -/
def linesOf (entries : List (Key × Toml)) : List Line := entries.map fun e => .entry [e.1] e.2

theorem linesOf_append (entries entries' : List (Key × Toml)) :
    linesOf (entries ++ entries') = linesOf entries ++ linesOf entries' :=
  List.map_append

/-- The text is read as the entries, whatever lines follow. -/
def Writes (text : List Char) (entries : List (Key × Toml)) : Prop :=
  ∀ rest, readLines (text ++ rest) = (readLines rest).map (linesOf entries ++ ·)

theorem writes_nil : Writes [] [] := fun rest => by
  rw [List.nil_append]
  exact Option.map_id.symm ▸ rfl

theorem Writes.append {text text' : List Char} {entries entries' : List (Key × Toml)}
    (h : Writes text entries) (h' : Writes text' entries') :
    Writes (text ++ text') (entries ++ entries') := fun rest => by
  rw [List.append_assoc, h, h', Option.map_map]
  congr 1
  funext lines
  rw [linesOf_append, List.append_assoc]
  rfl

theorem writes_entryLine (name : String) {text : List Char} {value : Toml}
    (hname : IsBare name.toList) (hvalue : ReadsAs text value) :
    Writes (Settings.entryLine name text) [(name.toList, value)] := fun rest => by
  have hline := readLine_entry hname hvalue rest
  have htext : Settings.entryLine name text ++ rest = name.toList ++ ' ' :: '=' :: ' ' ::
      (text ++ '\n' :: rest) := by
    simp [Settings.entryLine]
  rw [htext]
  obtain ⟨c, cs, hcons, hc, -⟩ := hname.exists_eq_cons
  rw [hcons, List.cons_append] at hline ⊢
  refine readLines_cons (ne_of_eq_false hc (by decide)) (ne_of_eq_false hc (by decide)) ?_ hline
    (by simp; omega)
  rw [not_or, not_or]
  exact ⟨ne_of_eq_false hc (by decide), ne_of_eq_false hc (by decide),
    ne_of_eq_false hc (by decide)⟩

theorem readLines_header {name : List Char} (hname : IsBare name) (rest : List Char) :
    readLines ('[' :: (name ++ ']' :: '\n' :: rest)) = (readLines rest).map (.header [name] :: ·) :=
  readLines_cons (by decide) (by decide) (by decide) (readLine_header hname _) (by simp; omega)

theorem readLines_table {front back : List Char} {entries inner : List (Key × Toml)}
    {name : List Char} (hfront : Writes front entries) (hname : IsBare name)
    (hback : Writes back inner) :
    readLines (front ++ '\n' :: '[' :: (name ++ ']' :: '\n' :: back)) = some
      (linesOf entries ++ .header [name] :: linesOf inner) := by
  have hinner := hback []
  have hnil : readLines [] = some [] := by rw [readLines]; rfl
  rw [List.append_nil, hnil, Option.map_some, List.append_nil] at hinner
  rw [hfront, readLines_newline, readLines_header hname, hinner]
  rfl

/-- To change the table at the path is to change the tree in one place. -/
def LeadsTo (path : Path) (tree : Toml → Toml) : Prop :=
  ∀ (change : Toml → Option Toml) (entries : List (Key × Toml)),
    within false change path (tree (.table .header entries)) =
      (change (.table .header entries)).map tree

theorem leadsTo_nil : LeadsTo [] id := fun _ _ => Option.map_id.symm ▸ rfl

theorem replace_last {name : Key} {old new : Toml} {entries : List (Key × Toml)}
    (h : entries.lookup name = none) :
    replace name new (entries ++ [(name, old)]) = entries ++ [(name, new)] := by
  induction entries with
  | nil => exact if_pos rfl
  | cons e entries ih =>
    obtain ⟨key, value⟩ := e
    obtain ⟨hkey, hrest⟩ : name ≠ key ∧ entries.lookup name = none := by
      rw [List.lookup_cons] at h
      split at h
      · cases h
      · exact ⟨by simpa using ‹(name == key) = false›, h⟩
    rw [List.cons_append, replace, if_neg hkey.symm, ih hrest]
    rfl

theorem leadsTo_last {name : Key} {entries : List (Key × Toml)} (h : entries.lookup name = none) :
    LeadsTo [name] fun t => .table .header (entries ++ [(name, t)]) := by
  intro change inner
  have hlookup : (entries ++ [(name, Toml.table .header inner)]).lookup name = some
      (.table .header inner) := by
    rw [List.lookup_append, h]
    simp
  rw [within, hlookup]
  change (change (.table .header inner)).map _ = _
  congr 1
  funext t
  rw [replace_last h]

/-- An entry goes into the table that the path leads to, if there is none of its name. -/
theorem apply_entry {path : Path} {tree : Toml → Toml} {entries : List (Key × Toml)}
    {name : Key} {value : Toml} (hpath : LeadsTo path tree) (hfresh : entries.lookup name = none) :
    Draft.apply ⟨tree (.table .header entries), path⟩ (.entry [name] value) =
      some ⟨tree (.table .header (entries ++ [(name, value)])), path⟩ := by
  have henter : enter [name] value (.table .header entries) = some
      (.table .header (entries ++ [(name, value)])) := by
    change addEntry false name value (.table .header entries) = _
    rw [addEntry, if_neg (by decide), hfresh]
    rfl
  rw [Draft.apply, hpath, henter]
  rfl

theorem lookup_eq_none_of_nodup {before after : List (Key × Toml)} {name : Key} {value : Toml}
    (h : ((before ++ (name, value) :: after).map Prod.fst).Nodup) : before.lookup name = none := by
  rw [List.lookup_eq_none_iff]
  intro e he
  rw [List.map_append, List.nodup_append] at h
  have hne := h.2.2 e.1 (List.mem_map_of_mem he) name (List.mem_cons_self ..)
  simpa using hne.symm

theorem foldlM_apply_linesOf {path : Path} {tree : Toml → Toml} (hpath : LeadsTo path tree)
    {before entries : List (Key × Toml)} (hnames : ((before ++ entries).map Prod.fst).Nodup) :
    (linesOf entries).foldlM Draft.apply ⟨tree (.table .header before), path⟩ =
      some ⟨tree (.table .header (before ++ entries)), path⟩ := by
  induction entries generalizing before with
  | nil =>
    rw [List.append_nil]
    rfl
  | cons e entries ih =>
    obtain ⟨name, value⟩ := e
    have hfresh := lookup_eq_none_of_nodup hnames
    rw [List.append_cons] at hnames ⊢
    rw [linesOf, List.map_cons, List.foldlM_cons, apply_entry hpath hfresh]
    exact ih hnames

theorem build_entries_header {entries inner : List (Key × Toml)} {name : Key}
    (hnames : (entries.map Prod.fst ++ [name]).Nodup) (hinner : (inner.map Prod.fst).Nodup) :
    build (linesOf entries ++ .header [name] :: linesOf inner) =
      some (.table .header (entries ++ [(name, .table .header inner)])) := by
  have hfresh : entries.lookup name = none := by
    have hlast : ((entries ++ [(name, Toml.table .header inner)]).map Prod.fst).Nodup := by
      rwa [List.map_append]
    exact lookup_eq_none_of_nodup hlast
  have hentries : (linesOf entries).foldlM Draft.apply ⟨.table .header [], []⟩ = some
      ⟨.table .header entries, []⟩ :=
    foldlM_apply_linesOf leadsTo_nil (List.nodup_append.mp hnames).1
  have hheader : Draft.apply ⟨.table .header entries, []⟩ (.header [name]) =
      some ⟨.table .header (entries ++ [(name, .table .header [])]), [name]⟩ := by
    change (openTable name (.table .header entries)).bind _ = _
    rw [openTable, hfresh]
    rfl
  have hlast : (linesOf inner).foldlM Draft.apply
    ⟨.table .header (entries ++ [(name, .table .header [])]), [name]⟩ =
      some ⟨.table .header (entries ++ [(name, .table .header inner)]), [name]⟩ :=
    foldlM_apply_linesOf (leadsTo_last hfresh) hinner
  rw [build, List.foldlM_append, hentries, Option.bind_eq_bind, Option.bind_some, List.foldlM_cons,
    hheader, Option.bind_eq_bind, Option.bind_some, hlast]
  rfl

end RemoteServices.Toml
