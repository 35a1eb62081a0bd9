import RemoteServices.Toml.Printer
import RemoteServices.Toml.Quoted
import Mathlib.Tactic.SplitIfs

/-!
# Strings of TOML are read as they are written

A string is written in one of four forms, and each of them spells it a character at a time:
`Toml.Spelled`.  What is spelled between marks is read back, so every string is, whichever form it
is written in: `Toml.readString_quote`.
-/
namespace RemoteServices.Toml

/-- A character other than the mark, as it stands between apostrophes. -/
inductive Shows (lines : Bool) : Char → List Char → Prop
  | plain {c : Char} (hmark : c ≠ '\'') (hc : isPlain c ∨ lines ∧ c = '\n') : Shows lines c [c]

/-- A character as it stands between quotation marks, where a quotation mark may be escaped as
well. -/
inductive Escapes (lines : Bool) : Char → List Char → Prop
  | plain {c : Char} (hquote : c ≠ '"') (hbackslash : c ≠ '\\')
    (hc : isPlain c ∨ lines ∧ c = '\n') :
    Escapes lines c [c]
  | escape {c : Char} {code : List Char} (h : ∀ rest, unescape (code ++ rest) = some (c, rest)) :
    Escapes lines c ('\\' :: code)

/-- The text spells a string after `n` marks, of which no more than `free` stand in a row as they
are. -/
inductive Spelled (mark : Char) (free : Nat) (Spells : Char → List Char → Prop) :
    Nat → List Char → List Char → Prop
  | nil {n : Nat} : Spelled mark free Spells n [] []
  | mark {n : Nat} {s text : List Char} (hn : n < free)
    (h : Spelled mark free Spells (n + 1) s text) :
    Spelled mark free Spells n (mark :: s) (mark :: text)
  | char {n : Nat} {c : Char} {s spelling text : List Char} (hc : Spells c spelling)
    (h : Spelled mark free Spells 0 s text) :
    Spelled mark free Spells n (c :: s) (spelling ++ text)

/-- A spelling does not start with the mark, and starts with no line end unless it is one. -/
def Leads (mark : Char) (Spells : Char → List Char → Prop) : Prop :=
  ∀ c spelling, Spells c spelling → ∃ d ds, spelling = d :: ds ∧ d ≠ mark ∧
    (c ≠ '\n' → d ≠ '\n' ∧ d ≠ '\x0d')

theorem ne_return {c : Char} (h : isPlain c ∨ c = '\n') : c ≠ '\x0d' := by
  rintro rfl
  revert h
  decide

theorem leads_shows (lines : Bool) : Leads '\'' (Shows lines) := by
  rintro c _ ⟨hmark, hc⟩
  exact ⟨c, [], rfl, hmark, fun hline => ⟨hline, ne_return (hc.imp_right And.right)⟩⟩

theorem leads_escapes (lines : Bool) : Leads '"' (Escapes lines) := by
  intro c spelling h
  cases h with
  | plain hquote _ hc =>
    exact ⟨c, [], rfl, hquote, fun hline => ⟨hline, ne_return (hc.imp_right And.right)⟩⟩
  | escape => exact ⟨'\\', _, rfl, by decide, fun _ => by decide⟩

/-- A text is nothing but marks, or has few of them before something else comes, whatever follows
the text. -/
theorem Spelled.marks_or_few {mark : Char} {free n : Nat} {Spells : Char → List Char → Prop}
    {s text : List Char} (hleads : Leads mark Spells) (h : Spelled mark free Spells n s text)
    (hn : n ≤ free) (rest : List Char) :
    (∃ k, n + k ≤ free ∧ s = List.replicate k mark ∧ text = List.replicate k mark) ∨
      n + ((text ++ rest).takeWhile (· == mark)).length ≤ free := by
  induction h with
  | nil => exact .inl ⟨0, hn, rfl, rfl⟩
  | mark hlt _ ih =>
    rcases ih hlt with ⟨k, hk, rfl, rfl⟩ | hfew
    · exact .inl ⟨k + 1, by omega, rfl, rfl⟩
    · rw [List.cons_append, List.takeWhile_cons_of_pos (by simp), List.length_cons]
      exact .inr (by omega)
  | char hc _ ih =>
    obtain ⟨d, ds, rfl, hd, -⟩ := hleads _ _ hc
    rw [List.cons_append, List.cons_append, List.takeWhile_cons_of_neg (by simpa using hd)]
    exact .inr hn

theorem Spelled.head {mark : Char} {free n : Nat} {Spells : Char → List Char → Prop}
    {s text : List Char} (hleads : Leads mark Spells) (hmark : mark ≠ '\n' ∧ mark ≠ '\x0d')
    (h : Spelled mark free Spells n s text) (hs : '\n' ∉ s) (rest : List Char) :
    ∀ c ∈ (text ++ mark :: rest).head?, c ≠ '\n' ∧ c ≠ '\x0d' := by
  intro e he
  cases h with
  | nil =>
    obtain rfl := Option.some.inj he
    exact hmark
  | mark =>
    obtain rfl := Option.some.inj he
    exact hmark
  | char hc =>
    obtain ⟨d, ds, rfl, -, hd⟩ := hleads _ _ hc
    obtain rfl := Option.some.inj he
    exact hd (List.ne_and_not_mem_of_not_mem_cons hs).1.symm

theorem isPlain_iff {c : Char} : isPlain c ↔ ¬ isHidden c ∧ c ≠ '\n' := by
  by_cases htab : c = '\t'
  · subst htab
    decide
  · by_cases hnewline : c = '\n'
    · subst hnewline
      decide
    · simp [isPlain, isHidden, htab, hnewline]

theorem le_longestRun (mark : Char) (n most : Nat) (s : List Char) :
    most ≤ longestRun mark n most s := by
  induction s generalizing n most with
  | nil => exact Nat.le_refl _
  | cons c s ih =>
    rw [longestRun]
    split
    · exact Nat.le_trans (Nat.le_max_left _ _) (ih _ _)
    · exact ih _ _

theorem spelled_self {lines : Bool} {free n most : Nat} {s : List Char}
    (hhidden : ∀ c ∈ s, ¬ isHidden c) (hlines : lines = false → '\n' ∉ s)
    (hrun : longestRun '\'' n most s ≤ free) :
    Spelled '\'' free (Shows lines) n s s := by
  induction s generalizing n most with
  | nil => exact .nil
  | cons c s ih =>
    obtain ⟨hc, hs⟩ := List.forall_mem_cons.mp hhidden
    have hlines' : lines = false → '\n' ∉ s :=
      fun h => (List.ne_and_not_mem_of_not_mem_cons (hlines h)).2
    rw [longestRun] at hrun
    split at hrun
    · rename_i hmark
      subst hmark
      -- The marks in a row up to here are no more than the longest row, which is within the limit.
      have hlt := Nat.le_trans (Nat.le_trans (Nat.le_max_right _ _) (le_longestRun _ _ _ _)) hrun
      exact .mark hlt (ih hs hlines' hrun)
    · rename_i hmark
      refine .char (.plain hmark ?_) (ih hs hlines' hrun)
      by_cases hnewline : c = '\n'
      · refine .inr ⟨Bool.of_not_eq_false fun hfalse => ?_, hnewline⟩
        exact hlines hfalse (hnewline ▸ List.mem_cons_self)
      · exact .inl (isPlain_iff.mpr ⟨hc, hnewline⟩)

theorem unescape_escapeHidden {c : Char} (h : isHidden c ∨ c = '\t' ∨ c = '\n') :
    ∃ code, escapeHidden c = '\\' :: code ∧ ∀ rest, unescape (code ++ rest) = some (c, rest) := by
  rw [escapeHidden]
  split_ifs with hbackspace htab hnewline hfeed hreturn
  · exact ⟨['b'], rfl, fun _ => by rw [hbackspace]; rfl⟩
  · exact ⟨['t'], rfl, fun _ => by rw [htab]; rfl⟩
  · exact ⟨['n'], rfl, fun _ => by rw [hnewline]; rfl⟩
  · exact ⟨['f'], rfl, fun _ => by rw [hfeed]; rfl⟩
  · exact ⟨['r'], rfl, fun _ => by rw [hreturn]; rfl⟩
  · refine ⟨_, rfl, fun rest => ?_⟩
    have hlow : c.toNat < 0x80 := by
      simp [isHidden, htab, hnewline] at h
      omega
    have hcode : Text.hexValue? ['0', '0', Text.upperHex (c.toNat / 16),
        Text.upperHex (c.toNat % 16)] = some c.toNat := by
      have hzero : Text.hexDigit? '0' = some 0 := by decide
      simp [Text.hexValue?, hzero, Text.hexDigit?_upperHex (by omega : c.toNat / 16 < 16),
        Text.hexDigit?_upperHex (by omega : c.toNat % 16 < 16)]
      omega
    have hvalid : c.toNat.isValidChar := c.valid
    simp [unescape, readCode, hcode, hvalid]

theorem spelled_escape (lines : Bool) (free n : Nat) (s : List Char) :
    Spelled '"' free (Escapes lines) n s (escape lines free n s) := by
  induction s generalizing n with
  | nil => exact .nil
  | cons c s ih =>
    rw [escape]
    split_ifs with hquote hn hbackslash hline hhidden
    · subst hquote
      exact .mark hn (ih _)
    · subst hquote
      have hread (rest : List Char) : unescape (['"'] ++ rest) = some ('"', rest) := rfl
      have hspelled := Spelled.char (n := n) (.escape hread) (ih 0)
      exact hspelled
    · subst hbackslash
      have hread (rest : List Char) : unescape (['\\'] ++ rest) = some ('\\', rest) := rfl
      have hspelled := Spelled.char (n := n) (.escape hread) (ih 0)
      exact hspelled
    · exact .char (.plain hquote hbackslash (.inr hline.symm)) (ih 0)
    · obtain ⟨code, hcode, hread⟩ := unescape_escapeHidden hhidden
      rw [hcode]
      exact .char (.escape hread) (ih 0)
    · refine .char (.plain hquote hbackslash (.inl (isPlain_iff.mpr ⟨?_, ?_⟩))) (ih 0)
      · exact fun h => hhidden (.inl h)
      · exact fun h => hhidden (.inr (.inr h))

/-- What reads a spelling at a time, up to a mark, reads what is spelled without marks. -/
theorem Spelled.read_line {mark : Char} {n : Nat} {Spells : Char → List Char → Prop}
    {s text : List Char} {read : List Char → Option (List Char × List Char)}
    (hend : ∀ cs, read (mark :: cs) = some ([], cs))
    (hchar : ∀ c spelling cs, Spells c spelling →
      read (spelling ++ cs) = (read cs).map fun (s, rest) => (c :: s, rest))
    (h : Spelled mark 0 Spells n s text) (rest : List Char) :
    read (text ++ mark :: rest) = some (s, rest) := by
  induction h with
  | nil => exact hend rest
  | mark hn => exact absurd hn (Nat.not_lt_zero _)
  | char hc _ ih =>
    rw [List.append_assoc, hchar _ _ _ hc, ih]
    rfl

theorem readBasic_char {c : Char} {spelling : List Char} (cs : List Char)
    (h : Escapes false c spelling) :
    readBasic (spelling ++ cs) = (readBasic cs).map fun (s, rest) => (c :: s, rest) := by
  cases h with
  | plain hquote hbackslash hc =>
    rw [List.singleton_append, readBasic.eq_def]
    split <;> simp_all
  | escape hread =>
    rw [List.cons_append, readBasic]
    split
    · rename_i hcode
      obtain ⟨rfl, rfl⟩ := Prod.mk.inj (Option.some.inj (hcode.symm.trans (hread cs)))
      rfl
    · rename_i hcode
      cases hcode.symm.trans (hread cs)

theorem readLiteral_char {c : Char} {spelling : List Char} (cs : List Char)
    (h : Shows false c spelling) :
    readLiteral (spelling ++ cs) = (readLiteral cs).map fun (s, rest) => (c :: s, rest) := by
  obtain ⟨hmark, hc⟩ := h
  rw [List.singleton_append, readLiteral, if_pos (by simpa using hc)]
  exact hmark

theorem closing_eq_none {mark : Char} {cs : List Char} (h : (cs.takeWhile (· == mark)).length ≤ 2) :
    closing mark cs = none := by
  have hle : ((cs.take 5).takeWhile (· == mark)).length ≤ (cs.takeWhile (· == mark)).length := by
    conv =>
      rhs
      rw [← List.take_append_drop 5 cs, List.takeWhile_append]
    split
    · rename_i hall
      rw [hall, List.length_append]
      omega
    · exact Nat.le_refl _
  rw [closing, if_neg (by omega)]

theorem closing_marks {mark : Char} {k : Nat} (hk : k ≤ 2) {rest : List Char}
    (hrest : ∀ c ∈ rest.head?, c ≠ mark) :
    closing mark (List.replicate k mark ++ mark :: mark :: mark :: rest) = some
      (List.replicate k mark, rest) := by
  have hend : (rest.take 2).takeWhile (· == mark) = [] ∧
      (rest.take 1).takeWhile (· == mark) = [] := by
    cases rest with
    | nil => exact ⟨rfl, rfl⟩
    | cons c rest =>
      have hc : ¬ (c == mark) := by simpa using hrest c rfl
      exact ⟨List.takeWhile_cons_of_neg hc, List.takeWhile_cons_of_neg hc⟩
  obtain rfl | rfl | rfl : k = 0 ∨ k = 1 ∨ k = 2 := by omega
  all_goals simp [closing, List.replicate, hend]

theorem Spelled.read_lines {mark : Char} {n : Nat} {Spells : Char → List Char → Prop}
    {s text rest : List Char} {read : List Char → Option (List Char × List Char)}
    (hleads : Leads mark Spells) (hclose : ∀ cs p, closing mark cs = some p → read cs = some p)
    (hmark : ∀ cs, closing mark (mark :: cs) = none →
      read (mark :: cs) = (read cs).map fun (s, rest) => (mark :: s, rest))
    (hchar : ∀ c spelling cs, Spells c spelling → closing mark (spelling ++ cs) = none →
      read (spelling ++ cs) = (read cs).map fun (s, rest) => (c :: s, rest))
    (h : Spelled mark 2 Spells n s text) (hn : n ≤ 2) (hrest : ∀ c ∈ rest.head?, c ≠ mark) :
    read (text ++ mark :: mark :: mark :: rest) = some (s, rest) := by
  induction h with
  | nil => exact hclose _ _ (closing_marks (Nat.zero_le 2) hrest)
  | @mark n s text hlt h ih =>
    -- Marks at the end of the text are read together with the closing ones; anywhere else they are
    -- too few to close.
    rcases (Spelled.mark hlt h).marks_or_few hleads hn (mark :: mark :: mark :: rest) with
      ⟨k, hk, hs, htext⟩ | hfew
    · rw [hs, htext]
      exact hclose _ _ (closing_marks (by omega) hrest)
    · have hclosing := closing_eq_none (Nat.le_trans (Nat.le_add_left _ _) hfew)
      rw [List.cons_append] at hclosing ⊢
      rw [hmark _ hclosing, ih hlt]
      rfl
  | @char n c s spelling text hc h ih =>
    obtain ⟨d, ds, rfl, hd, -⟩ := hleads _ _ hc
    have hclosing : closing mark (d :: ds ++ (text ++ mark :: mark :: mark :: rest)) = none := by
      refine closing_eq_none ?_
      rw [List.cons_append, List.takeWhile_cons_of_neg (by simpa using hd)]
      exact Nat.zero_le 2
    rw [List.append_assoc, hchar _ _ _ hc hclosing, ih (Nat.zero_le 2)]
    rfl

theorem readLongBasic_plain {c : Char} {cs : List Char} (hclosing : closing '"' (c :: cs) = none)
    (hbackslash : c ≠ '\\') (hc : isPlain c ∨ c = '\n') :
    readLongBasic (c :: cs) = (readLongBasic cs).map fun (s, rest) => (c :: s, rest) := by
  rw [readLongBasic.eq_def, hclosing]
  dsimp only
  split
  case h_1 heq => cases heq
  case h_2 heq => exact absurd (List.cons.inj heq).1 (ne_return hc)
  case h_3 heq => exact absurd (List.cons.inj heq).1 hbackslash
  case h_4 heq =>
    obtain ⟨rfl, rfl⟩ := List.cons.inj heq
    rw [if_pos hc]

theorem readLongLiteral_plain {c : Char} {cs : List Char} (hclosing : closing '\'' (c :: cs) = none)
    (hc : isPlain c ∨ c = '\n') :
    readLongLiteral (c :: cs) = (readLongLiteral cs).map fun (s, rest) => (c :: s, rest) := by
  rw [readLongLiteral.eq_def, hclosing]
  dsimp only
  split
  case h_1 heq => cases heq
  case h_2 heq => exact absurd (List.cons.inj heq).1 (ne_return hc)
  case h_3 heq =>
    obtain ⟨rfl, rfl⟩ := List.cons.inj heq
    rw [if_pos hc]

theorem afterLineEnd_of_unescape {c : Char} {cs rest : List Char}
    (h : unescape cs = some (c, rest)) :
    afterLineEnd (skipBlanks cs) = none := by
  rw [unescape.eq_def] at h
  split at h <;> first | rfl | cases h

theorem readLongBasic_escape {c : Char} {cs rest : List Char}
    (hclosing : closing '"' ('\\' :: cs) = none) (h : unescape cs = some (c, rest)) :
    readLongBasic ('\\' :: cs) = (readLongBasic rest).map fun (s, rest) => (c :: s, rest) := by
  rw [readLongBasic.eq_def, hclosing]
  dsimp only
  split
  case h_1 heq => cases heq
  case h_2 heq => exact absurd (List.cons.inj heq).1 (by decide)
  case h_3 heq =>
    obtain ⟨-, rfl⟩ := List.cons.inj heq
    rw [afterLineEnd_of_unescape h]
    dsimp only
    split
    · rename_i hread
      obtain ⟨rfl, rfl⟩ := Prod.mk.inj (Option.some.inj (hread.symm.trans h))
      rfl
    · rename_i hread
      cases hread.symm.trans h
  case h_4 hbackslash heq => exact absurd (List.cons.inj heq).1.symm hbackslash

theorem readLongBasic_spelled {s text rest : List Char} (h : Spelled '"' 2 (Escapes true) 0 s text)
    (hrest : ∀ c ∈ rest.head?, c ≠ '"') :
    readLongBasic (text ++ '"' :: '"' :: '"' :: rest) = some (s, rest) := by
  refine h.read_lines (leads_escapes true) (fun cs p hclosing => ?_) (fun cs hclosing => ?_)
    (fun c spelling cs hc hclosing => ?_)
    (Nat.zero_le 2) hrest
  · rw [readLongBasic.eq_def, hclosing]
  · exact readLongBasic_plain hclosing (by decide) (by decide)
  · cases hc with
    | plain hquote hbackslash hc =>
      exact readLongBasic_plain hclosing hbackslash (by simpa using hc)
    | escape hread => exact readLongBasic_escape hclosing (hread cs)

theorem readLongLiteral_spelled {s text rest : List Char} (h : Spelled '\'' 2 (Shows true) 0 s text)
    (hrest : ∀ c ∈ rest.head?, c ≠ '\'') :
    readLongLiteral (text ++ '\'' :: '\'' :: '\'' :: rest) = some (s, rest) := by
  refine h.read_lines (leads_shows true) (fun cs p hclosing => ?_) (fun cs hclosing => ?_)
    (fun c spelling cs hc hclosing => ?_)
    (Nat.zero_le 2) hrest
  · rw [readLongLiteral.eq_def, hclosing]
  · exact readLongLiteral_plain hclosing (by decide)
  · obtain ⟨hmark, hc⟩ := hc
    exact readLongLiteral_plain hclosing (by simpa using hc)

theorem readString_short {mark : Char} {cs : List Char} (h : ∀ rest, cs ≠ mark :: mark :: rest) :
    readString (mark :: cs) = readShort (mark :: cs) := by
  rw [readString.eq_def]
  split
  · rename_i rest heq
    obtain ⟨rfl, rfl⟩ := List.cons.inj heq
    exact absurd rfl (h rest)
  · rename_i rest heq
    obtain ⟨rfl, rfl⟩ := List.cons.inj heq
    exact absurd rfl (h rest)
  · rfl

theorem Spelled.ne_marks {mark : Char} {Spells : Char → List Char → Prop} {s text rest : List Char}
    (hleads : Leads mark Spells) (h : Spelled mark 0 Spells 0 s text)
    (hrest : ∀ c ∈ rest.head?, c ≠ mark) (rest' : List Char) :
    text ++ mark :: rest ≠ mark :: mark :: rest' := by
  intro heq
  cases h with
  | nil => exact hrest mark (by rw [(List.cons.inj heq).2]; rfl) rfl
  | mark hlt => exact absurd hlt (Nat.not_lt_zero _)
  | char hc =>
    obtain ⟨d, ds, rfl, hd, -⟩ := hleads _ _ hc
    exact hd (List.cons.inj heq).1

theorem afterLineEnd_opening {s text : List Char}
    (h : '\n' ∉ s → ∀ c ∈ text.head?, c ≠ '\n' ∧ c ≠ '\x0d') :
    (afterLineEnd (opening s ++ text)).getD (opening s ++ text) = text := by
  rw [opening]
  split
  · rfl
  · rename_i hlines
    have hhead := h (by simpa using hlines)
    have hnone : afterLineEnd text = none := by
      rw [afterLineEnd.eq_def]
      split
      · exact absurd rfl (hhead _ rfl).1
      · exact absurd rfl (hhead _ rfl).2
      · rfl
    rw [List.nil_append, hnone]
    rfl

variable {s rest : List Char}

theorem readString_quoteBasic (s : List Char) (hrest : ∀ c ∈ rest.head?, c ≠ '"') :
    readString (quoteBasic s ++ rest) = some (s, rest) := by
  have hspelled := spelled_escape false 0 0 s
  rw [quoteBasic, List.cons_append, List.append_assoc, List.singleton_append,
    readString_short (hspelled.ne_marks (leads_escapes false) hrest), readShort]
  exact hspelled.read_line (fun _ => readBasic.eq_2 _) (fun _ _ cs => readBasic_char cs) rest

theorem readString_quoteLiteral (h : Spelled '\'' 0 (Shows false) 0 s s)
    (hrest : ∀ c ∈ rest.head?, c ≠ '\'') :
    readString (quoteLiteral s ++ rest) = some (s, rest) := by
  rw [quoteLiteral, List.cons_append, List.append_assoc, List.singleton_append,
    readString_short (h.ne_marks (leads_shows false) hrest), readShort]
  exact h.read_line (fun _ => rfl) (fun _ _ cs => readLiteral_char cs) rest

theorem readString_quoteLongBasic (s : List Char) (hrest : ∀ c ∈ rest.head?, c ≠ '"') :
    readString (quoteLongBasic s ++ rest) = some (s, rest) := by
  have hspelled := spelled_escape true 2 0 s
  have htext : quoteLongBasic s ++ rest =
      '"' :: '"' :: '"' :: (opening s ++ (escape true 2 0 s ++ '"' :: '"' :: '"' :: rest)) := by
      simp [quoteLongBasic]
  rw [htext, readString, afterLineEnd_opening fun hs =>
    hspelled.head (leads_escapes true) (by decide) hs _]
  exact readLongBasic_spelled hspelled hrest

theorem readString_quoteLongLiteral (h : Spelled '\'' 2 (Shows true) 0 s s)
    (hrest : ∀ c ∈ rest.head?, c ≠ '\'') :
    readString (quoteLongLiteral s ++ rest) = some (s, rest) := by
  have htext : quoteLongLiteral s ++ rest =
      '\'' :: '\'' :: '\'' :: (opening s ++ (s ++ '\'' :: '\'' :: '\'' :: rest)) := by
      simp [quoteLongLiteral]
  rw [htext, readString, afterLineEnd_opening fun hs => h.head (leads_shows true) (by decide) hs _]
  exact readLongLiteral_spelled h hrest

theorem spelled_of_formOf (s : List Char) :
    (formOf s = .literal → Spelled '\'' 0 (Shows false) 0 s s) ∧
    (formOf s = .longLiteral → Spelled '\'' 2 (Shows true) 0 s s) := by
  simp only [formOf]
  split_ifs with hbasic hliteral hlongBasic hlongLiteral hlines
  all_goals refine ⟨fun h => ?_, fun h => ?_⟩
  all_goals try cases h
  · obtain ⟨⟨hhidden, hrun⟩, hline⟩ : ((∀ c ∈ s, ¬ isHidden c) ∧ runOf '\'' s = 0) ∧ '\n' ∉ s := by
      simpa using hliteral
    exact spelled_self hhidden (fun _ => hline) (Nat.le_of_eq hrun)
  · obtain ⟨hhidden, hrun⟩ : (∀ c ∈ s, ¬ isHidden c) ∧ runOf '\'' s ≤ 2 := by
      simpa using hlongLiteral
    exact spelled_self hhidden (fun h => nomatch h) hrun

/-- Every string is read as it is written, as long as no mark follows it. -/
theorem readString_quote (s : List Char) (hrest : ∀ c ∈ rest.head?, c ≠ '"' ∧ c ≠ '\'') :
    readString (quote s ++ rest) = some (s, rest) := by
  have hquote : ∀ c ∈ rest.head?, c ≠ '"' := fun c hc => (hrest c hc).1
  have hapostrophe : ∀ c ∈ rest.head?, c ≠ '\'' := fun c hc => (hrest c hc).2
  obtain ⟨hliteral, hlongLiteral⟩ := spelled_of_formOf s
  rw [quote]
  cases hform : formOf s with
  | basic => exact readString_quoteBasic s hquote
  | literal => exact readString_quoteLiteral (hliteral hform) hapostrophe
  | longBasic => exact readString_quoteLongBasic s hquote
  | longLiteral => exact readString_quoteLongLiteral (hlongLiteral hform) hapostrophe

end RemoteServices.Toml
