import RemoteServices.Json.Decode
import RemoteServices.Json.Printer
import Mathlib.Tactic.SplitIfs

/-!
# Property maps are read as they are written

A property map that is written as JSON, on one line or indented, is read back:
`Properties.parseJson_compact` and `Properties.parseJson_pretty`.  Strings come first, then fields,
then the table that they make.
-/
namespace RemoteServices.Json

theorem escapeChar_cases (c : Char) :
    (∃ d, escapeChar c = ['\\', d] ∧ shortEscape? d = some c) ∨
    (c.toNat < 0x20 ∧
      escapeChar c = ['\\', 'u', '0', '0', Text.lowerHex (c.toNat / 16),
        Text.lowerHex (c.toNat % 16)]) ∨
    (c ≠ '"' ∧ c ≠ '\\' ∧ ¬ c.toNat < 0x20 ∧ escapeChar c = [c]) := by
  rw [escapeChar]
  split_ifs with hquote hbackslash hnewline hreturn htab hbackspace hfeed hcontrol
  · exact .inl ⟨'"', rfl, by rw [hquote]; rfl⟩
  · exact .inl ⟨'\\', rfl, by rw [hbackslash]; rfl⟩
  · exact .inl ⟨'n', rfl, by rw [hnewline]; rfl⟩
  · exact .inl ⟨'r', rfl, by rw [hreturn]; rfl⟩
  · exact .inl ⟨'t', rfl, by rw [htab]; rfl⟩
  · exact .inl ⟨'b', rfl, by rw [hbackspace]; rfl⟩
  · exact .inl ⟨'f', rfl, by rw [hfeed]; rfl⟩
  · exact .inr (.inl ⟨hcontrol, rfl⟩)
  · exact .inr (.inr ⟨hquote, hbackslash, hcontrol, rfl⟩)

theorem delimited_plain {c : Char} (hquote : c ≠ '"') (hbackslash : c ≠ '\\') (cs : List Char) :
    delimited (c :: cs) = (delimited cs).map fun (raw, rest) => (c :: raw, rest) := by
  rw [delimited.eq_def]
  split <;> simp_all

theorem lowerHex_ne {n : Nat} (h : n < 16) : Text.lowerHex n ≠ '"' ∧ Text.lowerHex n ≠ '\\' :=
  (by decide : ∀ n : Fin 16, Text.lowerHex n ≠ '"' ∧ Text.lowerHex n ≠ '\\') ⟨n, h⟩

theorem delimited_escapeChar (c : Char) (cs : List Char) :
    delimited (escapeChar c ++ cs) = (delimited cs).map fun (raw, rest) =>
    (escapeChar c ++ raw, rest) := by
  rcases escapeChar_cases c with ⟨d, hescape, -⟩ | ⟨hcontrol, hescape⟩ | ⟨hquote,
    hbackslash, -, hescape⟩
  · simp [hescape, delimited]
  · obtain ⟨hhigh, hhigh'⟩ := lowerHex_ne (by omega : c.toNat / 16 < 16)
    obtain ⟨hlow, hlow'⟩ := lowerHex_ne (by omega : c.toNat % 16 < 16)
    simp [hescape, delimited, delimited_plain hhigh hhigh', delimited_plain hlow hlow',
      Function.comp_def]
  · rw [hescape, List.singleton_append, delimited_plain hquote hbackslash]
    rfl

theorem delimited_escaped (s rest : List Char) :
    delimited (s.flatMap escapeChar ++ '"' :: rest) = some (s.flatMap escapeChar, rest) := by
  induction s with
  | nil => rfl
  | cons c s ih =>
    rw [List.flatMap_cons, List.append_assoc, delimited_escapeChar, ih]
    rfl

theorem decodePieces_plain {c : Char} (h : ¬ (c.toNat < 0x20 ∨ c = '\\')) (cs : List Char) :
    decodePieces (c :: cs) = (decodePieces cs).map (some c :: ·) := by
  have hbackslash : c ≠ '\\' := fun hc => h (.inr hc)
  rw [decodePieces, if_neg h] <;> intros <;> contradiction

theorem decodePieces_short {c d : Char} (h : shortEscape? c = some d) (cs : List Char) :
    decodePieces ('\\' :: c :: cs) = (decodePieces cs).map (some d :: ·) := by
  have hc : c ≠ 'u' := by
    rintro rfl
    cases h
  rw [decodePieces, h] <;> intros <;> contradiction

theorem followed_or (cs : List Char) :
    (∃ e f g i rest, cs = '\\' :: 'u' :: e :: f :: g :: i :: rest) ∨
      ∀ e f g i rest, cs = '\\' :: 'u' :: e :: f :: g :: i :: rest → False := by
  by_cases h : ∃ e f g i rest, cs = '\\' :: 'u' :: e :: f :: g :: i :: rest
  · exact .inl h
  · exact .inr fun e f g i rest heq => h ⟨e, f, g, i, rest, heq⟩

theorem decodePieces_malformed {a b c d : Char} (h : unit? a b c d = none) (cs : List Char) :
    decodePieces ('\\' :: 'u' :: a :: b :: c :: d :: cs) = none := by
  rcases followed_or cs with ⟨e, f, g, i, rest, rfl⟩ | hend
  · rw [decodePieces, h]
  · rw [decodePieces.eq_3 _ _ _ _ _ hend, h]

theorem decodePieces_unit {a b c d : Char} {n : Nat} (h : unit? a b c d = some n)
    (hn : n < 0xD800) (cs : List Char) :
    decodePieces ('\\' :: 'u' :: a :: b :: c :: d :: cs) = (decodePieces cs).map
      (some (.ofNat n) :: ·) := by
  have hlow : ¬ 0xD800 ≤ n := by omega
  rcases followed_or cs with ⟨e, f, g, i, rest, rfl⟩ | hend
  · rw [decodePieces, h]
    cases hunit : unit? e f g i with
    | none => rw [decodePieces_malformed hunit]; rfl
    | some m => simp [hlow]
  · rw [decodePieces.eq_3 _ _ _ _ _ hend, h]
    simp [hlow]

theorem unit?_lowerHex {n : Nat} (h : n < 0x100) :
    unit? '0' '0' (Text.lowerHex (n / 16)) (Text.lowerHex (n % 16)) = some n := by
  have hzero : Text.hexDigit? '0' = some 0 := by decide
  simp [unit?, Text.hexValue?, hzero, Text.hexDigit?_lowerHex (by omega : n / 16 < 16),
    Text.hexDigit?_lowerHex (by omega : n % 16 < 16)]
  omega

theorem decodePieces_escapeChar (c : Char) (cs : List Char) :
    decodePieces (escapeChar c ++ cs) = (decodePieces cs).map (some c :: ·) := by
  rcases escapeChar_cases c with ⟨d, hescape, hshort⟩ | ⟨hcontrol, hescape⟩ | ⟨hquote,
    hbackslash, hcontrol, hescape⟩
  · rw [hescape]
    exact decodePieces_short hshort cs
  · have hread := decodePieces_unit (unit?_lowerHex (by omega : c.toNat < 0x100)) (by omega) cs
    rw [Char.ofNat_toNat] at hread
    rw [hescape]
    exact hread
  · rw [hescape]
    exact decodePieces_plain (by simp [hcontrol, hbackslash]) cs

theorem decodePieces_escaped (s : List Char) :
    decodePieces (s.flatMap escapeChar) = some (s.map some) := by
  induction s with
  | nil => rfl
  | cons c s ih =>
    rw [List.flatMap_cons, decodePieces_escapeChar, ih]
    rfl

/-- A string is decoded to what was escaped. -/
theorem decodeString_escaped (s : String) :
    decodeString (s.toList.flatMap escapeChar) = .text (some s) := by
  have hpieces : (s.toList.map some).mapM id = some s.toList := by
    induction s.toList with
    | nil => rfl
    | cons c cs ih =>
      rw [List.map_cons, List.mapM_cons, ih]
      rfl
  simp [decodeString, decodePieces_escaped, hpieces]

theorem readValue_text {cs r raw rest : List Char} {s : Option String}
    (hskip : skipBlanks cs = '"' :: r) (hraw : delimited r = some (raw, rest))
    (hs : decodeString raw = .text s) :
    ∃ h, readValue cs = (.text s, some ⟨rest, h⟩) := by
  have hlt : rest.length < cs.length := by
    have hlen := length_skipBlanks_le cs
    have hlen' := length_delimited_lt hraw
    rw [hskip, List.length_cons] at hlen
    omega
  refine ⟨hlt, ?_⟩
  rw [readValue]
  grind

theorem readFields_cons {cs r raw rest rest' after last : List Char}
    {key : Option String} {value : Json} {fields : List (Option String × Json)}
    (hskip : skipBlanks cs = '"' :: r) (hraw : delimited r = some (raw, rest))
    (hkey : decodeString raw = .text key) (hcolon : skipBlanks rest = ':' :: rest')
    (hvalue : ∃ h, readValue rest' = (value, some ⟨after, h⟩))
    (hnext : (skipBlanks after = '\x7d' :: last ∧ fields = []) ∨
      ∃ next h, skipBlanks after = ',' :: next ∧ readFields next = (fields, some ⟨last, h⟩)) :
    ∃ h, readFields cs = ((key, value) :: fields, some ⟨last, h⟩) := by
  obtain ⟨hafter, hvalue⟩ := hvalue
  have hlen := length_skipBlanks_le after
  have hlen' := length_skipBlanks_le rest
  have hlen'' := length_skipBlanks_le cs
  have hlt := length_delimited_lt hraw
  have hlast : last.length < cs.length := by
    rw [hskip, List.length_cons] at hlen''
    rw [hcolon, List.length_cons] at hlen'
    rcases hnext with ⟨hclose, -⟩ | ⟨next, hnext, hcomma, -⟩
    · rw [hclose, List.length_cons] at hlen
      omega
    · rw [hcomma, List.length_cons] at hlen
      omega
  refine ⟨hlast, ?_⟩
  -- Each match on the way is decided by one of the hypotheses.
  rw [readFields]
  rcases hnext with ⟨hclose, rfl⟩ | ⟨next, hnext, hcomma, hfields⟩
  · grind [Text.shorten_of_lt hlast]
  · grind

/-- Entries, as the reader sees them. -/
def fieldsOf (es : List (String × String)) : List (Option String × Json) :=
  es.map fun e => (some e.1, .text (some e.2))

/-- White space and nothing else. -/
def Blanks (cs : List Char) : Prop := ∀ c ∈ cs, isBlank c

instance (cs : List Char) : Decidable (Blanks cs) :=
  decidable_of_iff (cs.all isBlank) List.all_eq_true

theorem skipBlanks_append {b : List Char} (hb : Blanks b) (cs : List Char) :
    skipBlanks (b ++ cs) = skipBlanks cs :=
  List.dropWhile_append_of_pos hb

theorem skipBlanks_cons {c : Char} (hc : ¬ isBlank c) (cs : List Char) :
    skipBlanks (c :: cs) = c :: cs :=
  List.dropWhile_cons_of_neg hc

theorem skipBlanks_quote {b : List Char} (hb : Blanks b) (s : String) (cs : List Char) :
    skipBlanks (b ++ (quote s ++ cs)) = '"' :: (s.toList.flatMap escapeChar ++ '"' :: cs) := by
  rw [skipBlanks_append hb, quote, List.cons_append, skipBlanks_cons (by decide), List.append_assoc]
  rfl

theorem readFields_field {b sep after last : List Char} (hb : Blanks b)
    (hsep : Blanks sep) (e : String × String) {fields : List (Option String × Json)}
    (hnext : (skipBlanks after = '\x7d' :: last ∧ fields = []) ∨
      ∃ next h, skipBlanks after = ',' :: next ∧ readFields next = (fields, some ⟨last, h⟩)) :
    ∃ h, readFields (b ++ (field (':' :: sep) e ++ after)) = ((some e.1, .text (some e.2)) ::
      fields, some ⟨last, h⟩) := by
  have hvalue : ∃ h, readValue (sep ++ (quote e.2 ++ after)) =
      (.text (some e.2), some ⟨after, h⟩) :=
    readValue_text (skipBlanks_quote hsep e.2 after) (delimited_escaped _ _)
      (decodeString_escaped e.2)
  have hfield : field (':' :: sep) e ++ after = quote e.1 ++ ':' ::
      (sep ++ (quote e.2 ++ after)) := by
    simp [field]
  rw [hfield]
  exact readFields_cons (skipBlanks_quote hb e.1 _) (delimited_escaped _ _)
    (decodeString_escaped e.1)
    (skipBlanks_cons (by decide) _) hvalue hnext

/-- Fields are read as they are written, with white space after the colons, after the commas and at
the end. -/
theorem readFields_joinFields {b sep gap close : List Char} (hb : Blanks b)
    (hsep : Blanks sep) (hgap : Blanks gap) (hclose : Blanks close) {es : List (String × String)}
    (hne : es ≠ []) (rest : List Char) :
    ∃ h, readFields (b ++ (joinFields (':' :: sep) gap es ++ (close ++ '\x7d' :: rest))) =
      (fieldsOf es, some ⟨rest, h⟩) := by
  have hend : skipBlanks (close ++ '\x7d' :: rest) = '\x7d' :: rest := by
    rw [skipBlanks_append hclose, skipBlanks_cons (by decide)]
  induction es generalizing b with
  | nil => exact absurd rfl hne
  | cons e es ih =>
    cases es with
    | nil => exact readFields_field hb hsep e (.inl ⟨hend, rfl⟩)
    | cons e' es =>
      obtain ⟨h, hread⟩ := ih hgap (by simp)
      have hjoin : joinFields (':' :: sep) gap (e :: e' :: es) ++ (close ++ '\x7d' :: rest) =
        field (':' :: sep) e ++
          ',' ::
            (gap ++ (joinFields (':' :: sep) gap (e' :: es) ++ (close ++ '\x7d' :: rest))) := by
        simp [joinFields]
      rw [hjoin]
      exact readFields_field hb hsep e (.inr ⟨_, h, skipBlanks_cons (by decide) _, hread⟩)

theorem exists_joinFields_cons (separator gap : List Char) (e : String × String)
    (es : List (String × String)) :
    ∃ cs, joinFields separator gap (e :: es) = quote e.1 ++ cs := by
  cases es with
  | nil => exact ⟨separator ++ quote e.2, List.append_assoc ..⟩
  | cons e' es =>
    exact ⟨separator ++ quote e.2 ++ ',' :: gap ++ joinFields separator gap (e' :: es),
      by simp [joinFields, field]⟩

theorem readValue_object {cs rest : List Char} {fields : List (Option String × Json)}
    (hne : ∀ ds, skipBlanks cs ≠ '\x7d' :: ds)
    (hfields : ∃ h, readFields cs = (fields, some ⟨rest, h⟩)) :
    ∃ h, readValue ('\x7b' :: cs) = (.object fields true, some ⟨rest, h⟩) := by
  obtain ⟨hlen, hfields⟩ := hfields
  have hskip : skipBlanks ('\x7b' :: cs) = '\x7b' :: cs := skipBlanks_cons (by decide) cs
  refine ⟨by rw [List.length_cons]; omega, ?_⟩
  rw [readValue]
  grind

theorem readValue_fields {b sep gap close : List Char} (hb : Blanks b)
    (hsep : Blanks sep) (hgap : Blanks gap) (hclose : Blanks close) {es : List (String × String)}
    (hne : es ≠ []) :
    ∃ h, readValue ('\x7b' :: (b ++ (joinFields (':' :: sep) gap es ++ (close ++ ['\x7d'])))) =
      (.object (fieldsOf es) true, some ⟨[], h⟩) := by
  refine readValue_object (fun ds hskip => ?_) (readFields_joinFields hb hsep hgap hclose hne [])
  obtain ⟨e, es, rfl⟩ := List.exists_cons_of_ne_nil hne
  obtain ⟨cs, hquote⟩ := exists_joinFields_cons (':' :: sep) gap e es
  rw [hquote, List.append_assoc, skipBlanks_quote hb] at hskip
  cases hskip

theorem readValue_empty : ∃ h, readValue ['\x7b', '\x7d'] = (.object [] true, some ⟨[], h⟩) := by
  have hopen : skipBlanks ['\x7b', '\x7d'] = ['\x7b', '\x7d'] := by decide
  have hclose : skipBlanks ['\x7d'] = ['\x7d'] := by decide
  have hlt : ([] : List Char).length < ['\x7b', '\x7d'].length := by decide
  refine ⟨hlt, ?_⟩
  rw [readValue]
  grind [Text.shorten_of_lt hlt]

theorem Document.decode_complete {α : Type} (value : Json) (decode : Json → Except Fault α) :
    Document.decode ⟨value, true⟩ decode = decode value := by
  rw [Document.decode]
  cases decode value <;> rfl

end RemoteServices.Json

namespace RemoteServices.Properties

open Json

theorem addFields_fieldsOf (p : Properties) (es : List (String × String)) :
    addFields true p (fieldsOf es) = .ok (es.foldl (fun p e => p.set e.1 e.2) p) := by
  induction es generalizing p with
  | nil => rfl
  | cons e es ih => exact ih _

theorem get?_foldl_set {es : List (String × String)} (hes : es.Pairwise fun a b => a.1 < b.1)
    (p : Properties) (key : String) :
    (es.foldl (fun p e => p.set e.1 e.2) p).get? key = (es.lookup key).or (p.get? key) := by
  induction es generalizing p with
  | nil => rfl
  | cons e es ih =>
    obtain ⟨he, hes⟩ := List.pairwise_cons.mp hes
    rw [List.foldl_cons, ih hes, get?_set, lookup_cons_ite]
    by_cases hkey : key = e.1
    · subst hkey
      simp [lookup_eq_none_of_lt he]
    · simp [hkey]

theorem foldl_set_entries (p : Properties) : p.entries.foldl (fun p e => p.set e.1 e.2) ∅ = p :=
  ext_get? fun key => by
    rw [get?_foldl_set p.ascending, get?_empty, Option.or_none]
    rfl

theorem ofJson_fieldsOf (p : Properties) : ofJson (.object (fieldsOf p.entries) true) = .ok p := by
  rw [ofJson, addFields_fieldsOf, foldl_set_entries]

theorem read_of_readValue {s : String} {p : Properties}
    (h : ∃ h, readValue s.toList = (.object (fieldsOf p.entries) true, some ⟨[], h⟩)) :
    Json.read s = ⟨.object (fieldsOf p.entries) true, true⟩ := by
  obtain ⟨hlen, h⟩ := h
  rw [Json.read, h]
  rfl

theorem read_compact (p : Properties) :
    Json.read (.ofList (compact p)) = ⟨.object (fieldsOf p.entries) true, true⟩ := by
  refine read_of_readValue ?_
  rw [String.toList_ofList, compact]
  by_cases hne : p.entries = []
  · rw [hne]
    exact readValue_empty
  · exact readValue_fields (by decide : Blanks []) (by decide : Blanks []) (by decide : Blanks [])
      (by decide : Blanks []) hne

theorem read_pretty (p : Properties) :
    Json.read (.ofList (pretty p)) = ⟨.object (fieldsOf p.entries) true, true⟩ := by
  refine read_of_readValue ?_
  rw [String.toList_ofList, pretty, isEmpty]
  by_cases hne : p.entries = []
  · rw [hne]
    exact readValue_empty
  · rw [if_neg (by simpa using hne)]
    exact readValue_fields (by decide : Blanks ['\n', ' ', ' ']) (by decide : Blanks [' '])
      (by decide : Blanks ['\n', ' ', ' ']) (by decide : Blanks ['\n']) hne

theorem parseJson_compact (p : Properties) : parseJson (.ofList (compact p)) = .ok p := by
  rw [parseJson, read_compact, Document.decode_complete, ofJson_fieldsOf]

theorem parseJson_pretty (p : Properties) : parseJson (.ofList (pretty p)) = .ok p := by
  rw [parseJson, read_pretty, Document.decode_complete, ofJson_fieldsOf]

end RemoteServices.Properties

namespace RemoteServices.Endpoint

open Json

theorem ofJson_fieldsOf (p : Properties) (e : Endpoint) :
    ofJson (.object (fieldsOf p.entries) true) = .ok e ↔ ofProperties p = .ok e := by
  rw [ofJson, Properties.ofJson_fieldsOf]
  cases h : ofProperties p <;> simp [bind, Except.bind, pure, Except.pure, h]

/-- Of the JSON text of a map the endpoint is read that the map describes. -/
theorem parseJson_compact (p : Properties) (e : Endpoint) :
    parseJson (.ofList (compact p)) = .ok e ↔ ofProperties p = .ok e := by
  rw [parseJson, Properties.read_compact, Document.decode_complete, ofJson_fieldsOf]

theorem parseJson_pretty (p : Properties) (e : Endpoint) :
    parseJson (.ofList (pretty p)) = .ok e ↔ ofProperties p = .ok e := by
  rw [parseJson, Properties.read_pretty, Document.decode_complete, ofJson_fieldsOf]

end RemoteServices.Endpoint
