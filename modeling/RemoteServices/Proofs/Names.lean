import RemoteServices.Proofs.Percent
import RemoteServices.Proofs.Pieces
import RemoteServices.Url

/-!
# What no name of a host holds

Some characters tell the parts of a URL apart.  On the way from a text to the name of a host none of
them is ever lost: a text keeps them when it is decoded, folded and composed, and a label keeps them
in its ASCII form and when it is read back from it.  At the end a name with one of them is refused,
so none was in the text that it was read from: `Url.Domain.notMem_of_ofChars?`.
-/
namespace RemoteServices

namespace Url

/-- The characters that tell the parts of a URL apart. -/
def separators : List Char := ['/', '\\', '?', '#', '@', ':', '[', ']']

end Url

theorem exists_mem_of_mapM {α β : Type} {f : α → Option β} {as : List α} {bs : List β}
    (h : as.mapM f = some bs) {a : α} (ha : a ∈ as) : ∃ b ∈ bs, f a = some b := by
  induction as generalizing bs with
  | nil => cases ha
  | cons a' as ih =>
    simp only [List.mapM_cons, Option.pure_def, Option.bind_eq_bind, Option.bind_eq_some_iff] at h
    obtain ⟨b, hb, bs, hbs, h⟩ := h
    cases h
    rcases List.mem_cons.mp ha with rfl | ha
    · exact ⟨b, List.mem_cons_self, hb⟩
    · obtain ⟨b', hb', hf⟩ := ih hbs ha
      exact ⟨b', List.mem_cons_of_mem _ hb', hf⟩

theorem mapM_eq_self {α : Type} {f : α → Option α} {as : List α} (h : ∀ a ∈ as, f a = some a) :
    as.mapM f = some as := by
  induction as with
  | nil => rfl
  | cons a as ih =>
    obtain ⟨ha, has⟩ := List.forall_mem_cons.mp h
    simp [List.mapM_cons, ha, ih has]

namespace Text

/-- A character that has no parts and is no part. -/
structure Uncomposed (c : Char) : Prop where
  parts : parts c = [c]
  left : ∀ d, compose? c d = none
  right : ∀ d, compose? d c = none

theorem putMark_perm (d : Classed) (ds : List Classed) : (putMark d ds).Perm (d :: ds) := by
  induction ds with
  | nil => exact .refl _
  | cons e ds ih =>
    rw [putMark]
    split
    · exact (ih.cons e).trans (.swap d e ds)
    · exact .refl _

theorem sortMarks_perm (ds : List Classed) : (sortMarks ds).Perm ds := by
  induction ds with
  | nil => exact .nil
  | cons d ds ih => exact (putMark_perm d _).trans (ih.cons d)

variable {c : Char}

theorem mem_composeAfter (hc : Uncomposed c) {d : Char} {held ds : List Classed}
    (h : c = d ∨ c ∈ held.map (·.2) ∨ c ∈ ds.map (·.2)) : c ∈ composeAfter d held ds := by
  induction ds generalizing d held with
  | nil => simpa [composeAfter] using h
  | cons e ds ih =>
    rw [List.map_cons, List.mem_cons] at h
    rw [composeAfter]
    split
    · -- What is composed is neither of the two.
      rename_i f hf
      split at hf
      · have hd : c ≠ d := by
          rintro rfl
          rw [hc.left] at hf
          cases hf
        have he : c ≠ e.2 := by
          rintro rfl
          rw [hc.right] at hf
          cases hf
        refine ih (.inr ?_)
        rcases h with h | h | h | h
        · exact absurd h hd
        · exact .inl h
        · exact absurd h he
        · exact .inr h
      · cases hf
    · split
      · rw [List.mem_cons, List.mem_append]
        rcases h with h | h | h | h
        · exact .inl h
        · exact .inr (.inl (by simpa using h))
        · exact .inr (.inr (ih (.inl h)))
        · exact .inr (.inr (ih (.inr (.inr h))))
      · refine ih ?_
        rw [List.map_cons, List.mem_cons]
        rcases h with h | h | h | h
        · exact .inl h
        · exact .inr (.inl (.inr h))
        · exact .inr (.inl (.inl h))
        · exact .inr (.inr h)

theorem mem_composed (hc : Uncomposed c) {ds : List Classed} (h : c ∈ ds.map (·.2)) :
    c ∈ composed ds := by
  induction ds with
  | nil => cases h
  | cons d ds ih =>
    rw [List.map_cons, List.mem_cons] at h
    rw [composed]
    split
    · refine mem_composeAfter hc ?_
      rcases h with h | h
      · exact .inl h
      · exact .inr (.inr h)
    · rw [List.mem_cons]
      exact h.imp_right ih

theorem mem_flatMap_parts (hc : Uncomposed c) {cs : List Char} (h : c ∈ cs) :
    c ∈ cs.flatMap parts :=
  List.mem_flatMap.mpr ⟨c, h, by rw [hc.parts]; exact List.mem_singleton_self c⟩

theorem mem_canonical (hc : Uncomposed c) {cs : List Char} (h : c ∈ cs) : c ∈ canonical cs := by
  refine mem_composed hc (((sortMarks_perm _).map _).mem_iff.mpr ?_)
  rw [List.map_map]
  simpa [classed, Function.comp_def] using mem_flatMap_parts hc h

namespace Punycode

theorem mem_rest_of_readNumber {bias place weight n : Nat} {cs rest : List Char}
    (h : readNumber bias place weight cs = some (n, rest)) (hc : value? c = none) (hmem : c ∈ cs) :
    c ∈ rest := by
  induction cs generalizing place weight n with
  | nil => cases h
  | cons d cs ih =>
    rw [readNumber] at h
    split at h
    · cases h
    · rename_i hd
      have hne : c ≠ d := by
        rintro rfl
        rw [hc] at hd
        cases hd
      have hmem : c ∈ cs := (List.mem_cons.mp hmem).resolve_left hne
      split at h
      · cases h
        exact hmem
      · obtain ⟨⟨m, r⟩, hm, he⟩ := Option.map_eq_some_iff.1 h
        cases he
        exact ih hm hmem

/-- A text that characters join keeps its own, and is joined by nothing that is no digit. -/
theorem mem_of_readPlaces {first : Bool} {bias n i : Nat} {cs digits wide : List Char}
    (h : readPlaces first bias n i cs digits = some wide) (hc : value? c = none) :
    c ∉ digits ∧ (c ∈ cs → c ∈ wide) := by
  fun_induction readPlaces first bias n i cs digits with
  | case1 => cases h; exact ⟨List.not_mem_nil, id⟩
  | case2 => cases h
  | case3 first bias n i cs d ds distance rest hnumber count code place hvalid ih =>
    obtain ⟨hrest, hkeep⟩ := ih h
    refine ⟨fun hmem => hrest (mem_rest_of_readNumber hnumber hc hmem), fun hmem => hkeep ?_⟩
    rw [← List.take_append_drop place cs, List.mem_append] at hmem
    rw [List.mem_append, List.mem_cons]
    exact hmem.imp_right .inr
  | case4 => cases h

theorem mem_of_decode {cs wide : List Char} (h : decode cs = some wide) (hc : value? c = none)
    (hdash : c ≠ '-') (hmem : c ∈ cs) :
    c ∈ wide := by
  rw [decode] at h
  split at h
  · obtain ⟨hdigits, hkeep⟩ := mem_of_readPlaces h hc
    refine hkeep ?_
    split at hdigits
    · exact absurd hmem hdigits
    · rw [List.mem_reverse] at hdigits ⊢
      rw [← List.mem_reverse, ← List.takeWhile_append_dropWhile (p := (· != '-'))
        (l := cs.reverse)] at hmem
      have hdrop := (List.mem_append.mp hmem).resolve_left hdigits
      cases hrest : cs.reverse.dropWhile (· != '-') with
      | nil =>
        rw [hrest] at hdrop
        cases hdrop
      | cons d rest =>
        have hd : d = '-' := by
          have hhead := List.head_dropWhile_not (p := (· != '-'))
            (l := cs.reverse) (by simp [hrest])
          simpa [hrest] using hhead
        rw [hrest] at hdrop
        exact (List.mem_cons.mp hdrop).resolve_left (hd ▸ hdash)
  · cases h

theorem mem_encode {cs : List Char} (hc : isAscii c) (hmem : c ∈ cs) : c ∈ encode cs := by
  have hfilter : c ∈ cs.filter isAscii := List.mem_filter.mpr ⟨hmem, hc⟩
  rw [encode, if_neg (by simpa using ⟨c, hmem, hc⟩)]
  exact List.mem_append_left _ (List.mem_append_left _ hfilter)

end Punycode

theorem mem_of_mem_pieces {sep : Char} {cs p : List Char} (hp : p ∈ pieces sep cs) (hc : c ∈ p) :
    c ∈ cs := by
  obtain ⟨-, before, after, rfl, -, -⟩ := mem_pieces_iff.mp hp
  exact List.mem_append_right _ (List.mem_append_left _ hc)

theorem exists_mem_pieces {sep : Char} {cs : List Char} (hc : c ∈ cs) (hsep : c ≠ sep) :
    ∃ p ∈ pieces sep cs, c ∈ p := by
  induction cs with
  | nil => cases hc
  | cons d cs ih =>
    rw [pieces]
    split
    · rename_i hd
      obtain ⟨p, hp, hcp⟩ := ih ((List.mem_cons.mp hc).resolve_left (hd ▸ hsep))
      exact ⟨p, List.mem_cons_of_mem _ hp, hcp⟩
    · obtain ⟨p, ps, hps⟩ := List.exists_cons_of_ne_nil (pieces_ne_nil sep cs)
      rw [hps] at ih ⊢
      rcases List.mem_cons.mp hc with rfl | hc
      · exact ⟨_, List.mem_cons_self, List.mem_cons_self⟩
      · obtain ⟨q, hq, hcq⟩ := ih hc
        rcases List.mem_cons.mp hq with rfl | hq
        · exact ⟨_, List.mem_cons_self, List.mem_cons_of_mem _ hcq⟩
        · exact ⟨q, List.mem_cons_of_mem _ hq, hcq⟩

theorem mem_intercalate {sep piece : List Char} {ps : List (List Char)}
    (hpiece : piece ∈ ps) (hc : c ∈ piece) :
    c ∈ sep.intercalate ps := by
  induction ps with
  | nil => cases hpiece
  | cons p ps ih =>
    cases ps with
    | nil =>
      rw [List.mem_singleton.mp hpiece] at hc
      simpa using hc
    | cons q ps =>
      rw [List.intercalate_cons_cons, List.mem_append, List.mem_append]
      rcases List.mem_cons.mp hpiece with rfl | hpiece
      · exact .inl (.inl hc)
      · exact .inr (ih hpiece)

theorem utf8EncodeChar_of_isAscii (hc : isAscii c) :
    String.utf8EncodeChar c = [c.toNat.toUInt8] := by
  have hlow : c.toNat < 128 := of_decide_eq_true hc
  exact if_pos (Nat.le_of_lt_succ hlow)

theorem eq_of_mem_utf8EncodeChar {d : Char} (hc : isAscii c)
    (h : c.toNat.toUInt8 ∈ String.utf8EncodeChar d) : c = d := by
  have hlow : c.toNat < 128 := of_decide_eq_true hc
  have hvalue {n : Nat} (hn : n < 256) : c.toNat.toUInt8 = UInt8.ofNat n ↔ c.toNat = n := by
    rw [← UInt8.toNat_inj, Nat.toUInt8, UInt8.toNat_ofNat', UInt8.toNat_ofNat', Nat.mod_eq_of_lt hn,
      Nat.mod_eq_of_lt (by omega)]
  -- The bytes of other characters are beyond.
  have hbeyond {l : List Nat} (hl : ∀ n ∈ l, 128 ≤ n ∧ n < 256) :
      c.toNat.toUInt8 ∉ l.map UInt8.ofNat := by
    intro hmem
    obtain ⟨n, hn, heq⟩ := List.mem_map.mp hmem
    obtain ⟨hlarge, hsmall⟩ := hl n hn
    have := (hvalue hsmall).mp heq.symm
    omega
  rw [String.utf8EncodeChar] at h
  split at h
  · have heq : c.toNat = d.val.toNat := (hvalue (by omega)).mp (List.mem_singleton.mp h)
    exact Char.toNat_inj.mp heq
  · refine absurd h ?_
    split
    · exact hbeyond (l := [_, _]) (by simp; omega)
    · split
      · exact hbeyond (l := [_, _, _]) (by simp; omega)
      · exact hbeyond (l := [_, _, _, _]) (by simp; omega)

end Text

namespace Url

variable {c : Char}

theorem eq_utf8_of_textOf? {bytes : List UInt8} {s : String} (h : textOf? bytes = some s) :
    bytes = s.toList.flatMap String.utf8EncodeChar := by
  rw [textOf?, String.fromUTF8?] at h
  split at h
  · cases h
    rename_i hvalid
    have hbytes :
        (⟨bytes.toArray⟩ : ByteArray) =
        (String.fromUTF8 ⟨bytes.toArray⟩ hvalid).toList.utf8Encode := by
      rw [String.utf8Encode_toList]
      rfl
    have hdata := congrArg (fun b : ByteArray => b.data.toList) hbytes
    simpa only [List.utf8Encode, List.toList_data_toByteArray] using hdata
  · cases h

/-- The bytes of blanks, signs of order, letters, and characters beyond ASCII. -/
def isComposed (b : UInt8) : Bool :=
  0x61 ≤ b.toNat || b.toNat == 0x20 || (0x3c ≤ b.toNat && b.toNat ≤ 0x3e) ||
    (0x41 ≤ b.toNat && b.toNat ≤ 0x5a)

theorem compositionTexts_bytes :
    Text.compositionTexts.all fun block => block.2.toByteArray.data.toList.all isComposed := by
  decide +kernel

/-- A character that stands for itself on the way from a text to a name. -/
structure Unchanging (c : Char) : Prop where
  isAscii : Text.isAscii c
  hexDigit? : Text.hexDigit? c = none
  ne_percent : c ≠ '%'
  toLower : c.toLower = c
  foldChar : Domain.foldChar c = some [c]
  parts : Text.parts c = [c]
  not_isComposed : ¬ isComposed c.toNat.toUInt8
  ne_dot : c ≠ '.'
  notMem_marker : c ∉ Domain.marker
  value? : Text.Punycode.value? c = none

theorem unchanging_of_mem_separators (hc : c ∈ separators) : Unchanging c := by
  simp only [separators, List.mem_cons, List.not_mem_nil, or_false] at hc
  rcases hc with rfl | rfl | rfl | rfl | rfl | rfl | rfl | rfl <;> constructor <;> decide +kernel

theorem Unchanging.notMem_compositions (hc : Unchanging c) :
    ∀ entry ∈ Text.compositions, c ∉ entry.1 := by
  intro entry hentry hmem
  obtain ⟨⟨first, words⟩, hblock, hentry⟩ := List.mem_flatMap.mp hentry
  obtain ⟨⟨n, text⟩, htext, hblock⟩ := List.mem_map.mp hblock
  cases hblock
  obtain ⟨⟨word, i⟩, hword, rfl⟩ := List.mem_map.mp hentry
  have hword : c ∈ text.toList := Text.mem_of_mem_pieces (List.fst_mem_of_mem_zipIdx hword) hmem
  have hbyte : c.toNat.toUInt8 ∈ text.toByteArray.data.toList := by
    rw [← String.utf8Encode_toList, List.utf8Encode, List.toList_data_toByteArray]
    refine List.mem_flatMap.mpr ⟨c, hword, ?_⟩
    rw [Text.utf8EncodeChar_of_isAscii hc.isAscii]
    exact List.mem_singleton_self _
  exact hc.not_isComposed
    (List.all_eq_true.mp (List.all_eq_true.mp compositionTexts_bytes _ htext) _ hbyte)

theorem Unchanging.uncomposed (hc : Unchanging c) : Text.Uncomposed c := by
  have hsmall : c.toNat < 0x80 := of_decide_eq_true hc.isAscii
  have hfind (word : List Char) (hword : c ∈ word) : Text.compositions.find?
      (·.1 == word) = none := by
    refine List.find?_eq_none.mpr fun entry hentry heq => ?_
    exact hc.notMem_compositions entry hentry (beq_iff_eq.mp heq ▸ hword)
  -- Nor is it one of the letters that make up a syllable.
  have hsyllable (d : Char) : Text.syllable? c d = none ∧ Text.syllable? d c = none := by
    have hletters : 0x80 ≤ Text.firstLead ∧ 0x80 ≤ Text.firstVowel ∧ 0x80 ≤ Text.beforeTail ∧
        0x80 ≤ Text.firstSyllable := by decide
    simp only [Text.syllable?]
    constructor <;> rw [if_neg (by omega), if_neg (by omega)]
  refine ⟨hc.parts, fun d => ?_, fun d => ?_⟩
  · rw [Text.compose?, hfind _ (by simp [hc.parts]), (hsyllable d).1]
    rfl
  · rw [Text.compose?, hfind _ (by simp), (hsyllable d).2]
    rfl

theorem Unchanging.mem_of_textOf?_decode (hc : Unchanging c) {cs : List Char} {s : String}
    (h : textOf? (decode cs) = some s) (hmem : c ∈ cs) : c ∈ s.toList := by
  have hbyte : c.toNat.toUInt8 ∈ decode cs := by
    clear h
    fun_induction decode cs with
    | case1 a b cs n hn ih =>
      obtain ⟨ds, hds, -⟩ := Option.map_eq_some_iff.mp hn
      have hdigit (d : Char) (hd : d ∈ [a, b]) : c ≠ d := by
        rintro rfl
        obtain ⟨m, -, hm⟩ := exists_mem_of_mapM hds hd
        rw [hc.hexDigit?] at hm
        cases hm
      simp only [List.mem_cons, hc.ne_percent, hdigit a (by simp),
        hdigit b (by simp), false_or] at hmem
      exact List.mem_cons_of_mem _ (ih hmem)
    | case2 a b cs hn ih =>
      exact List.mem_cons_of_mem _ (ih ((List.mem_cons.mp hmem).resolve_left hc.ne_percent))
    | case3 d cs hne ih =>
      rcases List.mem_cons.mp hmem with rfl | hmem
      · rw [Text.utf8EncodeChar_of_isAscii hc.isAscii]
        exact List.mem_cons_self
      · exact List.mem_append_right _ (ih hmem)
    | case4 => cases hmem
  rw [eq_utf8_of_textOf? h] at hbyte
  obtain ⟨d, hd, hbyte⟩ := List.mem_flatMap.mp hbyte
  rwa [Text.eq_of_mem_utf8EncodeChar hc.isAscii hbyte]

theorem Unchanging.mem_of_fold (hc : Unchanging c) {cs folded : List Char}
    (h : Domain.fold cs = some folded) (hmem : c ∈ cs) :
    c ∈ folded := by
  rw [Domain.fold] at h
  split at h
  · cases h
    exact List.mem_map.mpr ⟨c, hmem, hc.toLower⟩
  · obtain ⟨parts, hparts, rfl⟩ := Option.map_eq_some_iff.mp h
    obtain ⟨part, hpart, hfold⟩ :=
      exists_mem_of_mapM hparts (Text.mem_flatMap_parts hc.uncomposed hmem)
    refine Text.mem_canonical hc.uncomposed (List.mem_flatten.mpr ⟨part, hpart, ?_⟩)
    rw [hc.foldChar, Option.some.injEq] at hfold
    exact hfold ▸ List.mem_singleton_self c

theorem Unchanging.mem_of_readLabel (hc : Unchanging c) {label wide : List Char}
    (h : Domain.readLabel label = some wide) (hmem : c ∈ label) : c ∈ wide := by
  rw [Domain.readLabel] at h
  split at h
  · rename_i hmarker
    have hencoded : c ∈ label.drop Domain.marker.length := by
      obtain ⟨rest, rfl⟩ := List.isPrefixOf_iff_prefix.mp hmarker
      rw [List.drop_left]
      exact (List.mem_append.mp hmem).resolve_left hc.notMem_marker
    have hdash : c ≠ '-' := fun h => hc.notMem_marker (h ▸ by decide)
    dsimp only at h
    split at h
    · rename_i hdecode
      split at h
      · cases h
        rw [Option.ite_none_right_eq_some] at hdecode
        exact Text.Punycode.mem_of_decode hdecode.2 hc.value? hdash hencoded
      · cases h
    · cases h
  · split at h
    · cases h
      exact hmem
    · cases h

theorem Unchanging.mem_asciiLabel (hc : Unchanging c) {label : List Char} (hmem : c ∈ label) :
    c ∈ Domain.asciiLabel label := by
  rw [Domain.asciiLabel]
  split
  · exact hmem
  · exact List.mem_append_right _ (Text.Punycode.mem_encode hc.isAscii hmem)

/-- A name is read only from a text without separators. -/
theorem Domain.notMem_of_ofChars? {cs name : List Char} (h : ofChars? cs = some name)
    (hc : c ∈ separators) : c ∉ cs := by
  intro hmem
  have hunchanging := unchanging_of_mem_separators hc
  simp only [ofChars?, Option.bind_eq_bind, Option.bind_eq_some_iff] at h
  obtain ⟨folded, hfold, labels, hlabels, h⟩ := h
  split at h
  · cases h
  · rename_i hfree
    obtain ⟨piece, hpiece, hmem⟩ :=
      Text.exists_mem_pieces (hunchanging.mem_of_fold hfold hmem) hunchanging.ne_dot
    obtain ⟨label, hlabel, hread⟩ := exists_mem_of_mapM hlabels hpiece
    have hname : c ∈ ['.'].intercalate (labels.map asciiLabel) :=
      Text.mem_intercalate (List.mem_map_of_mem hlabel)
        (hunchanging.mem_asciiLabel (hunchanging.mem_of_readLabel hread hmem))
    have hforbidden : ∀ c ∈ separators, isForbidden c := by simp [separators, isForbidden]
    refine hfree ?_
    rw [Bool.or_eq_true, List.any_eq_true]
    exact .inl ⟨c, hname, hforbidden c hc⟩

end Url

end RemoteServices
