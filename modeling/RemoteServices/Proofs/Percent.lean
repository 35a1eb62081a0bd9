import RemoteServices.Url

/-!
# Percent-encoded texts

Where the percent sign is reserved, whatever text is encoded comes back when it is decoded.  No
character that is reserved is left in it, so a text that is encoded fits between the delimiters of a
URL.
-/
namespace RemoteServices.Url

variable {reserved : Char → Bool}

theorem decode_cons {c : Char} (hc : c ≠ '%') (cs : List Char) :
    decode (c :: cs) = String.utf8EncodeChar c ++ decode cs := by
  rw [decode]
  rintro a b ds rfl
  exact absurd rfl hc

theorem decode_encodeByte (b : UInt8) (cs : List Char) :
    decode (encodeByte b ++ cs) = b :: decode cs := by
  have hb : b.toNat < 256 := b.toNat_lt
  have hhigh := Text.hexDigit?_upperHex (n := b.toNat / 16) (by omega)
  have hlow := Text.hexDigit?_upperHex (n := b.toNat % 16) (by omega)
  have hvalue : Text.hexValue? [Text.upperHex (b.toNat / 16), Text.upperHex (b.toNat % 16)] =
      some b.toNat := by
    simp only [Text.hexValue?, List.mapM_cons, List.mapM_nil, hhigh, hlow,
      Option.pure_def, Option.bind_eq_bind, Option.bind_some, Option.map_some,
      List.foldl_cons, List.foldl_nil]
    congr 1
    omega
  rw [encodeByte, List.cons_append, List.cons_append, List.cons_append,
    List.nil_append, decode, hvalue]
  simp

theorem decode_encodeBytes (bytes : List UInt8) (cs : List Char) :
    decode (bytes.flatMap encodeByte ++ cs) = bytes ++ decode cs := by
  induction bytes with
  | nil => rfl
  | cons b bytes ih =>
    rw [List.flatMap_cons, List.append_assoc, decode_encodeByte, ih, List.cons_append]

theorem decode_encode (hpercent : reserved '%') (cs rest : List Char) :
    decode (encode reserved cs ++ rest) = cs.flatMap String.utf8EncodeChar ++ decode rest := by
  induction cs with
  | nil => rfl
  | cons c cs ih =>
    rw [encode, List.flatMap_cons, List.append_assoc, List.flatMap_cons, List.append_assoc,
      ← ih, encode, encodeChar]
    split
    · rename_i hplain
      have hc : c ≠ '%' := by
        rintro rfl
        exact hplain.2 hpercent
      rw [List.singleton_append, decode_cons hc]
    · exact decode_encodeBytes _ _

theorem textOf?_utf8 (cs : List Char) :
    textOf? (cs.flatMap String.utf8EncodeChar) = some (.ofList cs) := by
  have hbytes : (⟨(cs.flatMap String.utf8EncodeChar).toArray⟩ : ByteArray) = cs.utf8Encode := by
    rw [List.utf8Encode, ← List.data_toByteArray]
  rw [textOf?, hbytes, String.fromUTF8?, dif_pos ⟨cs, rfl⟩]
  rfl

/-- A text that is encoded stands for itself. -/
theorem textOf?_decode_encode (hpercent : reserved '%') (cs : List Char) :
    textOf? (decode (encode reserved cs)) = some (.ofList cs) := by
  have hdecode := decode_encode hpercent cs []
  rw [List.append_nil, decode, List.append_nil] at hdecode
  rw [hdecode, textOf?_utf8]

theorem eq_of_decode_encode (hpercent : reserved '%') {cs ds : List Char}
    (h : decode (encode reserved cs) = ds.flatMap String.utf8EncodeChar) : cs = ds := by
  have htext := textOf?_decode_encode hpercent cs
  rw [h, textOf?_utf8, Option.some.injEq, String.ofList_inj] at htext
  exact htext.symm

theorem endsAuthority_iff {c : Char} :
    endsAuthority c ↔ c = '/' ∨ c = '\\' ∨ c = '?' ∨ c = '#' := by
  simp only [endsAuthority, isSlash, Bool.or_eq_true, beq_iff_eq, or_assoc]

theorem not_endsAuthority_of_mem_encode (h : ∀ c, endsAuthority c → reserved c)
    {cs : List Char} {c : Char} (hc : c ∈ encode reserved cs) : ¬ endsAuthority c := by
  obtain ⟨d, -, hc⟩ := List.mem_flatMap.mp hc
  rw [encodeChar] at hc
  split at hc
  · rename_i hplain
    rw [List.mem_singleton.mp hc]
    exact fun hends => hplain.2 (h d hends)
  · have hhex (n : Nat) (hn : n < 16) : ¬ endsAuthority (Text.upperHex n) :=
      (by decide : ∀ n : Fin 16, ¬ endsAuthority (Text.upperHex n)) ⟨n, hn⟩
    obtain ⟨b, -, hc⟩ := List.mem_flatMap.mp hc
    have hb : b.toNat < 256 := b.toNat_lt
    simp only [encodeByte, List.mem_cons, List.not_mem_nil, or_false] at hc
    rcases hc with rfl | rfl | rfl
    · decide
    · exact hhex _ (by omega)
    · exact hhex _ (by omega)

end RemoteServices.Url
