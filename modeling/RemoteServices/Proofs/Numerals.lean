import RemoteServices.Proofs.Trimming
import RemoteServices.Text.Decimal

/-!
# Decimal numerals

Reading an integer of 64 bits goes digit by digit and stops when it leaves the range.  It accepts
just the numerals of integers in the range, `Text.readInt64_eq_ok`, and the numeral that such an
integer is written as is one of its numerals.
-/
namespace RemoteServices.Text

/-- The text is a decimal numeral of the integer; it may have a sign and leading zeros. -/
inductive Numeral : List Char → Int → Prop
  | unsigned {ds : List Char} (hne : ds ≠ []) (hds : ∀ c ∈ ds, c.isDigit) :
    Numeral ds (Nat.ofDigitChars 10 ds 0)
  | positive {ds : List Char} (hne : ds ≠ []) (hds : ∀ c ∈ ds, c.isDigit) :
    Numeral ('+' :: ds) (Nat.ofDigitChars 10 ds 0)
  | negative {ds : List Char} (hne : ds ≠ []) (hds : ∀ c ∈ ds, c.isDigit) :
    Numeral ('-' :: ds) (-Nat.ofDigitChars 10 ds 0)

theorem digit?_eq (c : Char) :
    digit? c = if c.isDigit then some (c.toNat - '0'.toNat) else none := by
  simp only [digit?, Char.isDigit, Bool.and_eq_true, decide_eq_true_eq, ge_iff_le]
  rfl

theorem le_ofDigitChars (cs : List Char) (n : Nat) : n ≤ Nat.ofDigitChars 10 cs n := by
  induction cs generalizing n with
  | nil => exact Nat.le_refl n
  | cons c cs ih =>
    rw [Nat.ofDigitChars_cons]
    exact Nat.le_trans (by omega) (ih _)

/-- A number within the limit is continued just by digits, and as long as it stays within. -/
theorem readDigits_eq_ok {limit : Nat} {beyond : DecimalFault} {n m : Nat}
    {cs : List Char} (hn : n ≤ limit) :
    readDigits limit beyond n cs = .ok m ↔
      (∀ c ∈ cs, c.isDigit) ∧ m = Nat.ofDigitChars 10 cs n ∧ m ≤ limit := by
  induction cs generalizing n with
  | nil =>
    simp only [readDigits, Except.ok.injEq, List.not_mem_nil, false_implies, implies_true, true_and]
    constructor
    · rintro rfl
      exact ⟨rfl, hn⟩
    · exact fun h => h.1.symm
  | cons c cs ih =>
    rw [readDigits, digit?_eq, Nat.ofDigitChars_cons]
    by_cases hc : c.isDigit
    · rw [if_pos hc]
      dsimp only
      split
      · rename_i hle
        rw [ih hle]
        simp [hc]
      · rename_i hbeyond
        have hge := le_ofDigitChars cs (10 * n + (c.toNat - '0'.toNat))
        simp only [reduceCtorEq, false_iff, not_and, not_le]
        omega
    · simp [hc]

theorem isDigit_of_mem_toString (n : Nat) : ∀ c ∈ (toString n).toList, c.isDigit := by
  intro c hc
  change c ∈ n.repr.toList at hc
  rw [Nat.toList_repr] at hc
  exact Nat.isDigit_of_mem_toDigits (by decide) (by decide) hc

theorem toString_ne_nil (n : Nat) : (toString n).toList ≠ [] := by
  change n.repr.toList ≠ []
  rw [Nat.toList_repr]
  exact Nat.toDigits_ne_nil

theorem ofDigitChars_toString (n : Nat) : Nat.ofDigitChars 10 (toString n).toList 0 = n := by
  change Nat.ofDigitChars 10 n.repr.toList 0 = n
  rw [Nat.toList_repr, Nat.ofDigitChars_toDigits (by decide) (by decide)]

theorem eq_of_toString_eq {m n : Nat} (h : toString m = toString n) : m = n := by
  rw [← ofDigitChars_toString m, h, ofDigitChars_toString]

theorem map_readDigits_eq_ok (limit : Nat) (beyond : DecimalFault) (value : Int → Int)
    (hrange : ∀ m : Nat, m ≤ limit ↔ Int64.minValue.toInt ≤ value m ∧
      value m ≤ Int64.maxValue.toInt) (n : Int64)
    (ds : List Char) :
    ((readDigits limit beyond 0 ds).map fun m => Int64.ofInt (value m)) = .ok n ↔
      (∀ c ∈ ds, c.isDigit) ∧ n.toInt = value (Nat.ofDigitChars 10 ds 0) := by
  have hread {m : Nat} : readDigits limit beyond 0 ds = .ok m ↔ _ :=
    readDigits_eq_ok (Nat.zero_le limit)
  constructor
  · intro h
    cases hdigits : readDigits limit beyond 0 ds with
    | error fault =>
      rw [hdigits] at h
      cases h
    | ok m =>
      rw [hdigits] at h
      cases h
      obtain ⟨hds, rfl, hle⟩ := hread.mp hdigits
      obtain ⟨hlow, hhigh⟩ := (hrange _).mp hle
      exact ⟨hds, Int64.toInt_ofInt_of_le hlow (Int.lt_add_one_of_le hhigh)⟩
  · rintro ⟨hds, hn⟩
    have hle : Nat.ofDigitChars 10 ds 0 ≤ limit := by
      rw [hrange, ← hn]
      exact ⟨n.le_toInt, Int.le_of_lt_add_one n.toInt_lt⟩
    rw [hread.mpr ⟨hds, rfl, hle⟩]
    change Except.ok (Int64.ofInt (value _)) = _
    rw [← hn, Int64.ofInt_toInt]

theorem numeral_plus_iff {ds : List Char} {n : Int} :
    Numeral ('+' :: ds) n ↔ ds ≠ [] ∧ (∀ c ∈ ds, c.isDigit) ∧ n = Nat.ofDigitChars 10 ds 0 := by
  constructor
  · intro h
    cases h with
    | unsigned hne hds => exact absurd (hds '+' List.mem_cons_self) (by decide)
    | positive hne hds => exact ⟨hne, hds, rfl⟩
  · rintro ⟨hne, hds, rfl⟩
    exact .positive hne hds

theorem numeral_minus_iff {ds : List Char} {n : Int} :
    Numeral ('-' :: ds) n ↔ ds ≠ [] ∧ (∀ c ∈ ds, c.isDigit) ∧ n = -Nat.ofDigitChars 10 ds 0 := by
  constructor
  · intro h
    cases h with
    | unsigned hne hds => exact absurd (hds '-' List.mem_cons_self) (by decide)
    | negative hne hds => exact ⟨hne, hds, rfl⟩
  · rintro ⟨hne, hds, rfl⟩
    exact .negative hne hds

theorem numeral_unsigned_iff {ds : List Char} {n : Int} (hplus : ∀ cs, ds ≠ '+' :: cs)
    (hminus : ∀ cs, ds ≠ '-' :: cs) :
    Numeral ds n ↔ ds ≠ [] ∧ (∀ c ∈ ds, c.isDigit) ∧ n = Nat.ofDigitChars 10 ds 0 := by
  constructor
  · intro h
    cases h with
    | unsigned hne hds => exact ⟨hne, hds, rfl⟩
    | positive => exact absurd rfl (hplus _)
    | negative => exact absurd rfl (hminus _)
  · rintro ⟨hne, hds, rfl⟩
    exact .unsigned hne hds

/-- An integer of 64 bits is read from its numerals, and from nothing else. -/
theorem readInt64_eq_ok {n : Int64} {cs : List Char} :
    readInt64 cs = .ok n ↔ Numeral cs n.toInt := by
  have hmin : Int64.minValue.toInt = -9223372036854775808 := rfl
  have hmax : Int64.maxValue.toInt = 9223372036854775807 := rfl
  have hnatural := map_readDigits_eq_ok maxInt64 .tooLarge id
    (fun m => by simp only [maxInt64, id, hmin, hmax]; omega) n
  have hnegative := map_readDigits_eq_ok (maxInt64 + 1) .tooSmall Neg.neg
    (fun m => by simp only [maxInt64, hmin, hmax]; omega) n
  rw [readInt64.eq_def]
  split
  · simp [numeral_unsigned_iff]
  · simp [numeral_plus_iff]
  · simp [numeral_minus_iff]
  · rename_i ds hne
    have hne' : ds ≠ [] := fun h => hne (by rw [h])
    rw [numeral_plus_iff, and_iff_right hne']
    exact hnatural ds
  · rename_i ds hne
    have hne' : ds ≠ [] := fun h => hne (by rw [h])
    rw [numeral_minus_iff, and_iff_right hne']
    exact hnegative ds
  · rename_i hne _ _ hplus hminus
    rw [numeral_unsigned_iff (fun ds h => hplus ds h) (fun ds h => hminus ds h), and_iff_right hne]
    exact hnatural cs

theorem numeral_int64Text (n : Int64) : Numeral (int64Text n).toList n.toInt := by
  have hnatural (m : Nat) : ∀ c ∈ Nat.toDigits 10 m, c.isDigit := fun c hc =>
    Nat.isDigit_of_mem_toDigits (by decide) (by decide) hc
  rw [int64Text]
  cases n.toInt with
  | ofNat m =>
    change Numeral (Nat.repr m).toList m
    rw [Nat.toList_repr]
    have h := Numeral.unsigned Nat.toDigits_ne_nil (hnatural m)
    rwa [Nat.ofDigitChars_toDigits (by decide) (by decide)] at h
  | negSucc m =>
    change Numeral ("-" ++ Nat.repr (m + 1)).toList (-(m + 1 : Nat))
    rw [String.toList_append, Nat.toList_repr]
    have h := Numeral.negative Nat.toDigits_ne_nil (hnatural (m + 1))
    rwa [Nat.ofDigitChars_toDigits (by decide) (by decide)] at h

theorem int64Text_ofNat {n : Nat} (h : n ≤ maxInt64) : int64Text (.ofNat n) = toString n := by
  rw [int64Text, Int64.toInt_ofNat_of_lt (Nat.lt_succ_of_le h)]
  rfl

theorem Numeral.ne_nil {cs : List Char} {n : Int} (h : Numeral cs n) : cs ≠ [] := by
  cases h with
  | unsigned hne => exact hne
  | positive => exact List.cons_ne_nil _ _
  | negative => exact List.cons_ne_nil _ _

theorem Numeral.not_isBlank {cs : List Char} {n : Int} (h : Numeral cs n) :
    ∀ c ∈ cs, ¬ isBlank c := by
  have hdigit (c : Char) (hc : c.isDigit) : ¬ isBlank c := by
    simp only [Char.isDigit, Bool.and_eq_true, decide_eq_true_eq, ge_iff_le,
      UInt32.le_iff_toNat_le] at hc
    obtain ⟨hlow, hhigh⟩ := hc
    change 48 ≤ c.toNat at hlow
    change c.toNat ≤ 57 at hhigh
    simp only [isBlank, Bool.or_eq_true, Bool.and_eq_true, beq_iff_eq, decide_eq_true_eq]
    omega
  cases h with
  | unsigned hne hds => exact fun c hc => hdigit c (hds c hc)
  | positive hne hds => exact List.forall_mem_cons.mpr ⟨by decide, fun c hc => hdigit c (hds c hc)⟩
  | negative hne hds => exact List.forall_mem_cons.mpr ⟨by decide, fun c hc => hdigit c (hds c hc)⟩

theorem trimmed_int64Text (n : Int64) : trimmed (int64Text n).toList = (int64Text n).toList := by
  have hblank := (numeral_int64Text n).not_isBlank
  exact trimmed_eq_self_iff.mpr ⟨fun c hc => hblank c (List.mem_of_mem_head? hc), fun c hc =>
    hblank c (List.mem_of_mem_getLast? hc)⟩

end RemoteServices.Text
