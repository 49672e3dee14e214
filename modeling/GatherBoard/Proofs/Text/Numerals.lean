import GatherBoard.Text.Digit
import Mathlib.Algebra.Group.Nat.Defs
import Mathlib.Data.List.Basic

/-!
# Numerals and their values

An integer in base ten is read as itself, and a word is none. A numeral of any script
writes a number that needs no more digits in base ten, so what was short enough to be
read is short enough to be read again.
-/

namespace GatherBoard.Text

/-- A decimal digit is worth at most nine. -/
theorem digitValue_le (c : Char) : digitValue c ≤ 9 := by
  unfold digitValue
  cases h : digitValue? c with
  | none => exact Nat.zero_le 9
  | some value =>
    rw [Option.getD_some]
    unfold digitValue? at h
    by_cases ha : c.toNat < 128
    · simp only [ha, ↓reduceIte, Option.ite_none_right_eq_some, Bool.and_eq_true,
        decide_eq_true_eq, Option.some.injEq] at h
      omega
    · simp only [ha, ↓reduceIte, Option.map_eq_some_iff] at h
      obtain ⟨start, hs, rfl⟩ := h
      have hp := List.find?_some hs
      simp only [Bool.and_eq_true, decide_eq_true_eq] at hp
      omega

/-- A run of digits writes a number below the power of ten of its length. -/
theorem digitsValue_lt (t : Text) : digitsValue t < 10 ^ t.length := by
  have hg (n : Nat) : t.foldl (fun n c => 10 * n + digitValue c) n < (n + 1) * 10 ^ t.length := by
    induction t generalizing n with
    | nil => simp
    | cons c t ih =>
      have hc := digitValue_le c
      have hi := ih (10 * n + digitValue c)
      have hm : (10 * n + digitValue c + 1) * 10 ^ t.length ≤ (10 * (n + 1)) * 10 ^ t.length :=
        Nat.mul_le_mul_right _ (by omega)
      have he : (10 * (n + 1)) * 10 ^ t.length = (n + 1) * 10 ^ (t.length + 1) := by
        rw [Nat.pow_succ, Nat.mul_comm 10 (n + 1), Nat.mul_assoc, Nat.mul_comm 10]
      rw [List.foldl_cons, List.length_cons, ← he]
      omega
  have h := hg 0
  rwa [Nat.zero_add, Nat.one_mul] at h

/-- The number that some digits write needs no more digits. -/
theorem length_ofNat_digitsValue_le {t : Text} (ht : t ≠ []) :
    (ofNat (digitsValue t)).length ≤ t.length :=
  (Nat.length_toDigits_le_iff (by decide) (List.length_pos_iff.mpr ht)).mpr (digitsValue_lt t)

/-- The ASCII digits are worth what they are worth. -/
theorem digitValue?_of_isDigit {c : Char} (h : c.isDigit = true) :
    digitValue? c = some (c.toNat - '0'.toNat) := by
  have hb : '0'.toNat ≤ c.toNat ∧ c.toNat ≤ '9'.toNat := Char.isDigit_iff_toNat.mp h
  have h0 : '0'.toNat = 48 := rfl
  have h9 : '9'.toNat = 57 := rfl
  have hs : c.toNat < 128 := by omega
  have hr : (48 ≤ c.toNat && c.toNat ≤ 57) = true := by
    rw [Bool.and_eq_true, decide_eq_true_iff, decide_eq_true_iff]
    omega
  unfold digitValue?
  rw [h0, if_pos hs, if_pos hr]

/-- The characters of a number in base ten are ASCII digits. -/
theorem isDigit_of_mem_ofNat {n : Nat} {c : Char} (h : c ∈ ofNat n) : c.isDigit = true :=
  Nat.isDigit_of_mem_toDigits (by decide) (by decide) h

/-- A number in base ten is a run of digits. -/
theorem isDigits_ofNat (n : Nat) : isDigits (ofNat n) = true := by
  have hne : ofNat n ≠ [] := Nat.toDigits_ne_nil
  have hall : ∀ c ∈ ofNat n, isDigit c = true := by
    intro c hc
    rw [isDigit, digitValue?_of_isDigit (isDigit_of_mem_ofNat hc), Option.isSome_some]
  rw [isDigits, Bool.and_eq_true, Bool.not_eq_true', List.isEmpty_eq_false_iff, List.all_eq_true]
  exact ⟨hne, hall⟩

/-- A number in base ten writes this number. -/
theorem digitsValue_ofNat (n : Nat) : digitsValue (ofNat n) = n := by
  have hf : digitsValue (ofNat n) = Nat.ofDigitChars 10 (ofNat n) 0 := by
    unfold digitsValue
    rw [Nat.ofDigitChars_eq_foldl]
    refine List.foldl_ext _ _ 0 (fun m c hc => ?_)
    rw [digitValue, digitValue?_of_isDigit (isDigit_of_mem_ofNat hc), Option.getD_some]
  rw [hf, ofNat, Nat.ofDigitChars_ten_toDigits]

/-- A letter is no digit. -/
theorem isDigit_of_isLetter {c : Char} (h : isLetter c = true) : isDigit c = false := by
  have hb : c.toNat < 128 ∧ ¬ (48 ≤ c.toNat ∧ c.toNat ≤ 57) := by
    have hA : 'A'.toNat = 65 := rfl
    have hZ : 'Z'.toNat = 90 := rfl
    have ha : 'a'.toNat = 97 := rfl
    have hz : 'z'.toNat = 122 := rfl
    simp only [isLetter, Bool.or_eq_true, Bool.and_eq_true, decide_eq_true_eq, Char.le_def,
      UInt32.le_iff_toNat_le] at h
    change 'A'.toNat ≤ c.toNat ∧ c.toNat ≤ 'Z'.toNat ∨ 'a'.toNat ≤ c.toNat ∧ c.toNat ≤ 'z'.toNat at h
    omega
  simp only [isDigit, digitValue?, if_pos hb.1, Bool.and_eq_true, decide_eq_true_eq, if_neg hb.2,
    Option.isSome_none]

namespace Numeral

/-- A text that begins with a letter is no integer. -/
theorem read?_of_isLetter {c : Char} (h : isLetter c = true) (rest : Text) :
    read? (c :: rest) = none := by
  have hminus : c ≠ '-' := by
    rintro rfl
    exact absurd h (by decide)
  have hplus : c ≠ '+' := by
    rintro rfl
    exact absurd h (by decide)
  simp [read?, isDigits, hminus, hplus, isDigit_of_isLetter h]

/-- What is read of a run of digits is the run. -/
theorem read?_of_isDigits {t : Text} (h : isDigits t = true) : read? t = some ⟨false, t⟩ := by
  have hm : ∀ rest, t ≠ '-' :: rest := by
    rintro rest rfl
    simp [isDigits, show isDigit '-' = false by decide] at h
  have hp : ∀ rest, t ≠ '+' :: rest := by
    rintro rest rfl
    simp [isDigits, show isDigit '+' = false by decide] at h
  unfold read?
  split
  next negative digits heq =>
    split at heq
    · exact absurd rfl (hm _)
    · exact absurd rfl (hp _)
    · cases heq
      rw [if_pos h]

/-- What is read of a minus sign and a run of digits is the run, marked as negative. -/
theorem read?_minus {t : Text} (h : isDigits t = true) : read? ('-' :: t) = some ⟨true, t⟩ := by
  simp [read?, h]

/-- An integer in base ten is read as this integer. -/
theorem exists_read?_ofInt (n : Int) :
    ∃ numeral, read? (ofInt n) = some numeral ∧ numeral.value = n ∧
      numeral.digits = ofNat n.natAbs := by
  cases n with
  | ofNat m =>
    refine ⟨⟨false, ofNat m⟩, read?_of_isDigits (isDigits_ofNat m), ?_, rfl⟩
    simp [value, digitsValue_ofNat]
  | negSucc m =>
    refine ⟨⟨true, ofNat (m + 1)⟩, read?_minus (isDigits_ofNat (m + 1)), ?_, rfl⟩
    simp only [value, ↓reduceIte, digitsValue_ofNat]
    omega

/-- A numeral that was read has its digits at the end of the text. -/
theorem digits_of_read? {t : Text} {numeral : Numeral} (h : read? t = some numeral) :
    isDigits numeral.digits = true ∧ numeral.digits <:+ t := by
  unfold read? at h
  split at h
  next negative digits heq =>
    rw [Option.ite_none_right_eq_some, Option.some.injEq] at h
    obtain ⟨hd, rfl⟩ := h
    refine ⟨hd, ?_⟩
    split at heq
    · cases heq
      exact List.suffix_cons _ _
    · cases heq
      exact List.suffix_cons _ _
    · cases heq
      exact List.suffix_refl _

/-- The value of a numeral needs no more digits than the numeral. -/
theorem length_ofNat_natAbs_value_le {numeral : Numeral} (h : numeral.digits ≠ []) :
    (ofNat numeral.value.natAbs).length ≤ numeral.digits.length := by
  have hv : numeral.value.natAbs = digitsValue numeral.digits := by
    unfold value
    split <;> simp
  rw [hv]
  exact length_ofNat_digitsValue_le h

/-- A numeral that is short has a value in base ten that is read again as a short one. -/
theorem exists_read?_ofInt_value {t : Text} {numeral : Numeral} (h : read? t = some numeral)
    (hs : numeral.isShort = true) :
    ∃ numeral', read? (ofInt numeral.value) = some numeral' ∧ numeral'.value = numeral.value ∧
      numeral'.isShort = true := by
  obtain ⟨numeral', hr, hv, hd⟩ := exists_read?_ofInt numeral.value
  refine ⟨numeral', hr, hv, ?_⟩
  have hne : numeral.digits ≠ [] := by
    rintro he
    have hdigits := (digits_of_read? h).1
    simp [he, isDigits] at hdigits
  rw [isShort, decide_eq_true_iff] at hs ⊢
  rw [hd]
  exact Nat.le_trans (length_ofNat_natAbs_value_le hne) hs

end Numeral

end GatherBoard.Text
