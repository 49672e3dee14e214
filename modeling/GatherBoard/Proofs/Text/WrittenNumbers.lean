import GatherBoard.Proofs.Text.Numerals
import Mathlib.Data.List.Induction

/-!
# Which texts write a number

A run of decimal digits writes a natural number, each further digit after ten times what
came before it. With a sign or without one it writes an integer. These are the texts that
are read as numerals, and none of them holds a sign of a comparison.
-/

namespace GatherBoard.Text

/-- The text is a run of decimal digits that writes this number. -/
inductive WritesNumber : Text → Nat → Prop
  | digit {c : Char} {d : Nat} (value : digitValue? c = some d) : WritesNumber [c] d
  | more {t : Text} {n d : Nat} {c : Char} (before : WritesNumber t n)
    (value : digitValue? c = some d) : WritesNumber (t ++ [c]) (10 * n + d)

/-- The text writes this integer. -/
inductive WritesInteger : Text → Int → Prop
  | plain {t : Text} {n : Nat} (digits : WritesNumber t n) : WritesInteger t n
  | plus {t : Text} {n : Nat} (digits : WritesNumber t n) : WritesInteger ('+' :: t) n
  | minus {t : Text} {n : Nat} (digits : WritesNumber t n) : WritesInteger ('-' :: t) (-n)

/-- A further digit comes after ten times the number before it. -/
theorem digitsValue_concat (t : Text) (c : Char) :
    digitsValue (t ++ [c]) = 10 * digitsValue t + digitValue c := by
  rw [digitsValue, List.foldl_append, List.foldl_cons, List.foldl_nil, digitsValue]

/-- A character is a digit if it has the value of one. -/
theorem isDigit_iff {c : Char} : isDigit c = true ↔ digitValue? c = some (digitValue c) := by
  unfold isDigit digitValue
  cases digitValue? c <;> simp

/-- A run of digits is not empty and has digits only. -/
theorem isDigits_iff {t : Text} : isDigits t = true ↔ t ≠ [] ∧ ∀ c ∈ t, isDigit c = true := by
  rw [isDigits, Bool.and_eq_true, Bool.not_eq_true', List.isEmpty_eq_false_iff, List.all_eq_true]

/-- The texts that write a number are the runs of digits, with the value that they have. -/
theorem writesNumber_iff {t : Text} {n : Nat} :
    WritesNumber t n ↔ isDigits t = true ∧ digitsValue t = n := by
  rw [isDigits_iff]
  constructor
  · intro h
    induction h with
    | @digit c d value =>
      have hc : isDigit c = true := by rw [isDigit, value, Option.isSome_some]
      simp [hc, digitsValue, digitValue, value]
    | @more t n d c before value ih =>
      obtain ⟨⟨-, hall⟩, hn⟩ := ih
      have hc : isDigit c = true := by rw [isDigit, value, Option.isSome_some]
      refine ⟨⟨by simp, ?_⟩, ?_⟩
      · rw [List.forall_mem_append, List.forall_mem_singleton]
        exact ⟨hall, hc⟩
      · rw [digitsValue_concat, hn, digitValue, value, Option.getD_some]
  · rintro ⟨⟨hne, hall⟩, rfl⟩
    induction t using List.reverseRecOn with
    | nil => exact absurd rfl hne
    | append_singleton t c ih =>
      rw [List.forall_mem_append, List.forall_mem_singleton] at hall
      have hvalue := isDigit_iff.mp hall.2
      rw [digitsValue_concat]
      by_cases ht : t = []
      · subst ht
        simpa [digitsValue] using WritesNumber.digit hvalue
      · exact (ih ht hall.1).more hvalue

/-- Zeros in front do not change the number that some digits write. -/
theorem digitsValue_replicate_append (k : Nat) (t : Text) :
    digitsValue (List.replicate k '0' ++ t) = digitsValue t := by
  have hzero : digitValue '0' = 0 := by decide
  induction k with
  | zero => rw [List.replicate_zero, List.nil_append]
  | succ k ih =>
    have hfirst : digitsValue ('0' :: (List.replicate k '0' ++ t)) =
        digitsValue (List.replicate k '0' ++ t) := by
      simp only [digitsValue, List.foldl_cons, hzero, Nat.mul_zero, Nat.add_zero]
    rw [List.replicate_succ, List.cons_append, hfirst, ih]

/-- A number that is filled up with zeros is still written. -/
theorem writesNumber_padded (width n : Nat) : WritesNumber (padded width n) n := by
  have hdigits := isDigits_iff.mp (isDigits_ofNat n)
  have hzero : isDigit '0' = true := by decide
  have hall : ∀ c ∈ padded width n, isDigit c = true := by
    unfold padded
    rw [List.forall_mem_append]
    refine ⟨fun c hc => ?_, hdigits.2⟩
    rw [List.eq_of_mem_replicate hc]
    exact hzero
  have hne : padded width n ≠ [] := by
    unfold padded
    exact List.append_ne_nil_of_right_ne_nil _ hdigits.1
  have hvalue : digitsValue (padded width n) = n := by
    unfold padded
    rw [digitsValue_replicate_append, digitsValue_ofNat]
  exact writesNumber_iff.mpr ⟨isDigits_iff.mpr ⟨hne, hall⟩, hvalue⟩

/-- A number is filled up to the width, unless it needs more digits. -/
theorem length_padded (width n : Nat) : (padded width n).length = max width (ofNat n).length := by
  unfold padded
  rw [List.length_append, List.length_replicate]
  omega

/-- The number of digits that a number needs. -/
theorem length_ofNat_bounds {n k : Nat} (hk : 0 < k) (h : n < 10 ^ k) :
    1 ≤ (ofNat n).length ∧ (ofNat n).length ≤ k := by
  have hne : ofNat n ≠ [] := Nat.toDigits_ne_nil
  exact ⟨List.length_pos_iff.mpr hne, (Nat.length_toDigits_le_iff (by decide) hk).mpr h⟩

/-- The texts that write an integer are those that are read as a numeral of this value. -/
theorem writesInteger_iff {t : Text} {n : Int} :
    WritesInteger t n ↔ ∃ numeral, Numeral.read? t = some numeral ∧ numeral.value = n := by
  constructor
  · intro h
    cases h with
    | plain digits =>
      obtain ⟨hd, rfl⟩ := writesNumber_iff.mp digits
      exact ⟨_, Numeral.read?_of_isDigits hd, rfl⟩
    | plus digits =>
      obtain ⟨hd, rfl⟩ := writesNumber_iff.mp digits
      exact ⟨⟨false, _⟩, by simp [Numeral.read?, hd], rfl⟩
    | minus digits =>
      obtain ⟨hd, rfl⟩ := writesNumber_iff.mp digits
      exact ⟨_, Numeral.read?_minus hd, rfl⟩
  · rintro ⟨numeral, hr, rfl⟩
    unfold Numeral.read? at hr
    split at hr
    next negative digits heq =>
      rw [Option.ite_none_right_eq_some, Option.some.injEq] at hr
      obtain ⟨hd, rfl⟩ := hr
      have hn : WritesNumber digits (digitsValue digits) := writesNumber_iff.mpr ⟨hd, rfl⟩
      split at heq
      · cases heq
        exact .minus hn
      · cases heq
        exact .plus hn
      · cases heq
        exact .plain hn

/-- The characters of a text that writes an integer are digits, or a sign of the integer. -/
theorem WritesInteger.forall_mem {t : Text} {n : Int} (h : WritesInteger t n) :
    ∀ c ∈ t, isDigit c = true ∨ c = '+' ∨ c = '-' := by
  have hdigits {t : Text} {n : Nat} (ht : WritesNumber t n) : ∀ c ∈ t, isDigit c = true :=
    (isDigits_iff.mp (writesNumber_iff.mp ht).1).2
  cases h with
  | plain digits => exact fun c hc => Or.inl (hdigits digits c hc)
  | plus digits =>
    exact List.forall_mem_cons.mpr ⟨Or.inr (Or.inl rfl), fun c hc => Or.inl (hdigits digits c hc)⟩
  | minus digits =>
    exact List.forall_mem_cons.mpr ⟨Or.inr (Or.inr rfl), fun c hc => Or.inl (hdigits digits c hc)⟩

/-- A text that writes an integer is not empty. -/
theorem WritesInteger.ne_nil {t : Text} {n : Int} (h : WritesInteger t n) : t ≠ [] := by
  obtain ⟨numeral, hr, -⟩ := writesInteger_iff.mp h
  rintro rfl
  cases hr

/-- A text that writes an integer is not made of letters. -/
theorem WritesInteger.exists_not_isLetter {t : Text} {n : Int} (h : WritesInteger t n) :
    ∃ c ∈ t, isLetter c = false := by
  obtain ⟨c, rest, rfl⟩ := List.exists_cons_of_ne_nil h.ne_nil
  refine ⟨c, List.mem_cons_self, ?_⟩
  rcases h.forall_mem c List.mem_cons_self with hc | rfl | rfl
  · cases hl : isLetter c with
    | false => rfl
    | true =>
      rw [isDigit_of_isLetter hl] at hc
      cases hc
  · decide
  · decide

end GatherBoard.Text
