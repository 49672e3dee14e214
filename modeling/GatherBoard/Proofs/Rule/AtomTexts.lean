import GatherBoard.Proofs.Rule.Signs
import GatherBoard.Text.Blank

/-!
# Canonical texts of atoms

An atom that was read is read again from its canonical text. The field's name is made of
letters, so that the first sign of the text is the one that was written, and neither side
of it is taken for the other. The canonical text holds nothing that would cut it in a
header if the text that was read held nothing of the kind.
-/

namespace GatherBoard

/-- A text that a header can hold as one atom: it has no white space and no separator. -/
def IsPlain (t : Text) : Prop := ∀ c ∈ t, Text.isBlank c = false ∧ c ≠ '&' ∧ c ≠ '|'

/-- Whether a text is plain is told character by character. -/
instance (t : Text) : Decidable (IsPlain t) :=
  decidable_of_iff (t.all fun c => !Text.isBlank c && c != '&' && c != '|') (by
    simp [IsPlain, and_assoc])

/-- Two texts are plain together. -/
theorem isPlain_append {s t : Text} : IsPlain (s ++ t) ↔ IsPlain s ∧ IsPlain t :=
  List.forall_mem_append

/-- A text in a plain text is plain. -/
theorem IsPlain.of_infix {s t : Text} (ht : IsPlain t) (h : s <:+: t) : IsPlain s :=
  fun c hc => ht c (h.subset hc)

/-- A plain text has no line break. -/
theorem IsPlain.not_mem {t : Text} (ht : IsPlain t) : '\n' ∉ t := by
  intro hm
  have hb := (ht _ hm).1
  exact absurd hb (by decide)

/-- An integer in base ten is plain. -/
theorem isPlain_ofInt (n : Int) : IsPlain (Text.ofInt n) := by
  have hd (m : Nat) : IsPlain (Text.ofNat m) := by
    intro c hc
    have hb : '0'.toNat ≤ c.toNat ∧ c.toNat ≤ '9'.toNat :=
      Char.isDigit_iff_toNat.mp (Text.isDigit_of_mem_ofNat hc)
    have h0 : '0'.toNat = 48 := rfl
    have h9 : '9'.toNat = 57 := rfl
    refine ⟨?_, ?_, ?_⟩
    · simp only [Text.isBlank, Bool.or_eq_false_iff, Bool.and_eq_false_iff,
        decide_eq_false_iff_not, beq_eq_false_iff_ne]
      omega
    · rintro rfl
      have hm : '&'.toNat = 38 := rfl
      omega
    · rintro rfl
      have hm : '|'.toNat = 124 := rfl
      omega
  cases n with
  | ofNat m => exact hd m
  | negSucc m =>
    have hminus : IsPlain ['-'] := by decide
    exact isPlain_append.mpr ⟨hminus, hd (m + 1)⟩

/-- The label of a field is plain. -/
theorem Field.isPlain_label (field : Field) : IsPlain field.label := by
  cases field <;> decide

/-- The sign of a comparison is plain. -/
theorem Comparison.isPlain_sign (comparison : Comparison) : IsPlain comparison.sign := by
  cases comparison <;> decide

/-- The names of a field are plain. -/
theorem Field.isPlain_of_mem_names {field : Field} {name : Text} (h : name ∈ field.names) :
    IsPlain name := by
  revert name
  cases field <;> decide

/-- The label of a field is made of letters. -/
theorem Field.isLetter_of_mem_label {field : Field} {c : Char} (h : c ∈ field.label) :
    Text.isLetter c = true := by
  have hl : field.label.all Text.isLetter = true := by cases field <;> decide
  exact List.all_eq_true.mp hl c h

namespace Atom

/-- A letter is no sign, no exclamation mark and no line break. -/
theorem ne_of_isLetter {c : Char} (h : Text.isLetter c = true) :
    c ≠ '!' ∧ c ≠ '=' ∧ c ≠ '<' ∧ c ≠ '>' ∧ c ≠ '\n' := by
  refine ⟨?_, ?_, ?_, ?_, ?_⟩ <;>
  · rintro rfl
    revert h
    decide

/-- A mark before a letter is all that is taken off. -/
theorem stripNegation_mark_of_isLetter {c : Char} (hc : Text.isLetter c = true) (negated : Bool)
    (rest : Text) : stripNegation false (mark negated ++ c :: rest) = (negated, c :: rest) := by
  obtain ⟨hmark, heq, -⟩ := ne_of_isLetter hc
  cases negated <;> simp [mark, stripNegation, hmark, heq]

/-- A text without line breaks has its sides in all of it. -/
theorem sides?_of_not_mem {t : Text} (h : '\n' ∉ t) : sides? t = cutAtSign? t := by
  have hc : ¬ t.contains '\n' = true := by simpa using h
  simp only [sides?]
  rw [Text.dropFinalBreak_of_not_mem h, if_neg hc]

/-- A field's label, a sign and a value in one line are the sides of the sign. -/
theorem sides?_written (field : Field) (comparison : Comparison) {value : Text}
    (hv : '\n' ∉ value) :
    sides? (field.label ++ comparison.sign ++ value) = some (field.label, comparison, value) := by
  have hbreak : '\n' ∉ field.label ++ comparison.sign ++ value := by
    rw [List.mem_append, List.mem_append]
    rintro ((hm | hm) | hm)
    · exact (ne_of_isLetter (Field.isLetter_of_mem_label hm)).2.2.2.2 rfl
    · revert hm
      cases comparison <;> decide
    · exact hv hm
  rw [sides?_of_not_mem hbreak]
  exact cutAtSign?_operand (isOperand_of_letters fun c => Field.isLetter_of_mem_label) comparison value

/-- What is written of a field is read with the field's label as the keyword. -/
theorem read_written (negated : Bool) (field : Field) (comparison : Comparison) {value : Text}
    (hv : '\n' ∉ value) :
    read (mark negated ++ (field.label ++ comparison.sign ++ value)) =
      ofSides negated field.label comparison value := by
  obtain ⟨c, rest, hl⟩ : ∃ c rest, field.label = c :: rest :=
    List.exists_cons_of_ne_nil (by cases field <;> decide)
  have hc : Text.isLetter c = true := Field.isLetter_of_mem_label (hl ▸ List.mem_cons_self)
  have hstrip : stripNegation false (mark negated ++ (field.label ++ comparison.sign ++ value)) =
      (negated, field.label ++ comparison.sign ++ value) := by
    rw [hl]
    exact stripNegation_mark_of_isLetter hc negated _
  have hne : field.label ++ comparison.sign ++ value ≠ [] := by simp [hl]
  have hreversed : isReversed field.label comparison value = false := by
    rw [isReversed, hl, Text.Numeral.read?_of_isLetter hc, Option.isSome_none, Bool.and_false,
      Bool.false_and, Bool.false_and]
  rw [read_of_sides hstrip hne (sides?_written field comparison hv), hreversed,
    if_neg Bool.false_ne_true]

/-- A label names its field. -/
theorem fieldOf?_label {field : Field} (h : field ≠ .person) :
    fieldOf? field.label = some field := by
  cases field with
  | person => exact absurd rfl h
  | dayOffset => decide
  | weekday => decide
  | weekdayNum => decide
  | month => decide
  | monthNum => decide

/-- The canonical text of an atom of a date. -/
theorem describe_of_ne_person {a : Atom} (h : a.field ≠ .person) :
    a.describe = mark a.negated ++ (a.field.label ++ a.comparison.sign ++ a.value.text) := by
  obtain ⟨field, comparison, value, negated⟩ := a
  cases field with
  | person => exact absurd rfl h
  | dayOffset | weekday | weekdayNum | month | monthNum => rfl

/-- A numeric field is a field of dates. -/
theorem ne_person_of_isNumeric {field : Field} (h : field.isNumeric = true) : field ≠ .person := by
  rintro rfl
  cases h

/-- A field with names is a field of dates, and none of its names has capitals or is empty. -/
theorem spec_of_mem_names {field : Field} {name : Text} (h : name ∈ field.names) :
    field ≠ .person ∧ field.isNumeric = false ∧ Text.lower name = name ∧ name ≠ [] := by
  revert name
  cases field <;> decide

/-- A well-formed atom is read of its canonical text. -/
theorem IsWellFormed.read_describe {a : Atom} (h : a.IsWellFormed) : read a.describe = .ok a := by
  cases h with
  | person named unsigned marked => exact read_of_name marked named unsigned
  | @number field comparison n negated numeric short =>
    obtain ⟨numeral, hr, hv, hs⟩ := short
    have hp := ne_person_of_isNumeric numeric
    have hne : Text.ofInt n ≠ [] := by
      intro hn
      rw [hn] at hr
      cases hr
    rw [describe_of_ne_person hp]
    exact (read_written negated field comparison (isPlain_ofInt n).not_mem).trans
      (ofSides_eq_ok_iff.mpr ⟨field, fieldOf?_label hp, hne,
        Or.inl ⟨numeric, numeral, hr, hs, by rw [hv]⟩⟩)
  | @name field comparison name negated unordered known =>
    obtain ⟨hp, hn, hl, hne⟩ := spec_of_mem_names known
    rw [describe_of_ne_person hp]
    exact (read_written negated field comparison (Field.isPlain_of_mem_names known).not_mem).trans
      (ofSides_eq_ok_iff.mpr ⟨field, fieldOf?_label hp, hne,
        Or.inr ⟨hn, unordered, hl.symm ▸ known, by rw [hl]⟩⟩)

/-- The well-formed atoms are those that some text is read as. -/
theorem isWellFormed_iff {a : Atom} : a.IsWellFormed ↔ ∃ t, read t = .ok a := by
  constructor
  · exact fun h => ⟨a.describe, h.read_describe⟩
  · rintro ⟨t, h⟩
    exact isWellFormed_of_read h

/-- A person's name that is read stands in the text. -/
theorem infix_of_read_person {t : Text} {a : Atom} (h : read t = .ok a) (hf : a.field = .person) :
    a.value.text <:+: t := by
  obtain hm | ⟨negated, name, -, -, -, hi, hp⟩ | ⟨negated, keyword, comparison, value, -, ho⟩ :=
    read_cases t
  · rw [hm] at h
    cases h
  · rw [hp, Except.ok.injEq] at h
    subst h
    exact hi
  · rw [ho] at h
    obtain ⟨field, hk, -, ⟨-, numeral, -, -, rfl⟩ | ⟨-, -, -, rfl⟩⟩ := ofSides_eq_ok_iff.mp h
    · exact absurd hf (ne_person_of_fieldOf? hk)
    · exact absurd hf (ne_person_of_fieldOf? hk)

/-- A mark is plain. -/
theorem isPlain_mark (negated : Bool) : IsPlain (mark negated) := by
  cases negated <;> decide

/-- What is read of a plain text has a plain canonical text. -/
theorem isPlain_describe {t : Text} {a : Atom} (h : read t = .ok a) (ht : IsPlain t) :
    IsPlain a.describe := by
  have hdate (hp : a.field ≠ .person) (hv : IsPlain a.value.text) : IsPlain a.describe := by
    rw [describe_of_ne_person hp, isPlain_append, isPlain_append, isPlain_append]
    exact ⟨isPlain_mark a.negated, ⟨a.field.isPlain_label, a.comparison.isPlain_sign⟩, hv⟩
  cases isWellFormed_of_read h with
  | person named unsigned marked =>
    exact isPlain_append.mpr ⟨isPlain_mark _, ht.of_infix (infix_of_read_person h rfl)⟩
  | number numeric short => exact hdate (ne_person_of_isNumeric numeric) (isPlain_ofInt _)
  | name unordered known =>
    exact hdate (spec_of_mem_names known).1 (Field.isPlain_of_mem_names known)

/-- The canonical text of a well-formed atom is not empty. -/
theorem describe_ne_nil {a : Atom} (h : a.IsWellFormed) : a.describe ≠ [] := by
  intro he
  have hr := h.read_describe
  rw [he] at hr
  cases hr

end Atom

end GatherBoard
