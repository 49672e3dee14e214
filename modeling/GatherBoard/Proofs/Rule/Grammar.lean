import GatherBoard.Proofs.Rule.AtomTexts

/-!
# The grammar of atoms

An atom in writing is a person's name without a sign, or a keyword, a sign and a value, or an
integer, an order sign and a keyword. A text is read as an atom exactly if it is one by this
grammar once its exclamation marks are taken off, and there is one cause or another against
every other text.
-/

namespace GatherBoard

/-- The keywords of the fields that are compared with integers. -/
def numericKeywords : List (Text × Field) :=
  [("day".toList, .dayOffset), ("dayoffset".toList, .dayOffset),
    ("weekdaynum".toList, .weekdayNum), ("monthnum".toList, .monthNum)]

/-- The keywords of the fields that are compared with names, and these names. -/
def nameKeywords : List (Text × Field × List Text) :=
  [("weekday".toList, .weekday, weekdayNames), ("month".toList, .month, monthNames)]

/-- The comparisons of a field with a value in writing, and the atoms that they stand for. -/
inductive SpellsComparison (negated : Bool) : Text → Atom → Prop
  /-- The sign of an order with its field on the right, which is the opposite order. -/
  | reversed {number keyword : Text} {n : Int} {field : Field} {sign opposite : Comparison}
    (integer : Text.WritesInteger number n) (letters : ∀ c ∈ keyword, Text.isLetter c = true)
    (known : (Text.lower keyword, field) ∈ numericKeywords)
    (order : sign = .less ∧ opposite = .greater ∨ sign = .greater ∧ opposite = .less) :
    SpellsComparison negated (number ++ sign.sign ++ keyword)
      ⟨field, opposite, .number n, negated⟩
  /-- A field, any sign and an integer. -/
  | number {keyword number : Text} {n : Int} {field : Field} {sign : Comparison}
    (known : (Text.lower keyword, field) ∈ numericKeywords)
    (integer : Text.WritesInteger number n) :
    SpellsComparison negated (keyword ++ sign.sign ++ number) ⟨field, sign, .number n, negated⟩
  /-- A field, a sign of equality or inequality and one of the field's names. -/
  | name {keyword value : Text} {field : Field} {names : List Text} {sign : Comparison}
    (known : (Text.lower keyword, field, names) ∈ nameKeywords)
    (listed : Text.lower value ∈ names) (equality : sign = .equal ∨ sign = .notEqual) :
    SpellsComparison negated (keyword ++ sign.sign ++ value)
      ⟨field, sign, .name (Text.lower value), negated⟩

/-- The atoms in writing, without the exclamation marks in front of them. -/
inductive Spells (negated : Bool) : Text → Atom → Prop
  /-- A name as it is written. -/
  | person {name : Text} (nonempty : name ≠ []) (unsigned : IsUnsigned name) :
    Spells negated name ⟨.person, .equal, .name name, negated⟩
  /-- A comparison. -/
  | comparison {t : Text} {a : Atom} (h : SpellsComparison negated t a) : Spells negated t a

namespace Atom

variable {keyword left right t body : Text} {field : Field} {negated : Bool}
  {comparison : Comparison} {marks : Nat} {a : Atom}

/-- The keywords that name a field, in either table. -/
theorem mem_keywords_of_fieldOf? (h : fieldOf? keyword = some field) :
    (Text.lower keyword, field) ∈ numericKeywords ∧ field.isNumeric = true ∨
      (Text.lower keyword, field, field.names) ∈ nameKeywords ∧ field.isNumeric = false := by
  simp only [fieldOf?] at h
  generalize Text.lower keyword = k at h ⊢
  split_ifs at h with hday hweekday hweekdayNum hmonth hmonthNum
  · cases h
    rw [Bool.or_eq_true, decide_eq_true_iff, decide_eq_true_iff] at hday
    rcases hday with rfl | rfl <;> decide
  · cases h
    subst hweekday
    decide
  · cases h
    subst hweekdayNum
    decide
  · cases h
    subst hmonth
    decide
  · cases h
    subst hmonthNum
    decide

/-- The keywords of the first table name their field, which is numeric. -/
theorem fieldOf?_of_mem_numericKeywords (h : (Text.lower keyword, field) ∈ numericKeywords) :
    fieldOf? keyword = some field ∧ field.isNumeric = true := by
  simp only [numericKeywords, List.mem_cons, Prod.mk.injEq, List.not_mem_nil, or_false] at h
  obtain ⟨hk, rfl⟩ | ⟨hk, rfl⟩ | ⟨hk, rfl⟩ | ⟨hk, rfl⟩ := h <;>
    exact ⟨by rw [fieldOf?, hk]; decide, rfl⟩

/-- The keywords of the second table name their field, which has the names of the table. -/
theorem fieldOf?_of_mem_nameKeywords {names : List Text}
    (h : (Text.lower keyword, field, names) ∈ nameKeywords) :
    fieldOf? keyword = some field ∧ field.isNumeric = false ∧ field.names = names := by
  simp only [nameKeywords, List.mem_cons, Prod.mk.injEq, List.not_mem_nil, or_false] at h
  obtain ⟨hk, rfl, rfl⟩ | ⟨hk, rfl, rfl⟩ := h <;>
    exact ⟨by rw [fieldOf?, hk]; decide, rfl, rfl⟩

/-- The keywords of both tables are made of letters. -/
theorem isLetter_of_mem_keywords {k : Text} {c : Char}
    (h : k ∈ numericKeywords.map Prod.fst ++ nameKeywords.map Prod.fst) (hc : c ∈ k) :
    Text.isLetter c = true := by
  have hall : (numericKeywords.map Prod.fst ++ nameKeywords.map Prod.fst).all
      (fun k => k.all Text.isLetter) = true := by
    decide
  exact List.all_eq_true.mp (List.all_eq_true.mp hall k h) c hc

/-- The keywords of both tables are operands in any case. -/
theorem isOperand_of_fieldOf? (h : fieldOf? keyword = some field) : IsOperand keyword := by
  refine isOperand_of_lower fun c => isLetter_of_mem_keywords ?_
  rw [List.mem_append]
  rcases mem_keywords_of_fieldOf? h with ⟨hm, -⟩ | ⟨hm, -⟩
  · exact Or.inl (List.mem_map_of_mem hm)
  · exact Or.inr (List.mem_map_of_mem hm)

/-- A keyword is not empty. -/
theorem ne_nil_of_fieldOf? (h : fieldOf? keyword = some field) : keyword ≠ [] := by
  have hnil : fieldOf? [] = none := by decide
  rintro rfl
  rw [hnil] at h
  cases h

/-- A name of a field is an operand in any case. -/
theorem isOperand_of_mem_names (h : Text.lower right ∈ field.names) : IsOperand right := by
  have hall : (weekdayNames ++ monthNames).all (fun name => name.all Text.isLetter) = true := by
    decide
  have hmem : field.names ⊆ weekdayNames ++ monthNames := by
    cases field <;> simp [Field.names]
  exact isOperand_of_lower (List.all_eq_true.mp (List.all_eq_true.mp hall _ (hmem h)))

/-- A comparison is reversed if an integer stands before a sign of order, and letters after. -/
theorem isReversed_iff :
    isReversed left comparison right = true ↔
      comparison.isOrder = true ∧ (∃ n, Text.WritesInteger left n) ∧ right ≠ [] ∧
        ∀ c ∈ right, Text.isLetter c = true := by
  have hi : (Text.Numeral.read? left).isSome = true ↔ ∃ n, Text.WritesInteger left n := by
    simp only [Text.writesInteger_iff, Option.isSome_iff_exists]
    exact ⟨fun ⟨numeral, hr⟩ => ⟨_, numeral, hr, rfl⟩, fun ⟨_, numeral, hr, _⟩ => ⟨numeral, hr⟩⟩
  simp only [isReversed, Bool.and_eq_true, hi, Bool.not_eq_true', List.isEmpty_eq_false_iff,
    List.all_eq_true, and_assoc, ne_eq]

/-- An integer on the right is no keyword. -/
theorem not_isReversed_integer {n : Int} (h : Text.WritesInteger right n) :
    ¬ isReversed left comparison right = true := by
  intro hr
  obtain ⟨c, hc, hl⟩ := h.exists_not_isLetter
  rw [(isReversed_iff.mp hr).2.2.2 c hc] at hl
  cases hl

/-- A sign that is no order is never reversed. -/
theorem not_isReversed_equality (h : comparison.isOrder = false) :
    ¬ isReversed left comparison right = true := by
  rw [isReversed_iff, h]
  exact fun hr => Bool.false_ne_true hr.1

/-- A sign of order becomes the opposite when the sides are exchanged. -/
theorem flipped_of_isOrder (h : comparison.isOrder = true) :
    comparison = .less ∧ comparison.flipped = .greater ∨
      comparison = .greater ∧ comparison.flipped = .less := by
  cases comparison with
  | equal | notEqual => cases h
  | less => exact Or.inl ⟨rfl, rfl⟩
  | greater => exact Or.inr ⟨rfl, rfl⟩

/-- A keyword, a sign and a value that give an atom spell it. -/
theorem spellsComparison_of_ofSides (h : ofSides negated left comparison right = .ok a) :
    SpellsComparison negated (left ++ comparison.sign ++ right) a := by
  obtain ⟨field, hk, -, ⟨hn, numeral, hr, -, rfl⟩ | ⟨hn, ho, hm, rfl⟩⟩ := ofSides_eq_ok_iff.mp h
  · obtain ⟨known, -⟩ | ⟨-, hn'⟩ := mem_keywords_of_fieldOf? hk
    · exact .number known (Text.writesInteger_iff.mpr ⟨numeral, hr, rfl⟩)
    · rw [hn] at hn'
      cases hn'
  · obtain ⟨-, hn'⟩ | ⟨known, -⟩ := mem_keywords_of_fieldOf? hk
    · rw [hn] at hn'
      cases hn'
    · refine .name known hm ?_
      cases comparison with
      | equal => exact Or.inl rfl
      | notEqual => exact Or.inr rfl
      | less | greater => cases ho

/-- An integer, a sign of order and a keyword that give an atom spell it. -/
theorem spellsComparison_of_isReversed (hrev : isReversed left comparison right = true)
    (h : ofSides negated right comparison.flipped left = .ok a) :
    SpellsComparison negated (left ++ comparison.sign ++ right) a := by
  obtain ⟨ho, -, -, hl⟩ := isReversed_iff.mp hrev
  obtain ⟨field, hk, -, ⟨hn, numeral, hr, -, rfl⟩ | ⟨-, ho', -⟩⟩ := ofSides_eq_ok_iff.mp h
  · obtain ⟨known, -⟩ | ⟨-, hn'⟩ := mem_keywords_of_fieldOf? hk
    · exact .reversed (Text.writesInteger_iff.mpr ⟨numeral, hr, rfl⟩) hl known
        (flipped_of_isOrder ho)
    · rw [hn] at hn'
      cases hn'
  · rcases flipped_of_isOrder ho with ⟨-, hf⟩ | ⟨-, hf⟩ <;>
    · rw [hf] at ho'
      cases ho'

/-- A text in one line has no sides exactly if it has no sign. -/
theorem sides?_eq_none_iff (h : '\n' ∉ t) : sides? t = none ↔ IsUnsigned t := by
  rw [sides?_of_not_mem h, cutAtSign?_eq_none_iff]

/-- What is read of a text in one line is spelled by it. -/
theorem spells_of_read (hs : IsStripped t marks body) (hline : '\n' ∉ body) (h : read t = .ok a) :
    Spells (isOdd marks) body a := by
  have hb : stripNegation false t = (isOdd marks, body) := by
    rw [stripNegation_of_isStripped hs, Bool.false_xor]
  by_cases hne : body = []
  · simp [read, hb, hne] at h
  · cases hsides : sides? body with
    | none =>
      rw [read_of_name hb hne hsides, Except.ok.injEq] at h
      subst h
      exact .person hne ((sides?_eq_none_iff hline).mp hsides)
    | some sides =>
      obtain ⟨left, comparison, right⟩ := sides
      rw [read_of_sides hb hne hsides] at h
      rw [sides?_of_not_mem hline] at hsides
      rw [eq_of_cutAtSign? hsides]
      split at h
      next hrev => exact .comparison (spellsComparison_of_isReversed hrev h)
      next => exact .comparison (spellsComparison_of_ofSides h)

/-- No run of digits in the text is longer than a numeral may be. -/
def HasShortNumerals (t : Text) : Prop :=
  ∀ digits, digits <:+: t → Text.isDigits digits = true → digits.length ≤ Text.maxDigits

/-- A text that is no longer than a numeral may be has short numerals only. -/
theorem hasShortNumerals_of_length (h : t.length ≤ Text.maxDigits) : HasShortNumerals t :=
  fun _ hi _ => Nat.le_trans hi.length_le h

/-- A keyword of a numeric field and an integer that is short are an atom. -/
theorem ofSides_number {number : Text} {n : Int}
    (known : (Text.lower keyword, field) ∈ numericKeywords) (integer : Text.WritesInteger number n)
    (hi : number <:+: t) (hshort : HasShortNumerals t) :
    ofSides negated keyword comparison number = .ok ⟨field, comparison, .number n, negated⟩ := by
  obtain ⟨hk, hn⟩ := fieldOf?_of_mem_numericKeywords known
  obtain ⟨numeral, hr, rfl⟩ := Text.writesInteger_iff.mp integer
  obtain ⟨hdigits, hsuffix⟩ := Text.Numeral.digits_of_read? hr
  have hs : numeral.isShort = true :=
    decide_eq_true (hshort _ ((List.IsSuffix.isInfix hsuffix).trans hi) hdigits)
  refine ofSides_eq_ok_iff.mpr ⟨field, hk, ?_, Or.inl ⟨hn, numeral, hr, hs, rfl⟩⟩
  rintro rfl
  cases hr

/-- A comparison is read of its spelling after any marks, if its numerals are short. -/
theorem read_of_spellsComparison (marks : Nat) (h : SpellsComparison (isOdd marks) body a)
    (hi : body <:+: t) (hshort : HasShortNumerals t) :
    read (List.replicate marks '!' ++ body) = .ok a := by
  cases h with
  | @reversed number keyword n field sign opposite integer letters known order =>
    have hkeyword := ne_nil_of_fieldOf? (fieldOf?_of_mem_numericKeywords known).1
    have hl := isOperand_of_writesInteger integer
    have hr := isOperand_of_letters letters
    obtain ⟨horder, hopposite⟩ : sign.isOrder = true ∧ sign.flipped = opposite := by
      rcases order with ⟨rfl, rfl⟩ | ⟨rfl, rfl⟩ <;> exact ⟨rfl, rfl⟩
    have hreversed := isReversed_iff.mpr ⟨horder, ⟨n, integer⟩, hkeyword, letters⟩
    have hnumber : number <:+: t := by
      rw [List.append_assoc] at hi
      exact (List.IsPrefix.isInfix (List.prefix_append _ _)).trans hi
    rw [read_operands marks hl integer.ne_nil sign hr, if_pos hreversed, hopposite]
    exact ofSides_number known integer hnumber hshort
  | @number keyword number n field sign known integer =>
    have hk := (fieldOf?_of_mem_numericKeywords known).1
    have hr := isOperand_of_writesInteger integer
    have hnumber : number <:+: t := (List.IsSuffix.isInfix (List.suffix_append _ _)).trans hi
    rw [read_operands marks (isOperand_of_fieldOf? hk) (ne_nil_of_fieldOf? hk) sign hr,
      if_neg (not_isReversed_integer integer)]
    exact ofSides_number known integer hnumber hshort
  | @name keyword value field names sign known listed equality =>
    obtain ⟨hk, hn, rfl⟩ := fieldOf?_of_mem_nameKeywords known
    have hr := isOperand_of_mem_names listed
    have horder : sign.isOrder = false := by rcases equality with rfl | rfl <;> rfl
    have hvalue : value ≠ [] := by
      rintro rfl
      exact (spec_of_mem_names listed).2.2.2 rfl
    rw [read_operands marks (isOperand_of_fieldOf? hk) (ne_nil_of_fieldOf? hk) sign hr,
      if_neg (not_isReversed_equality horder)]
    exact ofSides_eq_ok_iff.mpr ⟨field, hk, hvalue, Or.inr ⟨hn, horder, listed, rfl⟩⟩

/-- What a text in one line spells is read of it if its numerals are short. -/
theorem read_of_spells (hs : IsStripped t marks body) (hline : '\n' ∉ body)
    (hshort : HasShortNumerals t) (h : Spells (isOdd marks) body a) : read t = .ok a := by
  cases h with
  | person nonempty unsigned =>
    have hb := stripNegation_of_isStripped hs false
    rw [Bool.false_xor] at hb
    exact read_of_name hb nonempty ((sides?_eq_none_iff hline).mpr unsigned)
  | comparison h =>
    rw [hs.eq] at hshort ⊢
    exact read_of_spellsComparison marks h (List.IsSuffix.isInfix (List.suffix_append _ _)) hshort

/-- A text in one line whose numerals are short is read as an atom exactly if it is one by the
grammar once its exclamation marks are taken off, each of which turns the outcome around. There
is one way to take them off. Every other text is malformed for some cause. -/
theorem read_grammar (hline : '\n' ∉ t) (hshort : HasShortNumerals t) :
    ∃ marks body, IsStripped t marks body ∧
      (∀ marks' body', IsStripped t marks' body' → marks' = marks ∧ body' = body) ∧
      (∀ a, read t = .ok a ↔ Spells (isOdd marks) body a) ∧
      ((∀ a, ¬ Spells (isOdd marks) body a) → ∃ cause, read t = .error (.malformed cause)) := by
  obtain ⟨marks, body, hs⟩ := exists_isStripped t
  have hbody := hs.not_mem hline
  have hiff : ∀ a, read t = .ok a ↔ Spells (isOdd marks) body a :=
    fun a => ⟨spells_of_read hs hbody, fun h => read_of_spells hs hbody hshort h⟩
  refine ⟨marks, body, hs, fun marks' body' hs' => hs'.unique hs, hiff, fun hno => ?_⟩
  cases hr : read t with
  | ok a => exact absurd ((hiff a).mp hr) (hno a)
  | error cause =>
    cases cause with
    | malformed cause => exact ⟨cause, rfl⟩
    | overlong count =>
      obtain ⟨digits, hi, hd, hlen, hlt⟩ := exists_digits_of_read hr
      have hle := hshort digits hi hd
      omega

/-- A text with three marks, its field on the right and a zero in another script. -/
def overdueText : Text := "!!!-٠3<DayOffset".toList

/-- It is an atom by the grammar. -/
theorem overdueText_grammar :
    '\n' ∉ overdueText ∧ HasShortNumerals overdueText ∧
    read overdueText = .ok ⟨.dayOffset, .greater, .number (-3), true⟩ ∧
    ∃ marks body, IsStripped overdueText marks body ∧
      (∀ marks' body', IsStripped overdueText marks' body' → marks' = marks ∧ body' = body) ∧
      (∀ a, read overdueText = .ok a ↔ Spells (isOdd marks) body a) ∧
      ((∀ a, ¬ Spells (isOdd marks) body a) →
        ∃ cause, read overdueText = .error (.malformed cause)) := by
  have hline : '\n' ∉ overdueText := by decide
  have hshort : HasShortNumerals overdueText := hasShortNumerals_of_length (by decide)
  exact ⟨hline, hshort, by decide, read_grammar hline hshort⟩

end Atom

end GatherBoard
