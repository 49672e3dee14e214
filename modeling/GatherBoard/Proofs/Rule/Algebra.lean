import GatherBoard.Proofs.Rule.Equivalence
import GatherBoard.Proofs.Rule.Grammar

/-!
# The algebra of atoms

A further exclamation mark turns an atom into its opposite, and two of them change nothing. A
text that is read as a comparison has one sign, with the keyword on one side of it; exchanging
the sign in the text exchanges it in the atom. So a mark in front of a comparison can be taken
into its sign, and a comparison can be written from either side.
-/

namespace GatherBoard.Atom

variable {t body left right keyword value : Text} {a b : Atom} {marks : Nat} {negated : Bool}
  {comparison : Comparison}

/-- The negation of an atom comes from its marks alone. -/
theorem ofSides_negated (negated' : Bool) :
    ofSides negated' keyword comparison value =
      (ofSides negated keyword comparison value).map fun a => { a with negated := negated' } := by
  unfold ofSides
  cases fieldOf? keyword with
  | none => rfl
  | some field =>
    dsimp only
    split_ifs
    · rfl
    · cases Text.Numeral.read? value with
      | none => rfl
      | some numeral =>
        dsimp only
        split <;> rfl
    all_goals rfl

/-- Texts that differ in their marks only are read alike but for the negation. -/
theorem read_of_stripNegation {t' : Text} {negated' : Bool}
    (h : stripNegation false t = (negated, body)) (h' : stripNegation false t' = (negated', body)) :
    read t' = (read t).map fun a => { a with negated := negated' } := by
  simp only [read, h, h']
  split
  · rfl
  · cases sides? body with
    | none => rfl
    | some sides =>
      dsimp only
      split
      · exact ofSides_negated negated'
      · exact ofSides_negated negated'

/-- An atom is negated if the marks of its text are odd. -/
theorem negated_of_read (hs : IsStripped t marks body) (h : read t = .ok a) :
    a.negated = isOdd marks := by
  have hb := stripNegation_of_isStripped hs false
  rw [Bool.false_xor] at hb
  have hr := read_of_stripNegation hb hb
  rw [h, Except.map, Except.ok.injEq] at hr
  rw [hr]

/-- A further mark turns the atom into its opposite. -/
theorem read_mark (hs : IsStripped t marks body) (hb : body.head? ≠ some '=')
    (h : read t = .ok a) : read ('!' :: t) = .ok a.opposite := by
  have ht := stripNegation_of_isStripped hs false
  have hmark := stripNegation_of_isStripped (hs.cons hb) false
  rw [read_of_stripNegation ht hmark, h, Except.map, opposite, negated_of_read hs h, isOdd_succ,
    Bool.false_xor]

/-- The opposite of the opposite is the atom itself. -/
theorem opposite_opposite (a : Atom) : a.opposite.opposite = a := by
  simp only [opposite, Bool.not_not]

/-- What spells an atom does not begin with an equals sign. -/
theorem head?_ne_of_spells (h : Spells negated body a) : body.head? ≠ some '=' := by
  have hoperand {t rest : Text} (ht : IsOperand t) (hne : t ≠ []) : (t ++ rest).head? ≠ some '=' := by
    obtain ⟨c, t, rfl⟩ := List.exists_cons_of_ne_nil hne
    rintro ⟨⟩
    exact ht '=' List.mem_cons_self (by decide)
  cases h with
  | person nonempty unsigned =>
    intro he
    obtain ⟨rest, rfl⟩ := List.head?_eq_some_iff.mp he
    exact unsigned.1 List.mem_cons_self
  | comparison h =>
    cases h with
    | reversed integer letters known order =>
      rw [List.append_assoc]
      exact hoperand (isOperand_of_writesInteger integer) integer.ne_nil
    | number known integer =>
      have hk := (fieldOf?_of_mem_numericKeywords known).1
      rw [List.append_assoc]
      exact hoperand (isOperand_of_fieldOf? hk) (ne_nil_of_fieldOf? hk)
    | name known listed equality =>
      have hk := (fieldOf?_of_mem_nameKeywords known).1
      rw [List.append_assoc]
      exact hoperand (isOperand_of_fieldOf? hk) (ne_nil_of_fieldOf? hk)

/-- A keyword and a value that give an atom are operands. -/
theorem isOperand_of_ofSides (h : ofSides negated keyword comparison value = .ok a) :
    (IsOperand keyword ∧ keyword ≠ []) ∧ IsOperand value := by
  obtain ⟨field, hk, -, ⟨-, numeral, hr, -, -⟩ | ⟨-, -, hm, -⟩⟩ := ofSides_eq_ok_iff.mp h
  · have hv := isOperand_of_writesInteger (Text.writesInteger_iff.mpr ⟨numeral, hr, rfl⟩)
    exact ⟨⟨isOperand_of_fieldOf? hk, ne_nil_of_fieldOf? hk⟩, hv⟩
  · exact ⟨⟨isOperand_of_fieldOf? hk, ne_nil_of_fieldOf? hk⟩, isOperand_of_mem_names hm⟩

/-- A text that is read as a comparison has an operand on either side of its sign. -/
theorem exists_operands_of_read (hs : IsStripped t marks body) (h : read t = .ok a)
    (hp : a.field ≠ .person) :
    ∃ left sign right, Text.dropFinalBreak body = left ++ Comparison.sign sign ++ right ∧
      (IsOperand left ∧ left ≠ []) ∧ IsOperand right := by
  have hb := stripNegation_of_isStripped hs false
  by_cases hne : body = []
  · simp [read, hb, hne] at h
  · cases hsides : sides? body with
    | none =>
      rw [read_of_name hb hne hsides, Except.ok.injEq] at h
      subst h
      exact absurd rfl hp
    | some sides =>
      obtain ⟨left, sign, right⟩ := sides
      rw [read_of_sides hb hne hsides] at h
      simp only [sides?, Option.ite_none_left_eq_some] at hsides
      refine ⟨left, sign, right, eq_of_cutAtSign? hsides.2, ?_⟩
      split at h
      next hrev =>
        obtain ⟨-, ⟨n, integer⟩, -⟩ := isReversed_iff.mp hrev
        exact ⟨⟨isOperand_of_writesInteger integer, integer.ne_nil⟩, (isOperand_of_ofSides h).1.1⟩
      next => exact isOperand_of_ofSides h

/-- Before the sign of a text that is read as a comparison stand marks and an operand, and an
operand follows, apart from a break at the end. -/
theorem exists_keyword_of_read (left : Text) (comparison : Comparison)
    (hl : comparison = .equal → left.getLast? ≠ some '!')
    (h : read (left ++ comparison.sign ++ right) = .ok a) (hp : a.field ≠ .person) :
    ∃ marks keyword, left = List.replicate marks '!' ++ keyword ∧
      (IsOperand keyword ∧ keyword ≠ []) ∧ IsOperand (Text.dropFinalBreak right) := by
  obtain ⟨marks, body, hs⟩ := exists_isStripped (left ++ comparison.sign ++ right)
  obtain ⟨keyword, sign, value, hline, ⟨hk, hne⟩, hv⟩ := exists_operands_of_read hs h hp
  have hbody : body ≠ [] := by
    intro he
    rw [he] at hline
    exact List.append_ne_nil_of_left_ne_nil (List.append_ne_nil_of_left_ne_nil hne _) _ hline.symm
  have htext : left ++ comparison.sign ++ Text.dropFinalBreak right =
      List.replicate marks '!' ++ keyword ++ sign.sign ++ value := by
    rw [← Comparison.dropFinalBreak_sign, hs.eq, Text.dropFinalBreak_append _ hbody, hline]
    simp only [List.append_assoc]
  have hmarks : IsUnsigned (List.replicate marks '!' ++ keyword) := by
    refine signCount_eq_zero_iff.mp ?_
    rw [signCount_append, signCount_eq_zero_iff.mpr hk.isUnsigned, signCount, List.countP_replicate]
    simp
  have hlast : sign = .equal → (List.replicate marks '!' ++ keyword).getLast? ≠ some '!' := by
    rw [List.getLast?_append_of_ne_nil _ hne]
    exact fun _ he => hk _ (List.mem_of_getLast? he) (by decide)
  -- the text has no other sign, so that it is cut in one place only
  have hcount : signCount (left ++ comparison.sign ++ Text.dropFinalBreak right) = 1 := by
    rw [htext, signCount_append, signCount_append, Comparison.signCount_sign,
      signCount_eq_zero_iff.mpr hmarks, signCount_eq_zero_iff.mpr hv.isUnsigned]
  have hcut := cutAtSign?_append (isUnsigned_of_signCount hcount) hl (Text.dropFinalBreak right)
  rw [htext, cutAtSign?_append hmarks hlast, Option.some.injEq, Prod.mk.injEq, Prod.mk.injEq] at hcut
  obtain ⟨rfl, -, rfl⟩ := hcut
  exact ⟨marks, keyword, rfl, ⟨hk, hne⟩, hv⟩

section Laws

variable {f v w : Text}

/-- What is read of marks, a keyword, a sign and a value is what the keyword and the value give. -/
theorem ofSides_of_read (comparison : Comparison) (hk : IsOperand keyword ∧ keyword ≠ [])
    (hv : IsOperand (Text.dropFinalBreak v))
    (hrev : ¬ isReversed keyword comparison (Text.dropFinalBreak v) = true)
    (h : read (List.replicate marks '!' ++ keyword ++ comparison.sign ++ v) = .ok a) :
    ofSides (isOdd marks) keyword comparison (Text.dropFinalBreak v) = .ok a := by
  rw [List.append_assoc, List.append_assoc, ← List.append_assoc keyword,
    read_operands_break marks hk.1 hk.2 comparison hv, if_neg hrev] at h
  exact h

/-- A mark in front is one more mark. -/
theorem cons_replicate_append (marks : Nat) (keyword sign v : Text) :
    '!' :: (List.replicate marks '!' ++ keyword ++ sign ++ v) =
      List.replicate (marks + 1) '!' ++ keyword ++ sign ++ v := by
  rw [List.replicate_succ]
  rfl

/-- With another sign between them a keyword and a value give an atom of the same field. -/
theorem exists_field_of_ofSides {sign sign' : Comparison} {negated' : Bool}
    (ha : ofSides negated keyword sign v = .ok a) (hb : ofSides negated' keyword sign' v = .ok b) :
    ∃ field value, field ≠ .person ∧ a = ⟨field, sign, value, negated⟩ ∧
      b = ⟨field, sign', value, negated'⟩ := by
  obtain ⟨field, hk, -, hcases⟩ := ofSides_eq_ok_iff.mp ha
  obtain ⟨field', hk', -, hcases'⟩ := ofSides_eq_ok_iff.mp hb
  obtain rfl : field = field' := Option.some.inj (hk.symm.trans hk')
  have hp := ne_person_of_fieldOf? hk
  obtain ⟨hn, numeral, hr, -, rfl⟩ | ⟨hn, -, -, rfl⟩ := hcases
  · obtain ⟨-, numeral', hr', -, rfl⟩ | ⟨hn', -⟩ := hcases'
    · obtain rfl : numeral = numeral' := Option.some.inj (hr.symm.trans hr')
      exact ⟨field, _, hp, rfl, rfl⟩
    · rw [hn] at hn'
      cases hn'
  · obtain ⟨hn', -⟩ | ⟨-, -, -, rfl⟩ := hcases'
    · rw [hn] at hn'
      cases hn'
    · exact ⟨field, _, hp, rfl, rfl⟩

/-- A keyword and an integer in an order give an atom of a numeric field and this integer. -/
theorem exists_number_of_ofSides {n : Int} (hv : Text.WritesInteger v n)
    (ho : comparison.isOrder = true) (h : ofSides negated keyword comparison v = .ok a) :
    ∃ field, fieldOf? keyword = some field ∧ field.isNumeric = true ∧
      a = ⟨field, comparison, .number n, negated⟩ := by
  obtain ⟨field, hk, -, ⟨hn, numeral, hr, -, rfl⟩ | ⟨-, ho', -⟩⟩ := ofSides_eq_ok_iff.mp h
  · obtain ⟨numeral', hr', rfl⟩ := Text.writesInteger_iff.mp hv
    obtain rfl : numeral = numeral' := Option.some.inj (hr.symm.trans hr')
    exact ⟨field, hk, hn, rfl⟩
  · rw [ho] at ho'
    cases ho'

/-- A mark before an equality makes it an inequality. -/
theorem equivalent_of_read_equal (ha : read ('!' :: (f ++ ['='] ++ v)) = .ok a)
    (hb : read (f ++ ['!', '='] ++ v) = .ok b) (hp : b.field ≠ .person) : a.Equivalent b := by
  obtain ⟨marks, keyword, rfl, hk, hv⟩ :=
    exists_keyword_of_read _ .notEqual (fun he => by cases he) hb hp
  rw [cons_replicate_append] at ha
  have ha' := ofSides_of_read .equal hk hv (not_isReversed_equality rfl) ha
  have hb' := ofSides_of_read .notEqual hk hv (not_isReversed_equality rfl) hb
  obtain ⟨field, value, hfield, rfl, rfl⟩ := exists_field_of_ofSides ha' hb'
  rw [isOdd_succ]
  exact equivalent_notEqual hfield value _

/-- A mark before an inequality makes it an equality. -/
theorem equivalent_of_read_notEqual (ha : read ('!' :: (f ++ ['!', '='] ++ v)) = .ok a)
    (hb : read (f ++ ['='] ++ v) = .ok b) (hp : a.field ≠ .person) : a.Equivalent b := by
  obtain ⟨marks, keyword, hf, hk, hv⟩ :=
    exists_keyword_of_read ('!' :: f) .notEqual (fun he => by cases he) ha hp
  cases marks with
  | zero =>
    rw [List.replicate_zero, List.nil_append] at hf
    exact absurd (by decide) (hk.1 '!' (hf ▸ List.mem_cons_self))
  | succ marks =>
    rw [List.replicate_succ, List.cons_append, List.cons.injEq] at hf
    obtain ⟨-, rfl⟩ := hf
    rw [cons_replicate_append] at ha
    have ha' := ofSides_of_read .notEqual hk hv (not_isReversed_equality rfl) ha
    have hb' := ofSides_of_read .equal hk hv (not_isReversed_equality rfl) hb
    obtain ⟨field, value, hfield, rfl, rfl⟩ := exists_field_of_ofSides ha' hb'
    rw [isOdd_succ]
    exact equivalent_equal hfield value _

/-- A mark before an order of an integer, and another order of another integer after the same
keyword, are read as atoms of the same numeric field. -/
theorem exists_field_of_read_orders (sign sign' : Comparison) {n m : Int}
    (hs : sign.isOrder = true) (hs' : sign'.isOrder = true)
    (hv : Text.WritesInteger v n) (hw : Text.WritesInteger w m)
    (ha : read ('!' :: (f ++ sign.sign ++ v)) = .ok a) (hb : read (f ++ sign'.sign ++ w) = .ok b)
    (hp : b.field ≠ .person) :
    ∃ field negated, field.isNumeric = true ∧ a = ⟨field, sign, .number n, !negated⟩ ∧
      b = ⟨field, sign', .number m, negated⟩ := by
  have hne : sign' = .equal → f.getLast? ≠ some '!' := by
    rintro rfl
    cases hs'
  obtain ⟨marks, keyword, rfl, hk, -⟩ := exists_keyword_of_read _ _ hne hb hp
  have hvo := isOperand_of_writesInteger hv
  have hwo := isOperand_of_writesInteger hw
  rw [cons_replicate_append] at ha
  have ha' := ofSides_of_read sign hk (by rwa [hvo.dropFinalBreak_eq])
    (by rw [hvo.dropFinalBreak_eq]; exact not_isReversed_integer hv) ha
  have hb' := ofSides_of_read sign' hk (by rwa [hwo.dropFinalBreak_eq])
    (by rw [hwo.dropFinalBreak_eq]; exact not_isReversed_integer hw) hb
  rw [hvo.dropFinalBreak_eq] at ha'
  rw [hwo.dropFinalBreak_eq] at hb'
  obtain ⟨field, hfield, hn, rfl⟩ := exists_number_of_ofSides hv hs ha'
  obtain ⟨field', hfield', -, rfl⟩ := exists_number_of_ofSides hw hs' hb'
  obtain rfl : field = field' := Option.some.inj (hfield.symm.trans hfield')
  exact ⟨field, isOdd marks, hn, by rw [isOdd_succ], rfl⟩

/-- An integer before an order sign and a word is read as the word before the opposite sign and
the integer, whether or not the word is a keyword. -/
theorem read_reversed (comparison : Comparison) {n : Int} (hv : Text.WritesInteger v n) (hw : w ≠ [])
    (hl : ∀ c ∈ w, Text.isLetter c = true) (ho : comparison.isOrder = true) :
    read (v ++ comparison.sign ++ w) = read (w ++ comparison.flipped.sign ++ v) := by
  have hvo := isOperand_of_writesInteger hv
  have hwo := isOperand_of_letters hl
  have hrev : isReversed v comparison w = true := isReversed_iff.mpr ⟨ho, ⟨n, hv⟩, hw, hl⟩
  have hleft := read_operands 0 hvo hv.ne_nil comparison hwo
  have hright := read_operands 0 hwo hw comparison.flipped hvo
  rw [List.replicate_zero, List.nil_append] at hleft hright
  rw [hleft, hright, if_pos hrev, if_neg (not_isReversed_integer hv)]

/-- The place of a name is one of the list's. -/
theorem le_of_placeOf? {names : List Text} {name : Text} {i : Nat}
    (h : placeOf? names name = some i) : Text.lower name ∈ names ∧ i ≤ names.length := by
  refine ⟨isSome_placeOf?.mp (by rw [h]; rfl), ?_⟩
  obtain ⟨j, hj, rfl⟩ := Option.map_eq_some_iff.mp h
  exact (List.findIdx?_eq_some_iff_getElem.mp hj).1

/-- The label of a field, an equals sign and one of its names are read as this comparison. -/
theorem read_label_equal (field : Field) {name : Text} (h : Text.lower name ∈ field.names) :
    read (field.label ++ ['='] ++ name) = .ok ⟨field, .equal, .name (Text.lower name), false⟩ := by
  obtain ⟨hp, hn, -, hne⟩ := spec_of_mem_names h
  have hvalue : name ≠ [] := by
    rintro rfl
    exact hne rfl
  have hr := read_operands 0 (isOperand_of_letters fun c => Field.isLetter_of_mem_label (c := c))
    (ne_nil_of_fieldOf? (fieldOf?_label hp)) .equal (isOperand_of_mem_names h)
  rw [List.replicate_zero, List.nil_append, if_neg (not_isReversed_equality rfl)] at hr
  exact hr.trans (ofSides_eq_ok_iff.mpr
    ⟨field, fieldOf?_label hp, hvalue, Or.inr ⟨hn, rfl, h, rfl⟩⟩)

/-- A text in one line that has a sign is read as a comparison, if as any atom. -/
theorem ne_person_of_read (hline : '\n' ∉ t) (hsign : ¬ IsUnsigned t) (h : read t = .ok a) :
    a.field ≠ .person := by
  obtain ⟨marks, body, hs⟩ := exists_isStripped t
  cases spells_of_read hs (hs.not_mem hline) h with
  | person nonempty unsigned =>
    refine absurd (signCount_eq_zero_iff.mp ?_) hsign
    rw [hs.eq, signCount_append, signCount_eq_zero_iff.mpr unsigned, signCount,
      List.countP_replicate]
    simp
  | comparison h =>
    cases h with
    | reversed integer letters known order =>
      exact ne_person_of_isNumeric (fieldOf?_of_mem_numericKeywords known).2
    | number known integer =>
      exact ne_person_of_isNumeric (fieldOf?_of_mem_numericKeywords known).2
    | name known listed equality => exact ne_person_of_fieldOf? (fieldOf?_of_mem_nameKeywords known).1

/-- A further mark before a text in one line gives the opposite atom, and two of them give the
atom itself. -/
theorem read_marks (hline : '\n' ∉ t) (h : read t = .ok a) :
    read ('!' :: t) = .ok a.opposite ∧ read ('!' :: '!' :: t) = .ok a := by
  obtain ⟨marks, body, hs⟩ := exists_isStripped t
  have hhead := head?_ne_of_spells (spells_of_read hs (hs.not_mem hline) h)
  have hone := read_mark hs hhead h
  have htwo := read_mark (hs.cons hhead) hhead hone
  rw [opposite_opposite] at htwo
  exact ⟨hone, htwo⟩

/-- A weekday is asked for by its name or by its number. -/
theorem equivalent_of_weekdayIndex? {name : Text} {i : Nat} (h : weekdayIndex? name = some i) :
    ∃ a b, read ("weekday=".toList ++ name) = .ok a ∧
      read ("weekdaynum=".toList ++ Text.ofNat i) = .ok b ∧ a.Equivalent b := by
  have hplaces : ∀ i ≤ 7, read ("weekdaynum=".toList ++ Text.ofNat i) =
      .ok ⟨.weekdayNum, .equal, .number i, false⟩ := by decide
  obtain ⟨hm, hi⟩ := le_of_placeOf? h
  exact ⟨_, _, read_label_equal .weekday hm, hplaces i hi, equivalent_weekday h⟩

/-- A month is asked for by its name or by its number. -/
theorem equivalent_of_monthIndex? {name : Text} {i : Nat} (h : monthIndex? name = some i) :
    ∃ a b, read ("month=".toList ++ name) = .ok a ∧
      read ("monthnum=".toList ++ Text.ofNat i) = .ok b ∧ a.Equivalent b := by
  have hplaces : ∀ i ≤ 12, read ("monthnum=".toList ++ Text.ofNat i) =
      .ok ⟨.monthNum, .equal, .number i, false⟩ := by decide
  obtain ⟨hm, hi⟩ := le_of_placeOf? h
  exact ⟨_, _, read_label_equal .month hm, hplaces i hi, equivalent_month h⟩

end Laws

/-- The laws of atoms in writing, for every card and every day.

A further mark before an atom in one line turns its answer around, except that a date is refused
on a card without one either way, and two marks change nothing. A mark before a comparison can be
taken into its sign, and a negated order is the opposite order of the neighbouring integer. A
text in one line that has a sign is a comparison; only a break inside it can make it a name. An
integer and a word can change sides, even if the word is no keyword and both are refused for it.
Names of weekdays and months stand for their places. -/
theorem negation_and_reversal :
    (∀ t a, '\n' ∉ t → read t = .ok a →
      read ('!' :: '!' :: t) = .ok a ∧ ∃ a', read ('!' :: t) = .ok a' ∧ ∀ facts today,
        if a.field ≠ .person ∧ facts.dueDate = none then
          a.holds facts today = .ok false ∧ a'.holds facts today = .ok false
        else ∃ answer, a.holds facts today = .ok answer ∧ a'.holds facts today = .ok !answer) ∧
    (∀ t a, '\n' ∉ t → ¬ IsUnsigned t → read t = .ok a → a.field ≠ .person) ∧
    (∀ f v a b, read ('!' :: (f ++ ['='] ++ v)) = .ok a → read (f ++ ['!', '='] ++ v) = .ok b →
      b.field ≠ .person → a.Equivalent b) ∧
    (∀ f v a b, read ('!' :: (f ++ ['!', '='] ++ v)) = .ok a → read (f ++ ['='] ++ v) = .ok b →
      a.field ≠ .person → a.Equivalent b) ∧
    (∀ f v w n a b, Text.WritesInteger v n → Text.WritesInteger w (n - 1) →
      read ('!' :: (f ++ ['<'] ++ v)) = .ok a → read (f ++ ['>'] ++ w) = .ok b →
      b.field ≠ .person → a.Equivalent b) ∧
    (∀ f v w n a b, Text.WritesInteger v n → Text.WritesInteger w (n + 1) →
      read ('!' :: (f ++ ['>'] ++ v)) = .ok a → read (f ++ ['<'] ++ w) = .ok b →
      b.field ≠ .person → a.Equivalent b) ∧
    (∀ v n k, Text.WritesInteger v n → k ≠ [] → (∀ c ∈ k, Text.isLetter c = true) →
      read (v ++ ['<'] ++ k) = read (k ++ ['>'] ++ v) ∧
      read (v ++ ['>'] ++ k) = read (k ++ ['<'] ++ v)) ∧
    (∀ name i, weekdayIndex? name = some i → ∃ a b, read ("weekday=".toList ++ name) = .ok a ∧
      read ("weekdaynum=".toList ++ Text.ofNat i) = .ok b ∧ a.Equivalent b) ∧
    (∀ name i, monthIndex? name = some i → ∃ a b, read ("month=".toList ++ name) = .ok a ∧
      read ("monthnum=".toList ++ Text.ofNat i) = .ok b ∧ a.Equivalent b) := by
  refine ⟨?_, fun _ _ => ne_person_of_read, fun _ _ _ _ => equivalent_of_read_equal,
    fun _ _ _ _ => equivalent_of_read_notEqual, ?_, ?_, ?_,
    fun _ _ => equivalent_of_weekdayIndex?, fun _ _ => equivalent_of_monthIndex?⟩
  · intro t a hline h
    obtain ⟨hone, htwo⟩ := read_marks hline h
    exact ⟨htwo, a.opposite, hone, (isWellFormed_of_read h).isTyped.holds_opposite⟩
  · intro f v w n a b hv hw ha hb hp
    obtain ⟨field, negated, hn, rfl, rfl⟩ :=
      exists_field_of_read_orders .less .greater rfl rfl hv hw ha hb hp
    exact equivalent_greater hn n negated
  · intro f v w n a b hv hw ha hb hp
    obtain ⟨field, negated, hn, rfl, rfl⟩ :=
      exists_field_of_read_orders .greater .less rfl rfl hv hw ha hb hp
    exact equivalent_less hn n negated
  · intro v n k hv hk hl
    exact ⟨read_reversed .less hv hk hl rfl,
      read_reversed .greater hv hk hl rfl⟩

/-- The laws at texts with capitals, marks, signs of integers and digits of another script. -/
theorem weekTexts_negated :
    (read "!Week".toList = .ok ⟨.person, .equal, .name "Week".toList, true⟩ ∧
      read "!!!Week".toList = .ok ⟨.person, .equal, .name "Week".toList, true⟩) ∧
    (read "!!Weekday=MON".toList = .ok ⟨.weekday, .equal, .name "mon".toList, false⟩ ∧
      read "!Weekday!=MON".toList = .ok ⟨.weekday, .notEqual, .name "mon".toList, true⟩ ∧
      Equivalent ⟨.weekday, .equal, .name "mon".toList, false⟩
        ⟨.weekday, .notEqual, .name "mon".toList, true⟩) ∧
    (read "!DAY<٧".toList = .ok ⟨.dayOffset, .less, .number 7, true⟩ ∧
      read "DAY>+06".toList = .ok ⟨.dayOffset, .greater, .number 6, false⟩ ∧
      Equivalent ⟨.dayOffset, .less, .number 7, true⟩ ⟨.dayOffset, .greater, .number 6, false⟩) ∧
    (read "soon>-1".toList = .error (.malformed (.unknownField "soon".toList)) ∧
      read "-1<soon".toList = read "soon>-1".toList) := by
  obtain ⟨hmarks, -, hequal, -, hless, -, hreversed, -⟩ := negation_and_reversal
  have hweek : read "!Week".toList = .ok ⟨.person, .equal, .name "Week".toList, true⟩ := by decide
  have hmonday : read "!!Weekday=MON".toList =
      .ok ⟨.weekday, .equal, .name "mon".toList, false⟩ := by decide
  have hnotMonday : read "!Weekday!=MON".toList =
      .ok ⟨.weekday, .notEqual, .name "mon".toList, true⟩ := by decide
  have hseven : read "!DAY<٧".toList = .ok ⟨.dayOffset, .less, .number 7, true⟩ := by decide
  have hsix : read "DAY>+06".toList = .ok ⟨.dayOffset, .greater, .number 6, false⟩ := by decide
  have hsevenText : Text.WritesInteger "٧".toList 7 :=
    Text.writesInteger_iff.mpr ⟨⟨false, "٧".toList⟩, by decide, by decide⟩
  have hsixText : Text.WritesInteger "+06".toList 6 :=
    Text.writesInteger_iff.mpr ⟨⟨false, "06".toList⟩, by decide, by decide⟩
  have honeText : Text.WritesInteger "-1".toList (-1) :=
    Text.writesInteger_iff.mpr ⟨⟨true, "1".toList⟩, by decide, by decide⟩
  have hletters : ∀ c ∈ "soon".toList, Text.isLetter c = true := List.all_eq_true.mp (by decide)
  exact ⟨⟨hweek, (hmarks _ _ (by decide) hweek).1⟩,
    ⟨hmonday, hnotMonday, hequal "!Weekday".toList "MON".toList _ _ hmonday hnotMonday (by decide)⟩,
    ⟨hseven, hsix, hless "DAY".toList _ _ _ _ _ hsevenText hsixText hseven hsix (by decide)⟩,
    by decide, (hreversed _ _ "soon".toList honeText (by decide) hletters).1⟩

end GatherBoard.Atom
