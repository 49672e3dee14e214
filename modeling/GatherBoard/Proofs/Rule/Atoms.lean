import GatherBoard.Proofs.Text.Numerals
import GatherBoard.Rule.Reader

/-!
# Which atoms are read

A text that is read as an atom gives a person by name, a number for a numeric field, or
one of the names that its field knows, which is never put in an order. The exclamation
marks in front of it are no part of a name. Only an integer with more digits than are
allowed stops the reading otherwise than by a stated cause.
-/

namespace GatherBoard

/-- The names that a field is compared with. -/
def Field.names : Field → List Text
  | .weekday => weekdayNames
  | .month => monthNames
  | .person | .dayOffset | .weekdayNum | .monthNum => []

/-- A name has a place in a list if the list has it in lower case. -/
theorem isSome_placeOf? {names : List Text} {name : Text} :
    (placeOf? names name).isSome = true ↔ Text.lower name ∈ names := by
  rw [placeOf?, Option.isSome_map, List.findIdx?_isSome, List.any_eq_true]
  simp

namespace Atom

/-- What stands before a text that is read as an atom's: the exclamation mark, or nothing. -/
def mark (negated : Bool) : Text := if negated then ['!'] else []

/-- Exclamation marks are taken off until none is left to take off. What is left ends the
text, and begins with an equals sign only if it is all of the text. -/
theorem stripNegation_spec {negated negated' : Bool} {t body : Text}
    (h : stripNegation negated t = (negated', body)) :
    (∀ m, stripNegation m body = (m, body)) ∧ body <:+ t ∧
      (body.head? = some '=' → negated' = negated ∧ body = t) := by
  fun_induction stripNegation negated t with
  | case1 negated rest =>
    cases h
    simp [stripNegation]
  | case2 negated rest hrest ih =>
    obtain ⟨hstable, hsuffix, hhead⟩ := ih h
    refine ⟨hstable, hsuffix.trans (List.suffix_cons _ _), fun he => ?_⟩
    -- an equals sign right after the mark would have made it an inequality sign
    obtain ⟨rest', hb⟩ := List.head?_eq_some_iff.mp he
    exact absurd ((hhead he).2.symm.trans hb) (hrest rest')
  | case3 negated t hne hmark =>
    cases h
    refine ⟨fun m => ?_, List.suffix_rfl, fun _ => ⟨rfl, rfl⟩⟩
    rw [stripNegation]
    · exact hne
    · exact hmark

/-- A mark before what was left of a text is taken off again. -/
theorem stripNegation_mark {t body : Text} {negated : Bool}
    (h : stripNegation false t = (negated, body)) :
    stripNegation false (mark negated ++ body) = (negated, body) := by
  obtain ⟨hstable, -, hhead⟩ := stripNegation_spec h
  cases negated with
  | false => exact hstable false
  | true =>
    have hb : ∀ rest, body ≠ '=' :: rest := by
      rintro rest rfl
      cases (hhead rfl).1
    have hs : stripNegation false ('!' :: body) = stripNegation true body := by
      rw [stripNegation]
      · rfl
      · exact hb
    exact hs.trans (hstable true)

/-- A text is cut at its first sign. -/
theorem eq_of_cutAtSign? {t left right : Text} {comparison : Comparison}
    (h : cutAtSign? t = some (left, comparison, right)) :
    t = left ++ comparison.sign ++ right := by
  fun_induction cutAtSign? t generalizing left with
  | case1 => cases h
  | case2 rest =>
    cases h
    rfl
  | case3 rest hne =>
    cases h
    rfl
  | case4 rest hne =>
    cases h
    rfl
  | case5 rest hne =>
    cases h
    rfl
  | case6 c rest hne heq hlt hgt ih =>
    rw [Option.map_eq_some_iff] at h
    obtain ⟨⟨left', comparison', right'⟩, hcut, h⟩ := h
    cases h
    rw [ih hcut, List.cons_append, List.cons_append]

/-- The sides of a text stand in it. -/
theorem infix_of_sides? {t left right : Text} {comparison : Comparison}
    (h : sides? t = some (left, comparison, right)) : left <:+: t ∧ right <:+: t := by
  have hline : Text.dropFinalBreak t <:+: t := by
    unfold Text.dropFinalBreak
    split
    · exact List.IsPrefix.isInfix (List.dropLast_prefix t)
    · exact List.infix_rfl
  simp only [sides?] at h
  split at h
  · cases h
  · have he := eq_of_cutAtSign? h
    have hleft : left <:+: Text.dropFinalBreak t := by
      rw [he, List.append_assoc]
      exact List.IsPrefix.isInfix (List.prefix_append _ _)
    have hright : right <:+: Text.dropFinalBreak t := by
      rw [he]
      exact List.IsSuffix.isInfix (List.suffix_append _ _)
    exact ⟨hleft.trans hline, hright.trans hline⟩

/-- No keyword names the field of persons. -/
theorem ne_person_of_fieldOf? {keyword : Text} {field : Field} (h : fieldOf? keyword = some field) :
    field ≠ .person := by
  rintro rfl
  simp only [fieldOf?] at h
  repeat' split at h
  all_goals cases h

/-- A field of dates has a place among its names for each of them, in any case. -/
theorem isSome_index?_iff {field : Field} (hp : field ≠ .person) (hn : field.isNumeric = false)
    (value : Text) :
    (if field = .weekday then weekdayIndex? value else monthIndex? value).isSome = true ↔
      Text.lower value ∈ field.names := by
  cases field with
  | person => exact absurd rfl hp
  | weekday => exact isSome_placeOf?
  | month => exact isSome_placeOf?
  | dayOffset => cases hn
  | weekdayNum => cases hn
  | monthNum => cases hn

/-- A keyword and a value give an atom if the keyword names a field, and the value is a
short integer for a numeric field or one of its names for any other. -/
theorem ofSides_eq_ok_iff {negated : Bool} {keyword value : Text} {comparison : Comparison}
    {a : Atom} :
    ofSides negated keyword comparison value = .ok a ↔
      ∃ field, fieldOf? keyword = some field ∧ value ≠ [] ∧
        ((field.isNumeric = true ∧ ∃ numeral, Text.Numeral.read? value = some numeral ∧
            numeral.isShort = true ∧ a = ⟨field, comparison, .number numeral.value, negated⟩) ∨
          (field.isNumeric = false ∧ comparison.isOrder = false ∧
            Text.lower value ∈ field.names ∧
            a = ⟨field, comparison, .name (Text.lower value), negated⟩)) := by
  unfold ofSides
  cases hf : fieldOf? keyword with
  | none => simp
  | some field =>
    have hi := isSome_index?_iff (ne_person_of_fieldOf? hf)
    simp only [Option.some.injEq, exists_eq_left', List.isEmpty_iff]
    by_cases hv : value = []
    · simp [hv]
    · rw [if_neg hv]
      cases hn : field.isNumeric with
      | true =>
        cases hr : Text.Numeral.read? value with
        | none => simp
        | some numeral =>
          by_cases hs : numeral.isShort = true
          · simp [hv, hs, eq_comm (a := a)]
          · simp [hs]
      | false =>
        cases ho : comparison.isOrder with
        | true => simp
        | false =>
          by_cases hm : Text.lower value ∈ field.names
          · simp [hv, hm, (hi hn value).mpr hm, eq_comm (a := a)]
          · simp [hm, (hi hn value).not.mpr hm]

/-- A keyword and a value are refused if the keyword names a numeric field and the value is
an integer that is not short. -/
theorem ofSides_eq_overlong_iff {negated : Bool} {keyword value : Text} {comparison : Comparison}
    {digits : Nat} :
    ofSides negated keyword comparison value = .error (.overlong digits) ↔
      ∃ field numeral, fieldOf? keyword = some field ∧ field.isNumeric = true ∧
        Text.Numeral.read? value = some numeral ∧ numeral.isShort = false ∧
        numeral.digits.length = digits := by
  unfold ofSides
  cases hf : fieldOf? keyword with
  | none => simp
  | some field =>
    simp only [Option.some.injEq, exists_eq_left', exists_and_left, List.isEmpty_iff]
    by_cases hv : value = []
    · have hr : Text.Numeral.read? [] = none := rfl
      simp [hv, hr]
    · rw [if_neg hv]
      cases hn : field.isNumeric with
      | true =>
        cases hr : Text.Numeral.read? value with
        | none => simp
        | some numeral => cases hs : numeral.isShort <;> simp [hs]
      | false =>
        cases comparison.isOrder with
        | true => simp
        | false =>
          have hi := isSome_index?_iff (ne_person_of_fieldOf? hf) hn value
          by_cases hm : Text.lower value ∈ field.names
          · simp [hi.mpr hm]
          · simp [hi.not.mpr hm]

/-- A text without sides is a person's name. -/
theorem read_of_name {t name : Text} {negated : Bool} (hb : stripNegation false t = (negated, name))
    (hne : name ≠ []) (hs : sides? name = none) :
    read t = .ok ⟨.person, .equal, .name name, negated⟩ := by
  simp only [read, hb, List.isEmpty_iff, hne, ↓reduceIte, hs]

/-- A text with sides has its keyword on one of them. -/
theorem read_of_sides {t body left right : Text} {negated : Bool} {comparison : Comparison}
    (hb : stripNegation false t = (negated, body)) (hne : body ≠ [])
    (hs : sides? body = some (left, comparison, right)) :
    read t = if isReversed left comparison right then ofSides negated right comparison.flipped left
      else ofSides negated left comparison right := by
  simp only [read, hb, List.isEmpty_iff, hne, ↓reduceIte, hs]

/-- A text has nothing after its exclamation marks, or is a name without a sign, or is a
keyword and a value, one of which stands on either side of a sign. -/
theorem read_cases (t : Text) :
    read t = .error (.malformed .missingOperand) ∨
      (∃ negated name, stripNegation false t = (negated, name) ∧ name ≠ [] ∧
        sides? name = none ∧ name <:+: t ∧ read t = .ok ⟨.person, .equal, .name name, negated⟩) ∨
      ∃ negated keyword comparison value, value <:+: t ∧
        read t = ofSides negated keyword comparison value := by
  obtain ⟨negated, body, hb⟩ : ∃ negated body, stripNegation false t = (negated, body) :=
    ⟨_, _, rfl⟩
  have ht : body <:+: t := List.IsSuffix.isInfix (stripNegation_spec hb).2.1
  by_cases hne : body = []
  · left
    simp only [read, hb, hne, List.isEmpty_nil, ↓reduceIte]
  · right
    cases hs : sides? body with
    | none => exact Or.inl ⟨negated, body, hb, hne, hs, ht, read_of_name hb hne hs⟩
    | some sides =>
      obtain ⟨left, comparison, right⟩ := sides
      obtain ⟨hleft, hright⟩ := infix_of_sides? hs
      rw [read_of_sides hb hne hs]
      right
      by_cases hr : isReversed left comparison right = true
      · exact ⟨negated, right, comparison.flipped, left, hleft.trans ht, if_pos hr⟩
      · exact ⟨negated, left, comparison, right, hright.trans ht, if_neg hr⟩

/-- Well-formed atoms. -/
inductive IsWellFormed : Atom → Prop
  /-- A person by a name that has no sign and keeps its marks apart. -/
  | person {name : Text} {negated : Bool} (named : name ≠ []) (unsigned : sides? name = none)
    (marked : stripNegation false (mark negated ++ name) = (negated, name)) :
    IsWellFormed ⟨.person, .equal, .name name, negated⟩
  /-- A numeric field and a number that is short in base ten. -/
  | number {field : Field} {comparison : Comparison} {n : Int} {negated : Bool}
    (numeric : field.isNumeric = true)
    (short : ∃ numeral, Text.Numeral.read? (Text.ofInt n) = some numeral ∧
      numeral.value = n ∧ numeral.isShort = true) :
    IsWellFormed ⟨field, comparison, .number n, negated⟩
  /-- A field of names and one of them, not in an order. -/
  | name {field : Field} {comparison : Comparison} {name : Text} {negated : Bool}
    (unordered : comparison.isOrder = false) (known : name ∈ field.names) :
    IsWellFormed ⟨field, comparison, .name name, negated⟩

/-- What a keyword and a value give is well formed. -/
theorem isWellFormed_of_ofSides {negated : Bool} {keyword value : Text} {comparison : Comparison}
    {a : Atom} (h : ofSides negated keyword comparison value = .ok a) : a.IsWellFormed := by
  obtain ⟨field, -, -, ⟨hn, numeral, hr, hs, rfl⟩ | ⟨-, ho, hm, rfl⟩⟩ := ofSides_eq_ok_iff.mp h
  · exact .number hn (Text.Numeral.exists_read?_ofInt_value hr hs)
  · exact .name ho hm

/-- What is read is well formed. -/
theorem isWellFormed_of_read {t : Text} {a : Atom} (h : read t = .ok a) : a.IsWellFormed := by
  obtain hm | ⟨negated, name, hb, hne, hs, -, hp⟩ | ⟨negated, keyword, comparison, value, -, ho⟩ :=
    read_cases t
  · rw [hm] at h
    cases h
  · rw [hp, Except.ok.injEq] at h
    subst h
    exact .person hne hs (stripNegation_mark hb)
  · rw [ho] at h
    exact isWellFormed_of_ofSides h

/-- A text that stops the reading holds that many digits, more than are allowed. -/
theorem exists_digits_of_read {t : Text} {count : Nat} (h : read t = .error (.overlong count)) :
    ∃ digits, digits <:+: t ∧ Text.isDigits digits = true ∧ digits.length = count ∧
      Text.maxDigits < count := by
  obtain hm | ⟨negated, name, -, -, -, -, hp⟩ | ⟨negated, keyword, comparison, value, hv, ho⟩ :=
    read_cases t
  · rw [hm] at h
    cases h
  · rw [hp] at h
    cases h
  · rw [ho] at h
    obtain ⟨field, numeral, -, -, hr, hs, hlen⟩ := ofSides_eq_overlong_iff.mp h
    obtain ⟨hdigits, hsuffix⟩ := Text.Numeral.digits_of_read? hr
    rw [Text.Numeral.isShort, decide_eq_false_iff_not, hlen] at hs
    exact ⟨numeral.digits, (List.IsSuffix.isInfix hsuffix).trans hv, hdigits, hlen, by omega⟩

end Atom

end GatherBoard
