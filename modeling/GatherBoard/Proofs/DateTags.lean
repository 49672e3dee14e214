import GatherBoard.Proofs.Calendar.Spellings
import GatherBoard.Tag
import Mathlib.Data.List.TakeWhile

/-!
# Which tags are dates

The body of a tag is a date if it spells one, alone for the date due, or after an identifier
and a sign for a date of another kind. It is the sticky tag or a date of one kind, and in every
other case the name of a person. A body in the shape of a date that is no day is always a
person.
-/

namespace GatherBoard.Tag

/-- The text is an ASCII identifier. -/
def IsIdentifier (name : Text) : Prop :=
  ∃ c rest, name = c :: rest ∧ (Text.isLetter c = true ∨ c = '_') ∧
    ∀ x ∈ rest, Text.isLetter x = true ∨ x = '_' ∨ ('0' ≤ x ∧ x ≤ '9')

/-- The body of a tag holds a value that is to be a date of this kind. -/
inductive Holds : Text → Text → Text → Prop
  /-- The body alone, for the date due. -/
  | bare (body : Text) : Holds body dueKind body
  /-- What stands after an identifier and a sign. The case of the identifier does not matter. -/
  | typed {name value : Text} {sign : Char} (identifier : IsIdentifier name)
    (equals : sign = '=' ∨ sign = ':') : Holds (name ++ sign :: value) (Text.lower name) value

/-- The body of a tag is a date of this kind. -/
def IsDate (body kind : Text) (date : Date) : Prop :=
  ∃ value, Holds body kind value ∧ date.IsSpelledBy value

variable {body kind name value : Text} {c sign : Char} {date : Date} {year month day : Nat}

/-- A character begins a kind if it is a letter or an underscore. -/
theorem startsKind_iff : startsKind c = true ↔ Text.isLetter c = true ∨ c = '_' := by
  rw [startsKind, Bool.or_eq_true, beq_iff_eq]

/-- The identifiers by the characters that begin and continue a kind. -/
theorem isIdentifier_cons {rest : Text} :
    IsIdentifier (c :: rest) ↔ startsKind c = true ∧ ∀ x ∈ rest, continuesKind x = true := by
  have hcontinues (x : Char) : continuesKind x = true ↔
      Text.isLetter x = true ∨ x = '_' ∨ ('0' ≤ x ∧ x ≤ '9') := by
    rw [continuesKind, Bool.or_eq_true, startsKind_iff, Bool.and_eq_true, decide_eq_true_iff,
      decide_eq_true_iff, or_assoc]
  simp only [hcontinues, startsKind_iff]
  constructor
  · rintro ⟨c', rest', he, hc, hrest⟩
    obtain ⟨rfl, rfl⟩ := List.cons.inj he
    exact ⟨hc, hrest⟩
  · rintro ⟨hc, hrest⟩
    exact ⟨c, rest, rfl, hc, hrest⟩

/-- No digit begins a kind. -/
theorem not_startsKind_of_isDigit (h : Text.isDigit c = true) : startsKind c = false := by
  rw [← Bool.not_eq_true, startsKind_iff]
  rintro (hl | rfl)
  · rw [Text.isDigit_of_isLetter hl] at h
    cases h
  · exact absurd h (by decide)

/-- An identifier is in one line. -/
theorem IsIdentifier.break_not_mem (h : IsIdentifier name) : '\n' ∉ name := by
  obtain ⟨c, rest, rfl, hc⟩ := h
  have hbreak : startsKind '\n' = false ∧ continuesKind '\n' = false := by decide
  obtain ⟨hstarts, hcontinues⟩ := isIdentifier_cons.mp ⟨c, rest, rfl, hc⟩
  rw [List.mem_cons]
  rintro (rfl | hm)
  · exact Bool.false_ne_true (hbreak.1.symm.trans hstarts)
  · exact Bool.false_ne_true (hbreak.2.symm.trans (hcontinues _ hm))

/-- An identifier, a sign and a value are split again. -/
theorem splitKind?_append (hn : IsIdentifier name) (hs : sign = '=' ∨ sign = ':')
    (hv : value ≠ []) : splitKind? (name ++ sign :: value) = some (name, value) := by
  obtain ⟨c, rest, rfl, hc⟩ := hn
  obtain ⟨hstarts, hcontinues⟩ := isIdentifier_cons.mp ⟨c, rest, rfl, hc⟩
  have hsign : continuesKind sign = false ∧ (sign == '=' || sign == ':') = true := by
    rcases hs with rfl | rfl <;> decide
  have hdrop : (rest ++ sign :: value).dropWhile continuesKind = sign :: value := by
    rw [List.dropWhile_append_of_pos hcontinues, List.dropWhile_cons_of_neg (by simp [hsign.1])]
  have htake : (rest ++ sign :: value).takeWhile continuesKind = rest := by
    rw [List.takeWhile_append_of_pos hcontinues, List.takeWhile_cons_of_neg (by simp [hsign.1]),
      List.append_nil]
  simp [splitKind?, hstarts, hdrop, htake, hsign.2, hv]

/-- What is split is an identifier, a sign and a value. -/
theorem exists_sign_of_splitKind? (h : splitKind? body = some (name, value)) :
    ∃ sign, IsIdentifier name ∧ (sign = '=' ∨ sign = ':') ∧ body = name ++ sign :: value := by
  unfold splitKind? at h
  split at h
  · cases h
  next c rest =>
    split_ifs at h with hc
    split at h
    · cases h
    next sign value' hdrop =>
      rw [Option.ite_none_right_eq_some, Bool.and_eq_true, Bool.or_eq_true, beq_iff_eq,
        beq_iff_eq, Option.some.injEq, Prod.mk.injEq] at h
      obtain ⟨⟨hsign, -⟩, rfl, rfl⟩ := h
      refine ⟨sign, ?_, hsign, ?_⟩
      · exact isIdentifier_cons.mpr ⟨hc, fun x hx => List.mem_takeWhile_imp hx⟩
      · rw [List.cons_append, ← hdrop, List.takeWhile_append_dropWhile]

/-- A body that begins with an identifier spells no date by itself. -/
theorem read?_identifier (hn : IsIdentifier name) {rest : Text} (hrest : '\n' ∉ rest) :
    Date.read? (name ++ rest) = none := by
  rw [Option.eq_none_iff_forall_ne_some]
  intro date hr
  have hbreak : '\n' ∉ name ++ rest := by
    rw [List.mem_append, not_or]
    exact ⟨hn.break_not_mem, hrest⟩
  obtain ⟨ch, more, he, hdigit⟩ := ((Date.read?_eq_some_iff hbreak).mp hr).exists_cons
  obtain ⟨c, rest', rfl, hc, -⟩ := hn
  obtain ⟨rfl, -⟩ := List.cons.inj he
  have hstarts := not_startsKind_of_isDigit hdigit
  rw [startsKind_iff.mpr hc] at hstarts
  cases hstarts

/-- A body that holds a value in the shape of a date is the date with these numbers, if there
is one. -/
theorem Holds.readDate?_eq (h : Holds body kind value) (hv : Date.HasShape value year month day) :
    readDate? body = (Date.of? year month day).map fun date => (kind, date) := by
  -- a digit in front rules out an identifier, and an identifier rules out a date
  cases h with
  | bare =>
    obtain ⟨ch, rest, rfl, hdigit⟩ := hv.exists_cons
    have hsplit : splitKind? (ch :: rest) = none := by
      simp [splitKind?, not_startsKind_of_isDigit hdigit]
    rw [readDate?, hv.read?_eq, hsplit]
    cases Date.of? year month day <;> rfl
  | @typed name value sign identifier equals =>
    have hbreak : '\n' ∉ sign :: value := by
      rw [List.mem_cons, not_or]
      refine ⟨?_, hv.not_mem (by decide) (by decide)⟩
      rcases equals with rfl | rfl <;> decide
    have hne : value ≠ [] := by
      rintro rfl
      cases hv.hyphen_mem
    rw [readDate?, read?_identifier identifier hbreak, splitKind?_append identifier equals hne]
    exact congrArg (Option.map _) hv.read?_eq

/-- The bodies in one line that are read as a date are those that are one. -/
theorem readDate?_eq_some_iff (h : '\n' ∉ body) :
    readDate? body = some (kind, date) ↔ IsDate body kind date := by
  constructor
  · intro hr
    unfold readDate? at hr
    split at hr
    next date' hd =>
      cases hr
      exact ⟨body, .bare body, (Date.read?_eq_some_iff h).mp hd⟩
    next =>
      split at hr
      next name value hsplit =>
        obtain ⟨date', hd, he⟩ := Option.map_eq_some_iff.mp hr
        cases he
        obtain ⟨sign, identifier, equals, rfl⟩ := exists_sign_of_splitKind? hsplit
        have hvalue : '\n' ∉ value := fun hm => h (by simp [hm])
        exact ⟨value, .typed identifier equals, (Date.read?_eq_some_iff hvalue).mp hd⟩
      next => cases hr
  · rintro ⟨value, hholds, hshape⟩
    rw [hholds.readDate?_eq hshape, Date.of?_eq_some_iff.mpr ⟨rfl, rfl, rfl⟩, Option.map_some]

/-- A value in the shape of a date has a hyphen, and so has the body that holds it. -/
theorem Holds.ne_stickyBody (h : Holds body kind value)
    (hv : Date.HasShape value year month day) : body ≠ stickyBody := by
  have hno : '-' ∉ stickyBody := by decide
  have hm : '-' ∈ body := by
    cases h with
    | bare => exact hv.hyphen_mem
    | typed identifier equals => simp [hv.hyphen_mem]
  exact fun he => hno (he ▸ hm)

/-- A date is not the sticky tag. -/
theorem IsDate.ne_stickyBody (h : IsDate body kind date) : body ≠ stickyBody := by
  obtain ⟨value, hholds, hshape⟩ := h
  exact hholds.ne_stickyBody hshape

/-- The tags that are dates. -/
theorem ofBody_eq_date_iff (h : '\n' ∉ body) :
    ofBody body = .date kind date ↔ IsDate body kind date := by
  rw [← readDate?_eq_some_iff h, ofBody]
  by_cases hb : body = stickyBody
  · have hnone : readDate? stickyBody = none := by decide
    simp [hb, hnone]
  · cases readDate? body with
    | none => simp [hb]
    | some dated => simp [hb, Prod.ext_iff]

/-- The tags that are persons. -/
theorem ofBody_eq_person_iff (h : '\n' ∉ body) :
    ofBody body = .person name ↔
      name = body ∧ body ≠ stickyBody ∧ ∀ kind date, ¬ IsDate body kind date := by
  simp only [← readDate?_eq_some_iff h, ofBody]
  by_cases hb : body = stickyBody
  · simp [hb]
  · cases readDate? body with
    | none => simp [hb, eq_comm]
    | some dated =>
      obtain ⟨kind, date⟩ := dated
      simp [hb]

/-- A body in the shape of a date that is no day names a person. -/
theorem Holds.ofBody_eq_person (h : Holds body kind value)
    (hv : Date.HasShape value year month day)
    (hno : ∀ date : Date, ¬ (date.year = year ∧ date.month = month ∧ date.day = day)) :
    ofBody body = .person body := by
  have hof : Date.of? year month day = none := by
    rw [Option.eq_none_iff_forall_ne_some]
    exact fun date hd => hno date (Date.of?_eq_some_iff.mp hd)
  rw [ofBody, if_neg (h.ne_stickyBody hv), h.readDate?_eq hv, hof, Option.map_none]

end GatherBoard.Tag
