import GatherBoard.Calendar.Spelling
import GatherBoard.Proofs.Text.LineBreaks
import GatherBoard.Proofs.Text.WrittenNumbers

/-!
# Which texts spell a date

A text has the shape of a date if three groups of digits stand in it between hyphens: four
digits for the year at one of the ends, and one or two for the month and for the day. A text
in one line is read as a date exactly if it has this shape with the numbers of a day that
exists.
-/

namespace GatherBoard.Date

/-- The text writes the number in as many digits as one of the widths says. -/
structure IsGroup (widths : List Nat) (t : Text) (n : Nat) : Prop where
  writes : Text.WritesNumber t n
  width : t.length ∈ widths

/-- The text has the shape of a date with these numbers for year, month and day. -/
inductive HasShape : Text → Nat → Nat → Nat → Prop
  | yearFirst {a b c : Text} {year month day : Nat} (first : IsGroup [4] a year)
    (second : IsGroup [1, 2] b month) (third : IsGroup [1, 2] c day) :
    HasShape (a ++ '-' :: (b ++ '-' :: c)) year month day
  | dayFirst {a b c : Text} {year month day : Nat} (first : IsGroup [1, 2] a day)
    (second : IsGroup [1, 2] b month) (third : IsGroup [4] c year) :
    HasShape (a ++ '-' :: (b ++ '-' :: c)) year month day

/-- The text has the shape of a date with the numbers of this day. -/
def IsSpelledBy (date : Date) (t : Text) : Prop := HasShape t date.year date.month date.day

variable {t a b c : Text} {n year month day : Nat} {widths : List Nat} {date : Date}

/-- The digits of a group. -/
theorem IsGroup.isDigits (h : IsGroup widths t n) : Text.isDigits t = true :=
  (Text.writesNumber_iff.mp h.writes).1

/-- The number of a group. -/
theorem IsGroup.value (h : IsGroup widths t n) : Text.digitsValue t = n :=
  (Text.writesNumber_iff.mp h.writes).2

/-- A run of digits has no other characters. -/
theorem not_mem_of_isDigits (h : Text.isDigits t = true) {ch : Char}
    (hd : Text.isDigit ch = false) : ch ∉ t := by
  intro hm
  rw [(Text.isDigits_iff.mp h).2 ch hm] at hd
  cases hd

/-- The groups for years. -/
theorem isYearGroup_iff : isYearGroup t = true ↔ IsGroup [4] t (Text.digitsValue t) := by
  rw [isYearGroup, Bool.and_eq_true, beq_iff_eq]
  constructor
  · rintro ⟨hl, hd⟩
    exact ⟨Text.writesNumber_iff.mpr ⟨hd, rfl⟩, by simp [hl]⟩
  · intro h
    exact ⟨by simpa using h.width, h.isDigits⟩

/-- The groups for months and days. -/
theorem isShortGroup_iff : isShortGroup t = true ↔ IsGroup [1, 2] t (Text.digitsValue t) := by
  rw [isShortGroup, Bool.and_eq_true, Bool.or_eq_true, beq_iff_eq, beq_iff_eq]
  constructor
  · rintro ⟨hl, hd⟩
    exact ⟨Text.writesNumber_iff.mpr ⟨hd, rfl⟩, by simpa using hl⟩
  · intro h
    exact ⟨by simpa using h.width, h.isDigits⟩

/-- A group for months and days is none for years. -/
theorem not_isYearGroup (h : IsGroup [1, 2] t n) : isYearGroup t = false := by
  have hw : t.length = 1 ∨ t.length = 2 := by simpa using h.width
  have hl : t.length ≠ 4 := by omega
  simp [isYearGroup, hl]

/-- Three groups between hyphens. -/
theorem intercalate_groups (a b c : Text) :
    ['-'].intercalate [a, b, c] = a ++ '-' :: (b ++ '-' :: c) := by
  simp [List.intercalate]

/-- The three groups of a text in the shape of a date. -/
theorem HasShape.exists_groups (h : HasShape t year month day) :
    ∃ a b c, t = a ++ '-' :: (b ++ '-' :: c) ∧ Text.isDigits a = true ∧ Text.isDigits b = true ∧
      Text.isDigits c = true ∧ ofGroups? a b c = of? year month day := by
  cases h with
  | @yearFirst a b c _ _ _ first second third =>
    refine ⟨a, b, c, rfl, first.isDigits, second.isDigits, third.isDigits, ?_⟩
    have ha := isYearGroup_iff.mpr (first.value ▸ first)
    have hb := isShortGroup_iff.mpr (second.value ▸ second)
    have hc := isShortGroup_iff.mpr (third.value ▸ third)
    simp [ofGroups?, ha, hb, hc, first.value, second.value, third.value]
  | @dayFirst a b c _ _ _ first second third =>
    refine ⟨a, b, c, rfl, first.isDigits, second.isDigits, third.isDigits, ?_⟩
    have ha := isShortGroup_iff.mpr (first.value ▸ first)
    have hb := isShortGroup_iff.mpr (second.value ▸ second)
    have hc := isYearGroup_iff.mpr (third.value ▸ third)
    simp [ofGroups?, not_isYearGroup first, ha, hb, hc, first.value, second.value, third.value]

/-- Three groups that name a date give the shape of this date. -/
theorem hasShape_of_ofGroups? (h : ofGroups? a b c = some date) :
    date.IsSpelledBy (a ++ '-' :: (b ++ '-' :: c)) := by
  unfold ofGroups? at h
  split_ifs at h with hyear hday
  · obtain ⟨hy, hm, hd⟩ := of?_eq_some_iff.mp h
    simp only [Bool.and_eq_true, isYearGroup_iff, isShortGroup_iff] at hyear
    obtain ⟨⟨ha, hb⟩, hc⟩ := hyear
    exact .yearFirst (hy ▸ ha) (hm ▸ hb) (hd ▸ hc)
  · obtain ⟨hy, hm, hd⟩ := of?_eq_some_iff.mp h
    simp only [Bool.and_eq_true, isYearGroup_iff, isShortGroup_iff] at hday
    obtain ⟨⟨ha, hb⟩, hc⟩ := hday
    exact .dayFirst (hd ▸ ha) (hm ▸ hb) (hy ▸ hc)

/-- The characters of a text in the shape of a date are digits and hyphens. -/
theorem HasShape.not_mem (h : HasShape t year month day) {ch : Char}
    (hd : Text.isDigit ch = false) (hne : ch ≠ '-') : ch ∉ t := by
  obtain ⟨a, b, c, rfl, ha, hb, hc, -⟩ := h.exists_groups
  simp only [List.mem_append, List.mem_cons, not_or]
  exact ⟨not_mem_of_isDigits ha hd, hne, not_mem_of_isDigits hb hd, hne, not_mem_of_isDigits hc hd⟩

/-- A text in the shape of a date has a hyphen. -/
theorem HasShape.hyphen_mem (h : HasShape t year month day) : '-' ∈ t := by
  obtain ⟨a, b, c, rfl, -⟩ := h.exists_groups
  simp

/-- A text in the shape of a date begins with a digit. -/
theorem HasShape.exists_cons (h : HasShape t year month day) :
    ∃ ch rest, t = ch :: rest ∧ Text.isDigit ch = true := by
  obtain ⟨a, b, c, rfl, ha, -⟩ := h.exists_groups
  obtain ⟨hne, hall⟩ := Text.isDigits_iff.mp ha
  obtain ⟨ch, rest, rfl⟩ := List.exists_cons_of_ne_nil hne
  exact ⟨ch, _, List.cons_append, hall ch List.mem_cons_self⟩

/-- Three groups of digits between hyphens are cut apart again. -/
theorem splitOn_groups (ha : Text.isDigits a = true) (hb : Text.isDigits b = true)
    (hc : Text.isDigits c = true) : (a ++ '-' :: (b ++ '-' :: c)).splitOn '-' = [a, b, c] := by
  have hno {t : Text} (ht : Text.isDigits t = true) : '-' ∉ t :=
    not_mem_of_isDigits ht (by decide)
  rw [← intercalate_groups]
  exact List.splitOn_intercalate '-' (by simp [hno ha, hno hb, hno hc]) (by simp)

/-- A text in the shape of a date is read as the date with its numbers, if there is one. -/
theorem HasShape.read?_eq (h : HasShape t year month day) : read? t = of? year month day := by
  have hbreak : '\n' ∉ t := h.not_mem (by decide) (by decide)
  obtain ⟨a, b, c, rfl, ha, hb, hc, hof⟩ := h.exists_groups
  rw [read?, Text.dropFinalBreak_of_not_mem hbreak, splitOn_groups ha hb hc]
  exact hof

/-- The texts in one line that are read as a date are those that spell it. -/
theorem read?_eq_some_iff (h : '\n' ∉ t) : read? t = some date ↔ date.IsSpelledBy t := by
  constructor
  · intro hr
    rw [read?, Text.dropFinalBreak_of_not_mem h] at hr
    split at hr
    next a b c hcut =>
      have hjoin : ['-'].intercalate (t.splitOn '-') = t := List.intercalate_splitOn '-'
      rw [hcut, intercalate_groups] at hjoin
      rw [← hjoin]
      exact hasShape_of_ofGroups? hr
    next => cases hr
  · intro hs
    rw [hs.read?_eq]
    exact of?_eq_some_iff.mpr ⟨rfl, rfl, rfl⟩

end GatherBoard.Date
