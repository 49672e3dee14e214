import GatherBoard.Proofs.Calendar.DayCount
import GatherBoard.Proofs.Calendar.Spellings

/-!
# Dates year first and day first

There are two ways to write a date: with the year's four digits at the beginning, or with
them at the end and the day before the month. No text is written in both ways, so a text in
one line has at most one date, and it has one exactly if its three numbers are those of a
day in the calendar. Every date is read back from either way of writing it, whether month and
day are filled up with zeros or not.
-/

namespace GatherBoard.Date

/-- Four digits for the year, and after them one or two for the month and for the day. -/
def IsYearFirst (t : Text) (year month day : Nat) : Prop :=
  ∃ a b c, t = a ++ '-' :: (b ++ '-' :: c) ∧ IsGroup [4] a year ∧ IsGroup [1, 2] b month ∧
    IsGroup [1, 2] c day

/-- One or two digits for the day and for the month, and after them four for the year. -/
def IsDayFirst (t : Text) (year month day : Nat) : Prop :=
  ∃ a b c, t = a ++ '-' :: (b ++ '-' :: c) ∧ IsGroup [1, 2] a day ∧ IsGroup [1, 2] b month ∧
    IsGroup [4] c year

/-- The calendar has a day with these numbers. -/
def IsDay (year month day : Nat) : Prop :=
  (1 ≤ year ∧ year ≤ 9999) ∧ ∃ days, MonthLasts year month days ∧ 1 ≤ day ∧ day ≤ days

/-- The date written year first, with month and day filled up to these widths. -/
def yearFirstText (monthWidth dayWidth : Nat) (date : Date) : Text :=
  Text.padded 4 date.year ++ '-' ::
    (Text.padded monthWidth date.month ++ '-' :: Text.padded dayWidth date.day)

/-- The date written day first, with month and day filled up to these widths. -/
def dayFirstText (monthWidth dayWidth : Nat) (date : Date) : Text :=
  Text.padded dayWidth date.day ++ '-' ::
    (Text.padded monthWidth date.month ++ '-' :: Text.padded 4 date.year)

variable {t : Text} {year month day year' month' day' : Nat} {date : Date}

/-- The shape of a date is one of the two. -/
theorem hasShape_iff :
    HasShape t year month day ↔ IsYearFirst t year month day ∨ IsDayFirst t year month day := by
  constructor
  · intro h
    cases h with
    | yearFirst first second third => exact Or.inl ⟨_, _, _, rfl, first, second, third⟩
    | dayFirst first second third => exact Or.inr ⟨_, _, _, rfl, first, second, third⟩
  · intro h
    cases h with
    | inl h =>
      obtain ⟨a, b, c, heq, first, second, third⟩ := h
      exact heq ▸ .yearFirst first second third
    | inr h =>
      obtain ⟨a, b, c, heq, first, second, third⟩ := h
      exact heq ▸ .dayFirst first second third

/-- No text is written year first and day first: the first of its groups would have four digits
and at most two. -/
theorem IsYearFirst.not_isDayFirst (h : IsYearFirst t year month day) :
    ¬ IsDayFirst t year' month' day' := by
  obtain ⟨a, b, c, heq, ha, hb, hc⟩ := h
  intro h'
  obtain ⟨a', b', c', heq', ha', hb', hc'⟩ := h'
  have hcut : t.splitOn '-' = [a, b, c] := by
    rw [heq]
    exact splitOn_groups ha.isDigits hb.isDigits hc.isDigits
  have hcut' : t.splitOn '-' = [a', b', c'] := by
    rw [heq']
    exact splitOn_groups ha'.isDigits hb'.isDigits hc'.isDigits
  have hsame : a = a' := (List.cons.inj (hcut.symm.trans hcut')).1
  have hfour : a.length = 4 := by simpa using ha.width
  have hshort : a'.length = 1 ∨ a'.length = 2 := by simpa using ha'.width
  rw [hsame] at hfour
  omega

/-- The days of the calendar are the days that dates have. -/
theorem exists_date_iff :
    (∃ date : Date, date.year = year ∧ date.month = month ∧ date.day = day) ↔
      IsDay year month day := by
  constructor
  · intro h
    obtain ⟨date, hyear, hmonth, hday⟩ := h
    have hlasts : MonthLasts date.year date.month (daysInMonth date.year date.month) :=
      (monthLasts_iff date.month_bounds).mpr rfl
    rw [← hyear, ← hmonth, ← hday]
    exact ⟨date.year_bounds, _, hlasts, date.day_bounds⟩
  · intro h
    obtain ⟨hyear, days, hlasts, hday⟩ := h
    have hmonth : 1 ≤ month ∧ month ≤ 12 := by
      cases hlasts with
      | long listed | short listed =>
        simp only [List.mem_cons, List.not_mem_nil, or_false] at listed
        omega
      | leapFebruary | february => omega
    have hdays : days = daysInMonth year month := (monthLasts_iff hmonth).mp hlasts
    exact ⟨⟨year, month, day, hyear, hmonth, hdays ▸ hday⟩, rfl, rfl, rfl⟩

/-- A text in one line is read as the date that it is written for in one of the two ways. -/
theorem read?_eq_some_iff_written (h : '\n' ∉ t) :
    read? t = some date ↔
      IsYearFirst t date.year date.month date.day ∨ IsDayFirst t date.year date.month date.day :=
  (read?_eq_some_iff h).trans hasShape_iff

/-- A text in one line is read as a date if it has the numbers of a day. -/
theorem exists_read?_iff (h : '\n' ∉ t) :
    (∃ date, read? t = some date) ↔
      ∃ year month day, (IsYearFirst t year month day ∨ IsDayFirst t year month day) ∧
        IsDay year month day := by
  simp only [read?_eq_some_iff_written h, ← exists_date_iff]
  constructor
  · intro h
    obtain ⟨date, hwritten⟩ := h
    exact ⟨_, _, _, hwritten, date, rfl, rfl, rfl⟩
  · intro h
    obtain ⟨_, _, _, hwritten, date, rfl, rfl, rfl⟩ := h
    exact ⟨date, hwritten⟩

/-- The year of a date is written in four digits. -/
theorem isGroup_padded_year (date : Date) : IsGroup [4] (Text.padded 4 date.year) date.year := by
  have hyear := date.year_bounds
  have hlength := Text.length_ofNat_bounds (k := 4) (by decide) (by omega : date.year < 10 ^ 4)
  refine ⟨Text.writesNumber_padded 4 date.year, ?_⟩
  rw [Text.length_padded, List.mem_singleton]
  omega

/-- A number below a hundred is written in one or two digits. -/
theorem isGroup_padded {n width : Nat} (hn : n < 10 ^ 2) (hwidth : width ∈ [1, 2]) :
    IsGroup [1, 2] (Text.padded width n) n := by
  have hlength := Text.length_ofNat_bounds (k := 2) (by decide) hn
  refine ⟨Text.writesNumber_padded width n, ?_⟩
  simp only [List.mem_cons, List.not_mem_nil, or_false] at hwidth ⊢
  rw [Text.length_padded]
  omega

/-- Month and day of a date are below a hundred. -/
theorem month_day_lt (date : Date) : date.month < 10 ^ 2 ∧ date.day < 10 ^ 2 := by
  have hmonth := date.month_bounds
  have hday := date.day_bounds
  have hlong : daysInMonth date.year date.month ≤ 31 := by
    unfold daysInMonth
    split
    · split <;> omega
    all_goals omega
  omega

/-- The date is written year first. -/
theorem isYearFirst_yearFirstText {monthWidth dayWidth : Nat} (hm : monthWidth ∈ [1, 2])
    (hd : dayWidth ∈ [1, 2]) (date : Date) :
    IsYearFirst (yearFirstText monthWidth dayWidth date) date.year date.month date.day :=
  ⟨_, _, _, rfl, isGroup_padded_year date, isGroup_padded (month_day_lt date).1 hm,
    isGroup_padded (month_day_lt date).2 hd⟩

/-- The date is written day first. -/
theorem isDayFirst_dayFirstText {monthWidth dayWidth : Nat} (hm : monthWidth ∈ [1, 2])
    (hd : dayWidth ∈ [1, 2]) (date : Date) :
    IsDayFirst (dayFirstText monthWidth dayWidth date) date.year date.month date.day :=
  ⟨_, _, _, rfl, isGroup_padded (month_day_lt date).2 hd, isGroup_padded (month_day_lt date).1 hm,
    isGroup_padded_year date⟩

/-- A text in one of the two ways of writing is read as the date that it is written for. -/
theorem read?_of_written
    (h : IsYearFirst t date.year date.month date.day ∨ IsDayFirst t date.year date.month date.day) :
    read? t = some date := by
  rw [(hasShape_iff.mpr h).read?_eq]
  exact of?_eq_some_iff.mpr ⟨rfl, rfl, rfl⟩

/-- The text of a date in reports is read as this date. -/
theorem read?_iso (date : Date) : read? date.iso = some date := by
  have hiso : date.iso = yearFirstText 2 2 date := by
    simp only [iso, yearFirstText, List.append_assoc, List.cons_append]
  rw [hiso]
  exact read?_of_written (Or.inl (isYearFirst_yearFirstText (by decide) (by decide) date))

/-- A text in one line is read as a date exactly if it is written year first or day first with
the numbers of a day in the calendar, and then as this day. No text is written in both ways.
Every date is read from both ways of writing it, with month and day in two digits or in as few
as they need. -/
theorem read?_spellings :
    (∀ t : Text, '\n' ∉ t →
      (∀ date, read? t = some date ↔ IsYearFirst t date.year date.month date.day ∨
        IsDayFirst t date.year date.month date.day) ∧
      ((∃ date, read? t = some date) ↔
        ∃ year month day, (IsYearFirst t year month day ∨ IsDayFirst t year month day) ∧
          IsDay year month day)) ∧
    (∀ (t : Text) (year month day year' month' day' : Nat),
      ¬ (IsYearFirst t year month day ∧ IsDayFirst t year' month' day')) ∧
    ∀ date, ∀ monthWidth ∈ [1, 2], ∀ dayWidth ∈ [1, 2],
      read? (yearFirstText monthWidth dayWidth date) = some date ∧
        read? (dayFirstText monthWidth dayWidth date) = some date := by
  refine ⟨fun t h => ⟨fun date => read?_eq_some_iff_written h, exists_read?_iff h⟩, ?_, ?_⟩
  · intro t year month day year' month' day' h
    exact h.1.not_isDayFirst h.2
  · intro date monthWidth hm dayWidth hd
    exact ⟨read?_of_written (Or.inl (isYearFirst_yearFirstText hm hd date)),
      read?_of_written (Or.inr (isDayFirst_dayFirstText hm hd date))⟩

/-- A leap day written day first, in digits of three scripts. -/
def leapDayText : Text := "٢9-२-2024".toList

/-- It is read as the leap day, and by no other order of its numbers. -/
theorem leapDayText_spelled :
    ('\n' ∉ leapDayText ∧ ∃ date, read? leapDayText = some date) ∧
    IsDayFirst leapDayText 2024 2 29 ∧ ∀ year month day, ¬ IsYearFirst leapDayText year month day := by
  obtain ⟨hread, hboth, -⟩ := read?_spellings
  have hline : '\n' ∉ leapDayText := by decide
  have hgroups : leapDayText = "٢9".toList ++ '-' :: ("२".toList ++ '-' :: "2024".toList) := by decide
  have hday : IsDayFirst leapDayText 2024 2 29 :=
    ⟨_, _, _, hgroups, ⟨Text.writesNumber_iff.mpr (by decide), by decide⟩,
      ⟨Text.writesNumber_iff.mpr (by decide), by decide⟩,
      ⟨Text.writesNumber_iff.mpr (by decide), by decide⟩⟩
  have hexists : IsDay 2024 2 29 :=
    ⟨by decide, 29, .leapFebruary ⟨by decide, by decide⟩, by decide, by decide⟩
  refine ⟨⟨hline, ?_⟩, hday, fun year month day hyear => hboth _ _ _ _ _ _ _ ⟨hyear, hday⟩⟩
  exact (hread _ hline).2.mpr ⟨2024, 2, 29, Or.inr hday, hexists⟩

end GatherBoard.Date
