import GatherBoard.Apply
import GatherBoard.Proofs.Rule.Equivalence
import Mathlib.Data.Int.ModEq
import Mathlib.Tactic.FinCases

/-!
# Days in order

Every date has a number, and the numbers follow the calendar: the day after a date has the next
number, so that earlier dates have smaller numbers and different dates different ones. Distances
between dates, weekdays and the order of due dates are read off these numbers, and agree.
-/

namespace GatherBoard

/-- A name in lower case is found at its place among different names. -/
theorem placeOf?_getD {names : List Text} {k : Nat} (hd : names.Nodup)
    (hl : ∀ name ∈ names, Text.lower name = name) (hk : 1 ≤ k ∧ k ≤ names.length) :
    placeOf? names (names.getD (k - 1) []) = some k := by
  have hlt : k - 1 < names.length := by omega
  have hm : names.getD (k - 1) [] ∈ names := by
    rw [List.getD_eq_getElem?_getD, List.getElem?_eq_getElem hlt, Option.getD_some]
    exact List.getElem_mem hlt
  have hlower : Text.lower (names.getD (k - 1) []) = names.getD (k - 1) [] := hl _ hm
  have hsome : (placeOf? names (names.getD (k - 1) [])).isSome = true := by
    rw [isSome_placeOf?, hlower]
    exact hm
  obtain ⟨i, hi⟩ := Option.isSome_iff_exists.mp hsome
  rw [hi, (getD_eq_lower_iff hd hi hk).mp hlower.symm]

namespace Date

/-- One date comes before another by year, then by month, then by day. -/
def Before (a b : Date) : Prop :=
  a.year < b.year ∨ a.year = b.year ∧ (a.month < b.month ∨ a.month = b.month ∧ a.day < b.day)

/-- Every fourth year is a leap year, but of the full centuries only every fourth. -/
def IsLeap (year : Nat) : Prop := 4 ∣ year ∧ (100 ∣ year → 400 ∣ year)

/-- A month of a year has this many days. -/
inductive MonthLasts (year : Nat) : Nat → Nat → Prop
  | long {month : Nat} (listed : month ∈ [1, 3, 5, 7, 8, 10, 12]) : MonthLasts year month 31
  | short {month : Nat} (listed : month ∈ [4, 6, 9, 11]) : MonthLasts year month 30
  | leapFebruary (leap : IsLeap year) : MonthLasts year 2 29
  | february (common : ¬ IsLeap year) : MonthLasts year 2 28

/-- The day after a date in the calendar. -/
inductive IsNext (a b : Date) : Prop
  /-- The next day of the month. -/
  | nextDay (year : b.year = a.year) (month : b.month = a.month) (day : b.day = a.day + 1)
  /-- After the last day of a month, the first day of the next. -/
  | nextMonth (last : MonthLasts a.year a.month a.day) (year : b.year = a.year)
    (month : b.month = a.month + 1) (day : b.day = 1)
  /-- After the last day of a year, the first day of the next. -/
  | nextYear (last : a.month = 12 ∧ a.day = 31) (year : b.year = a.year + 1)
    (month : b.month = 1) (day : b.day = 1)

variable {a b : Date} {year month month' n : Nat}

/-- The leap years of the rule. -/
theorem isLeapYear_iff : isLeapYear year = true ↔ IsLeap year := by
  simp only [isLeapYear, IsLeap, Bool.and_eq_true, Bool.or_eq_true, beq_iff_eq, bne_iff_ne]
  omega

/-- The months of the calendar have the days that are counted. -/
theorem monthLasts_iff (hm : 1 ≤ month ∧ month ≤ 12) :
    MonthLasts year month n ↔ n = daysInMonth year month := by
  have hlong : month ∈ [1, 3, 5, 7, 8, 10, 12] → daysInMonth year month = 31 := by
    intro h
    fin_cases h <;> rfl
  have hshort : month ∈ [4, 6, 9, 11] → daysInMonth year month = 30 := by
    intro h
    fin_cases h <;> rfl
  have hfebruary : daysInMonth year 2 = if isLeapYear year = true then 29 else 28 := rfl
  constructor
  · intro h
    cases h with
    | long listed => exact (hlong listed).symm
    | short listed => exact (hshort listed).symm
    | leapFebruary leap => rw [hfebruary, if_pos (isLeapYear_iff.mpr leap)]
    | february common => rw [hfebruary, if_neg (mt isLeapYear_iff.mp common)]
  · intro h
    subst h
    by_cases hl : month ∈ [1, 3, 5, 7, 8, 10, 12]
    · rw [hlong hl]
      exact .long hl
    · by_cases hs : month ∈ [4, 6, 9, 11]
      · rw [hshort hs]
        exact .short hs
      · have htwo : month = 2 := by
          simp only [List.mem_cons, List.not_mem_nil, or_false] at hl hs
          omega
        subst htwo
        rw [hfebruary]
        split
        · next hleap => exact .leapFebruary (isLeapYear_iff.mp hleap)
        · next hcommon => exact .february (mt isLeapYear_iff.mpr hcommon)

/-- The days before a month include those of the month before. -/
theorem daysBeforeMonth_succ (year : Nat) (hm : 1 ≤ month) :
    daysBeforeMonth year (month + 1) = daysBeforeMonth year month + daysInMonth year month := by
  obtain ⟨k, rfl⟩ : ∃ k, month = k + 1 := ⟨month - 1, by omega⟩
  rfl

/-- A later month has all the days of an earlier one before it. -/
theorem daysBeforeMonth_add_le (year : Nat) (hm : 1 ≤ month) (h : month < month') :
    daysBeforeMonth year month + daysInMonth year month ≤ daysBeforeMonth year month' := by
  rw [← daysBeforeMonth_succ year hm]
  induction month', h using Nat.le_induction with
  | base => exact le_rfl
  | succ k hk ih =>
    have hstep : daysBeforeMonth year (k + 1) = daysBeforeMonth year k + daysInMonth year k :=
      daysBeforeMonth_succ year (by omega)
    omega

/-- The days of a year. -/
theorem daysBeforeDecember (year : Nat) :
    daysBeforeMonth year 12 + 31 = if isLeapYear year = true then 366 else 365 := by
  simp only [daysBeforeMonth, daysInMonth]
  split <;> rfl

/-- The days before a year include those of the year before. -/
theorem daysBeforeYear_succ (hy : 1 ≤ year) :
    daysBeforeYear (year + 1) = daysBeforeYear year + (daysBeforeMonth year 12 + 31) := by
  obtain ⟨p, rfl⟩ : ∃ p, year = p + 1 := ⟨year - 1, by omega⟩
  -- a leap day is counted with the year after it, so each quotient grows where its number divides
  have hgrow (k : Nat) : (p + 1) / k = p / k + if k ∣ p + 1 then 1 else 0 := Nat.succ_div
  have hle : p / 100 ≤ p / 4 := Nat.div_le_div_left (by decide) (by decide)
  have hleap : isLeapYear (p + 1) = true ↔ 4 ∣ p + 1 ∧ (100 ∣ p + 1 → 400 ∣ p + 1) := isLeapYear_iff
  rw [daysBeforeDecember]
  simp only [daysBeforeYear, Nat.add_sub_cancel, hleap, hgrow]
  by_cases h4 : 4 ∣ p + 1
  · by_cases h100 : 100 ∣ p + 1
    · by_cases h400 : 400 ∣ p + 1
      · simp only [h4, h100, h400, imp_self, and_self, ↓reduceIte]
        omega
      · simp only [h4, h100, h400, imp_false, not_true_eq_false, and_false, ↓reduceIte]
        omega
    · have h400 : ¬ 400 ∣ p + 1 := fun h => h100 (dvd_trans (by decide) h)
      simp only [h4, h100, h400, imp_self, and_self, ↓reduceIte]
      omega
  · have h100 : ¬ 100 ∣ p + 1 := fun h => h4 (dvd_trans (by decide) h)
    have h400 : ¬ 400 ∣ p + 1 := fun h => h100 (dvd_trans (by decide) h)
    simp only [h4, h100, h400, false_and, ↓reduceIte]
    omega

/-- A later year has all the days of an earlier one before it. -/
theorem daysBeforeYear_add_le {year' : Nat} (hy : 1 ≤ year) (h : year < year') :
    daysBeforeYear year + (daysBeforeMonth year 12 + 31) ≤ daysBeforeYear year' := by
  rw [← daysBeforeYear_succ hy]
  induction year', h using Nat.le_induction with
  | base => exact le_rfl
  | succ k hk ih =>
    have hstep : daysBeforeYear (k + 1) = daysBeforeYear k + (daysBeforeMonth k 12 + 31) :=
      daysBeforeYear_succ (by omega)
    omega

/-- Every month has a first day. -/
theorem daysInMonth_pos (year month : Nat) : 1 ≤ daysInMonth year month := by
  unfold daysInMonth
  split
  · split <;> decide
  all_goals decide

/-- A date is within the days of its year. -/
theorem daysBeforeMonth_add_day_le (a : Date) :
    daysBeforeMonth a.year a.month + a.day ≤ daysBeforeMonth a.year 12 + 31 := by
  have hday := a.day_bounds.2
  have hdecember : daysInMonth a.year 12 = 31 := rfl
  rcases Nat.lt_or_eq_of_le a.month_bounds.2 with hm | hm
  · have hmonth := daysBeforeMonth_add_le a.year a.month_bounds.1 hm
    omega
  · rw [hm] at hday ⊢
    omega

/-- Earlier dates have smaller numbers. -/
theorem ordinal_lt_of_before (h : a.Before b) : a.ordinal < b.ordinal := by
  have hday := b.day_bounds.1
  unfold ordinal
  rcases h with hy | ⟨hy, hm | ⟨hm, hd⟩⟩
  · have hyear := daysBeforeYear_add_le a.year_bounds.1 hy
    have hwithin := a.daysBeforeMonth_add_day_le
    omega
  · have hmonth := daysBeforeMonth_add_le a.year a.month_bounds.1 hm
    have hlast := a.day_bounds.2
    rw [← hy]
    omega
  · rw [← hy, ← hm]
    omega

/-- Of two different dates one comes before the other. -/
theorem before_trichotomy (a b : Date) : a.Before b ∨ a = b ∨ b.Before a := by
  have heq (hy : a.year = b.year) (hm : a.month = b.month) (hd : a.day = b.day) : a = b := by
    cases a
    cases b
    simp only [mk.injEq]
    exact ⟨hy, hm, hd⟩
  unfold Before
  by_cases h : a.year = b.year ∧ a.month = b.month ∧ a.day = b.day
  · exact Or.inr (Or.inl (heq h.1 h.2.1 h.2.2))
  · omega

/-- The numbers of dates are in the order of the dates. -/
theorem ordinal_lt_iff : a.ordinal < b.ordinal ↔ a.Before b := by
  refine ⟨fun h => ?_, ordinal_lt_of_before⟩
  rcases before_trichotomy a b with hab | rfl | hba
  · exact hab
  · exact absurd h (lt_irrefl _)
  · exact absurd h (ordinal_lt_of_before hba).not_gt

/-- Different dates have different numbers. -/
theorem ordinal_inj : a.ordinal = b.ordinal ↔ a = b := by
  refine ⟨fun h => ?_, congrArg ordinal⟩
  rcases before_trichotomy a b with hab | hab | hba
  · exact absurd h (ordinal_lt_of_before hab).ne
  · exact hab
  · exact absurd h (ordinal_lt_of_before hba).ne'

/-- The day after a date has the next number. -/
theorem IsNext.ordinal_eq (h : a.IsNext b) : b.ordinal = a.ordinal + 1 := by
  unfold ordinal
  cases h with
  | nextDay hy hm hd =>
    rw [hy, hm, hd]
    omega
  | nextMonth last hy hm hd =>
    have hlast := (monthLasts_iff a.month_bounds).mp last
    have hstep := daysBeforeMonth_succ a.year a.month_bounds.1
    rw [hy, hm, hd]
    omega
  | nextYear last hy hm hd =>
    have hstep := daysBeforeYear_succ a.year_bounds.1
    have hfirst : daysBeforeMonth (a.year + 1) 1 = 0 := rfl
    rw [hy, hm, hd, last.1, last.2]
    omega

/-- Every date but the last of the calendar has a day after it. -/
theorem exists_isNext (a : Date) :
    (∃ b, a.IsNext b) ∨ a.year = 9999 ∧ a.month = 12 ∧ a.day = 31 := by
  have hy := a.year_bounds
  have hm := a.month_bounds
  have hd := a.day_bounds
  have hdecember : daysInMonth a.year 12 = 31 := rfl
  by_cases hlast : a.day = daysInMonth a.year a.month
  · by_cases hmonth : a.month = 12
    · have hday : a.day = 31 := by
        rw [hlast, hmonth, hdecember]
      by_cases hyear : a.year = 9999
      · exact Or.inr ⟨hyear, hmonth, hday⟩
      · have hnext : a.year + 1 ≤ 9999 := by omega
        have hfirst : 1 ≤ daysInMonth (a.year + 1) 1 := daysInMonth_pos _ _
        exact Or.inl ⟨⟨a.year + 1, 1, 1, ⟨by omega, hnext⟩, by decide, ⟨le_rfl, hfirst⟩⟩,
          .nextYear ⟨hmonth, hday⟩ rfl rfl rfl⟩
    · have hnext : a.month + 1 ≤ 12 := by omega
      have hfirst : 1 ≤ daysInMonth a.year (a.month + 1) := daysInMonth_pos _ _
      have hlasts : MonthLasts a.year a.month a.day := (monthLasts_iff hm).mpr hlast
      exact Or.inl ⟨⟨a.year, a.month + 1, 1, hy, ⟨by omega, hnext⟩, ⟨le_rfl, hfirst⟩⟩,
        .nextMonth hlasts rfl rfl rfl⟩
  · have hnext : a.day + 1 ≤ daysInMonth a.year a.month := by omega
    exact Or.inl ⟨⟨a.year, a.month, a.day + 1, hy, hm, ⟨by omega, hnext⟩⟩, .nextDay rfl rfl rfl⟩

/-- No date comes after the last of the calendar. -/
theorem not_before_of_last (h : a.year = 9999 ∧ a.month = 12 ∧ a.day = 31) (b : Date) :
    ¬ a.Before b := by
  have hy := b.year_bounds.2
  have hm := b.month_bounds.2
  have hwithin := b.day_bounds.2
  unfold Before
  rintro (hlt | ⟨heq, hlt | ⟨hmonth, hlt⟩⟩)
  · omega
  · omega
  · rw [← hmonth, h.2.1, show daysInMonth b.year 12 = 31 from rfl] at hwithin
    omega

/-- The day after a date is the date one day away. -/
theorem isNext_iff : a.IsNext b ↔ b.dayOffset a = 1 := by
  unfold dayOffset
  refine ⟨fun h => ?_, fun h => ?_⟩
  · rw [h.ordinal_eq]
    omega
  · have hone : b.ordinal = a.ordinal + 1 := by omega
    rcases a.exists_isNext with ⟨next, hnext⟩ | hlast
    · -- the date one day away is the one with the next number
      have heq : next = b := ordinal_inj.mp (hnext.ordinal_eq.trans hone.symm)
      exact heq ▸ hnext
    · have hbefore : a.Before b := ordinal_lt_iff.mp (by omega)
      exact absurd hbefore (not_before_of_last hlast b)

/-- Weekdays advance with the days. -/
theorem weekdayNum_modEq (a b : Date) :
    (a.weekdayNum : Int) - b.weekdayNum ≡ a.dayOffset b [ZMOD 7] := by
  unfold weekdayNum dayOffset Int.ModEq
  omega

/-- The name of the weekday of a date stands for its number. -/
theorem weekdayIndex?_weekdayName (a : Date) : weekdayIndex? a.weekdayName = some a.weekdayNum :=
  placeOf?_getD (by decide) (by decide) a.weekdayNum_bounds

/-- The name of the month of a date stands for its number. -/
theorem monthIndex?_monthName (a : Date) : monthIndex? a.monthName = some a.month :=
  placeOf?_getD (by decide) (by decide) a.month_bounds

/-- A date goes before another or is equal to it unless the other comes before it. -/
theorem le_iff_not_before : a.le b = true ↔ ¬ b.Before a := by
  simp only [le, Before, Bool.or_eq_true, Bool.and_eq_true, decide_eq_true_eq, beq_iff_eq]
  omega

/-- The order of dates is that of their numbers. -/
theorem le_iff_ordinal_le : a.le b = true ↔ a.ordinal ≤ b.ordinal := by
  rw [le_iff_not_before, ← ordinal_lt_iff, not_lt]

/-- Dates are coherent: distances add up, have the sign of the order of the dates, and are one
exactly from a day to the next of the calendar; every day but the last has a next one. Weekdays
advance with the days from 1 to 7 and round again, and the names of weekdays and months stand for
their numbers. So on any day due dates are in the order of the days that are left. -/
theorem calendar_coherent (a b c today : Date) :
    a.dayOffset c = a.dayOffset b + b.dayOffset c ∧
    ((a.dayOffset b < 0 ↔ a.Before b) ∧ (a.dayOffset b = 0 ↔ a = b) ∧
      (0 < a.dayOffset b ↔ b.Before a)) ∧
    ((a.IsNext b ↔ b.dayOffset a = 1) ∧
      ((∃ next, a.IsNext next) ∨ a.year = 9999 ∧ a.month = 12 ∧ a.day = 31)) ∧
    ((a.weekdayNum : Int) - b.weekdayNum ≡ a.dayOffset b [ZMOD 7] ∧
      1 ≤ a.weekdayNum ∧ a.weekdayNum ≤ 7) ∧
    weekdayIndex? a.weekdayName = some a.weekdayNum ∧
    monthIndex? a.monthName = some a.month ∧
    (dueLe (some a) (some b) = true ↔ a.dayOffset today ≤ b.dayOffset today) := by
  have hbefore : a.dayOffset b < 0 ↔ a.Before b := by
    rw [← ordinal_lt_iff, dayOffset]
    omega
  have hequal : a.dayOffset b = 0 ↔ a = b := by
    rw [← ordinal_inj, dayOffset]
    omega
  have hafter : 0 < a.dayOffset b ↔ b.Before a := by
    rw [← ordinal_lt_iff, dayOffset]
    omega
  have hdue : dueLe (some a) (some b) = true ↔ a.dayOffset today ≤ b.dayOffset today := by
    rw [dueLe, le_iff_ordinal_le, dayOffset, dayOffset]
    omega
  refine ⟨?_, ⟨hbefore, hequal, hafter⟩, ⟨isNext_iff, a.exists_isNext⟩,
    ⟨weekdayNum_modEq a b, a.weekdayNum_bounds⟩, a.weekdayIndex?_weekdayName,
    a.monthIndex?_monthName, hdue⟩
  simp only [dayOffset]
  omega

/-- The turn of a century that is a leap year: there is a day between, and a Wednesday follows. -/
example :
    let before : Date := ⟨2000, 2, 28, by decide, by decide, by decide⟩
    let after : Date := ⟨2000, 3, 1, by decide, by decide, by decide⟩
    after.dayOffset before = 2 ∧ after.weekdayName = "wed".toList := by
  decide

end Date

end GatherBoard
