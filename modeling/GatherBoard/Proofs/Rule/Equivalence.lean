import GatherBoard.Proofs.Rule.Typing
import Mathlib.Data.List.Nodup

/-!
# Atoms with the same answers

Two atoms are equivalent if they have the same answer for every card on every day. Atoms of
dates are equivalent if they have the same answer for every due date, because a card without
one is refused by both, negated or not. A negated sign is the opposite sign, and the names of
weekdays and months stand for their numbers.
-/

namespace GatherBoard

/-- A place in a list of different names is where its name is found. -/
theorem getD_eq_lower_iff {names : List Text} {name : Text} {i k : Nat} (hd : names.Nodup)
    (hi : placeOf? names name = some i) (hk : 1 ≤ k ∧ k ≤ names.length) :
    names.getD (k - 1) [] = Text.lower name ↔ k = i := by
  obtain ⟨j, hj, rfl⟩ := Option.map_eq_some_iff.mp hi
  obtain ⟨hlt, heq, -⟩ := List.findIdx?_eq_some_iff_getElem.mp hj
  have hlower : names[j] = Text.lower name := by simpa using heq
  have hklt : k - 1 < names.length := by omega
  rw [List.getD_eq_getElem?_getD, List.getElem?_eq_getElem hklt, Option.getD_some, ← hlower,
    hd.getElem_inj_iff]
  omega

/-- Weekdays are counted from 1 to 7. -/
theorem Date.weekdayNum_bounds (d : Date) : 1 ≤ d.weekdayNum ∧ d.weekdayNum ≤ 7 := by
  unfold Date.weekdayNum
  omega

/-- A numeric field has a number for every due date. -/
theorem Field.exists_number {field : Field} (h : field.isNumeric = true) (due today : Date) :
    ∃ n, field.value? due today = some (.number n) := by
  cases field with
  | dayOffset | weekdayNum | monthNum => exact ⟨_, rfl⟩
  | person | weekday | month => cases h

namespace Atom

variable {a b : Atom} {facts : Facts} {today due : Date} {field : Field}

/-- The two atoms have the same answer for every card on every day. -/
def Equivalent (a b : Atom) : Prop :=
  ∀ facts today, ∃ answer, a.holds facts today = .ok answer ∧ b.holds facts today = .ok answer

/-- An atom of dates does not hold for a card without a due date. -/
theorem holds_of_no_due (hp : a.field ≠ .person) (hd : facts.dueDate = none) :
    a.holds facts today = .ok false := by
  unfold Atom.holds
  split
  · next hf => exact absurd hf hp
  · rw [hd]

/-- The answer of an atom of dates is that of its comparison, turned around if the atom is
negated. -/
theorem holds_of_due {actual : Value} {outcome : Bool} (hd : facts.dueDate = some due)
    (hv : a.field.value? due today = some actual)
    (hc : a.comparison.holds actual a.value = .ok outcome) :
    a.holds facts today = .ok (outcome != a.negated) := by
  unfold Atom.holds
  split
  · next hf =>
    rw [hf] at hv
    cases hv
  · rw [hd]
    simp only [hv, hc, bind, Except.bind, pure, Except.pure]

/-- The atom has this answer for a due date. -/
def Answers (a : Atom) (due today : Date) (answer : Bool) : Prop :=
  ∃ actual outcome, a.field.value? due today = some actual ∧
    a.comparison.holds actual a.value = .ok outcome ∧ answer = (outcome != a.negated)

/-- Atoms of dates with the same answers for due dates are equivalent. -/
theorem equivalent_of_answers (ha : a.field ≠ .person) (hb : b.field ≠ .person)
    (h : ∀ due today, ∃ answer, a.Answers due today answer ∧ b.Answers due today answer) :
    a.Equivalent b := by
  intro facts today
  cases hd : facts.dueDate with
  | none => exact ⟨false, holds_of_no_due ha hd, holds_of_no_due hb hd⟩
  | some due =>
    obtain ⟨answer, ⟨x, xo, hx, hxo, hxa⟩, y, yo, hy, hyo, hya⟩ := h due today
    refine ⟨answer, ?_, ?_⟩
    · rw [hxa]
      exact holds_of_due hd hx hxo
    · rw [hya]
      exact holds_of_due hd hy hyo

/-- The atom that is negated if this one is not. -/
def opposite (a : Atom) : Atom := { a with negated := !a.negated }

/-- An atom has the opposite answer of its opposite, but for a date on a card without one. -/
theorem IsTyped.holds_opposite (h : a.IsTyped) (facts : Facts) (today : Date) :
    if a.field ≠ .person ∧ facts.dueDate = none then
      a.holds facts today = .ok false ∧ a.opposite.holds facts today = .ok false
    else ∃ answer, a.holds facts today = .ok answer ∧
      a.opposite.holds facts today = .ok !answer := by
  split
  · next hnone =>
    exact ⟨holds_of_no_due hnone.1 hnone.2, holds_of_no_due (a := a.opposite) hnone.1 hnone.2⟩
  · next hsome =>
    by_cases hp : a.field = .person
    · refine ⟨hasPerson a.value.text facts != a.negated, ?_, ?_⟩
      · simp only [Atom.holds, hp]
      · simp only [Atom.holds, opposite, hp, Bool.bne_not]
    · obtain ⟨due, hd⟩ : ∃ due, facts.dueDate = some due := by
        rw [← Option.ne_none_iff_exists']
        exact fun hn => hsome ⟨hp, hn⟩
      obtain ⟨actual, outcome, hv, hc⟩ := h.exists_comparison hp due today
      have hop := holds_of_due (a := a.opposite) hd hv hc
      refine ⟨outcome != a.negated, holds_of_due hd hv hc, ?_⟩
      rw [hop, opposite, Bool.bne_not]

/-- A sign, turned around, is a sign with the opposite outcome for every value of the field. -/
theorem equivalent_of_opposite {sign sign' : Comparison} {value value' : Value}
    (hp : field ≠ .person) (negated : Bool)
    (h : ∀ due today actual, field.value? due today = some actual →
      ∃ outcome, sign.holds actual value = .ok outcome ∧ sign'.holds actual value' = .ok !outcome) :
    Equivalent ⟨field, sign, value, !negated⟩ ⟨field, sign', value', negated⟩ := by
  refine equivalent_of_answers hp hp fun due today => ?_
  obtain ⟨actual, hv, -⟩ := Field.exists_value? hp due today
  obtain ⟨outcome, ho, ho'⟩ := h due today actual hv
  refine ⟨outcome != !negated, ⟨actual, outcome, hv, ho, rfl⟩, actual, !outcome, hv, ho', ?_⟩
  rw [Bool.bne_not, Bool.not_bne]

/-- To be equal, turned around, is to be unequal. -/
theorem equivalent_notEqual (hp : field ≠ .person) (value : Value) (negated : Bool) :
    Equivalent ⟨field, .equal, value, !negated⟩ ⟨field, .notEqual, value, negated⟩ :=
  equivalent_of_opposite hp negated fun _ _ actual _ => ⟨actual == value, rfl, rfl⟩

/-- To be unequal, turned around, is to be equal. -/
theorem equivalent_equal (hp : field ≠ .person) (value : Value) (negated : Bool) :
    Equivalent ⟨field, .notEqual, value, !negated⟩ ⟨field, .equal, value, negated⟩ :=
  equivalent_of_opposite hp negated fun _ _ actual _ =>
    ⟨actual != value, rfl, by rw [bne, Bool.not_not]; rfl⟩

/-- A number that is not less than another is greater than the one before it. -/
theorem equivalent_greater (hn : field.isNumeric = true) (n : Int) (negated : Bool) :
    Equivalent ⟨field, .less, .number n, !negated⟩ ⟨field, .greater, .number (n - 1), negated⟩ := by
  refine equivalent_of_opposite (ne_person_of_isNumeric hn) negated fun due today actual hv => ?_
  obtain ⟨k, hk⟩ := Field.exists_number hn due today
  obtain rfl : Value.number k = actual := Option.some.inj (hk.symm.trans hv)
  refine ⟨decide (k < n), rfl, congrArg Except.ok ?_⟩
  rw [← decide_not, decide_eq_decide]
  omega

/-- A number that is not greater than another is less than the one after it. -/
theorem equivalent_less (hn : field.isNumeric = true) (n : Int) (negated : Bool) :
    Equivalent ⟨field, .greater, .number n, !negated⟩ ⟨field, .less, .number (n + 1), negated⟩ := by
  refine equivalent_of_opposite (ne_person_of_isNumeric hn) negated fun due today actual hv => ?_
  obtain ⟨k, hk⟩ := Field.exists_number hn due today
  obtain rfl : Value.number k = actual := Option.some.inj (hk.symm.trans hv)
  refine ⟨decide (n < k), rfl, congrArg Except.ok ?_⟩
  rw [← decide_not, decide_eq_decide]
  omega

/-- A field of names is equal to a name where a field of places is equal to its place. -/
theorem equivalent_place {names : List Text} {name : Text} {i : Nat} {numeric : Field}
    (hd : names.Nodup) (hi : placeOf? names name = some i)
    (hv : ∀ due today, ∃ k, (1 ≤ k ∧ k ≤ names.length) ∧
      field.value? due today = some (.name (names.getD (k - 1) [])) ∧
      numeric.value? due today = some (.number k)) (hp : field ≠ .person)
    (hn : numeric ≠ .person) :
    Equivalent ⟨field, .equal, .name (Text.lower name), false⟩
      ⟨numeric, .equal, .number i, false⟩ := by
  refine equivalent_of_answers hp hn fun due today => ?_
  obtain ⟨k, hk, hname, hnumber⟩ := hv due today
  refine ⟨decide (k = i) != false, ⟨_, _, hname, rfl, ?_⟩, _, _, hnumber, rfl, ?_⟩
  · have hname : (Value.name (names.getD (k - 1) []) == .name (Text.lower name)) = decide (k = i) := by
      rw [Bool.eq_iff_iff, beq_iff_eq, Value.name.injEq, decide_eq_true_iff,
        getD_eq_lower_iff hd hi hk]
    rw [hname]
  · have hnumber : (Value.number k == .number i) = decide (k = i) := by
      rw [Bool.eq_iff_iff, beq_iff_eq, Value.number.injEq, decide_eq_true_iff, Int.ofNat_inj]
    rw [hnumber]

/-- A weekday is equal to a name where its number is equal to the place of the name. -/
theorem equivalent_weekday {name : Text} {i : Nat} (hi : weekdayIndex? name = some i) :
    Equivalent ⟨.weekday, .equal, .name (Text.lower name), false⟩
      ⟨.weekdayNum, .equal, .number i, false⟩ :=
  equivalent_place (by decide) hi
    (fun due _ => ⟨due.weekdayNum, due.weekdayNum_bounds, rfl, rfl⟩) (by decide) (by decide)

/-- A month is equal to a name where its number is equal to the place of the name. -/
theorem equivalent_month {name : Text} {i : Nat} (hi : monthIndex? name = some i) :
    Equivalent ⟨.month, .equal, .name (Text.lower name), false⟩
      ⟨.monthNum, .equal, .number i, false⟩ :=
  equivalent_place (by decide) hi
    (fun due _ => ⟨due.month, due.month_bounds, rfl, rfl⟩) (by decide) (by decide)

end Atom

end GatherBoard
