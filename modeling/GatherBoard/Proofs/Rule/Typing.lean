import GatherBoard.Proofs.Rule.AtomTexts
import GatherBoard.Rule.Match

/-!
# Typed atoms

An atom is typed if its value is of the kind that its field has, and if it asks for no order
where its field has none. A comparison puts an integer and a name in an order only in an
atom that is not typed, so that a typed atom has an answer for every card and every day.
What is read is typed.
-/

namespace GatherBoard

/-- The fields whose values are integers. -/
def numericFields : List Field := [.dayOffset, .weekdayNum, .monthNum]

/-- A typed atom. -/
structure Atom.IsTyped (a : Atom) : Prop where
  /-- Integers are the values of the numeric fields and of no other. -/
  number_iff : (∃ n, a.value = .number n) ↔ a.field ∈ numericFields
  /-- Only numeric fields are put in an order. -/
  ordered : a.comparison = .less ∨ a.comparison = .greater → a.field ∈ numericFields
  /-- A weekday is one of those that have a name, in lower case. -/
  weekday : a.field = .weekday →
    ∃ name ∈ weekdayNames, Text.lower name = name ∧ a.value = .name name
  /-- A month is one of those that have a name, in lower case. -/
  month : a.field = .month → ∃ name ∈ monthNames, Text.lower name = name ∧ a.value = .name name
  /-- A person is asked for by a name that is not empty, and compared in one way only. -/
  person : a.field = .person → a.comparison = .equal ∧ ∃ name, name ≠ [] ∧ a.value = .name name

/-- A field is numeric if it is one of three. -/
theorem Field.isNumeric_iff {field : Field} : field.isNumeric = true ↔ field ∈ numericFields := by
  cases field <;> decide

/-- An order is one of two comparisons. -/
theorem Comparison.isOrder_iff {c : Comparison} :
    c.isOrder = true ↔ c = .less ∨ c = .greater := by
  cases c <;> simp [isOrder]

namespace Atom

/-- A well-formed atom is typed. -/
theorem IsWellFormed.isTyped {a : Atom} (h : a.IsWellFormed) : a.IsTyped := by
  cases h with
  | person named unsigned marked =>
    constructor <;> simp [numericFields, named]
  | @number field comparison n negated numeric short =>
    have hm := Field.isNumeric_iff.mp numeric
    have hne : field ≠ .weekday ∧ field ≠ .month ∧ field ≠ .person := by
      refine ⟨?_, ?_, ?_⟩ <;>
      · rintro rfl
        cases numeric
    exact ⟨⟨fun _ => hm, fun _ => ⟨n, rfl⟩⟩, fun _ => hm, fun he => absurd he hne.1,
      fun he => absurd he hne.2.1, fun he => absurd he hne.2.2⟩
  | @name field comparison name negated unordered known =>
    obtain ⟨hp, hnumeric, hl, -⟩ := spec_of_mem_names known
    have hn : field ∉ numericFields := by
      rw [← Field.isNumeric_iff, hnumeric]
      exact Bool.false_ne_true
    refine ⟨⟨?_, fun hm => absurd hm hn⟩, fun ho => ?_, ?_, ?_, ?_⟩
    · rintro ⟨_, ⟨⟩⟩
    · rw [← Comparison.isOrder_iff, unordered] at ho
      cases ho
    · rintro rfl
      exact ⟨name, known, hl, rfl⟩
    · rintro rfl
      exact ⟨name, known, hl, rfl⟩
    · exact fun he => absurd he hp

end Atom

variable {facts : Facts} {today : Date}

/-- A comparison has an answer if it is no order, or if its values are of one kind. -/
theorem Comparison.exists_holds {c : Comparison} {actual expected : Value}
    (h : c.isOrder = true → actual.kind = expected.kind) :
    ∃ b, c.holds actual expected = .ok b := by
  have hless (s t : Value) (hk : s.kind = t.kind) : ∃ b, s.less? t = some b := by
    cases s <;> cases t <;> first | exact ⟨_, rfl⟩ | cases hk
  cases c with
  | equal => exact ⟨_, rfl⟩
  | notEqual => exact ⟨_, rfl⟩
  | less =>
    obtain ⟨b, hb⟩ := hless actual expected (h rfl)
    exact ⟨b, by simp only [holds, hb]⟩
  | greater =>
    obtain ⟨b, hb⟩ := hless expected actual (h rfl).symm
    exact ⟨b, by simp only [holds, hb]⟩

/-- A field of dates has a value for every due date, which is a number if the field is
numeric. -/
theorem Field.exists_value? {field : Field} (h : field ≠ .person) (due today : Date) :
    ∃ actual, field.value? due today = some actual ∧
      (field ∈ numericFields → actual.kind = .number) := by
  cases field with
  | person => exact absurd rfl h
  | dayOffset | weekdayNum | monthNum => exact ⟨_, rfl, fun _ => rfl⟩
  | weekday | month => exact ⟨_, rfl, fun hm => absurd hm (by decide)⟩

namespace Atom

variable {a : Atom}

/-- A typed atom of dates compares the value that its field has with a value that it can be
compared with. -/
theorem IsTyped.exists_comparison (h : a.IsTyped) (hp : a.field ≠ .person) (due today : Date) :
    ∃ actual answer, a.field.value? due today = some actual ∧
      a.comparison.holds actual a.value = .ok answer := by
  obtain ⟨actual, hv, hk⟩ := Field.exists_value? hp due today
  obtain ⟨answer, ha⟩ : ∃ answer, a.comparison.holds actual a.value = .ok answer := by
    refine Comparison.exists_holds fun ho => ?_
    have hm := h.ordered (Comparison.isOrder_iff.mp ho)
    obtain ⟨n, hn⟩ := h.number_iff.mpr hm
    rw [hk hm, hn]
    rfl
  exact ⟨actual, answer, hv, ha⟩

/-- A typed atom has an answer. -/
theorem IsTyped.exists_holds (h : a.IsTyped) : ∃ b, a.holds facts today = .ok b := by
  unfold Atom.holds
  split
  · exact ⟨_, rfl⟩
  · next hp =>
    split
    · exact ⟨_, rfl⟩
    · next due _ =>
      obtain ⟨actual, answer, hv, ha⟩ := h.exists_comparison hp due today
      exact ⟨answer != a.negated, by simp only [hv, ha, bind, Except.bind, pure, Except.pure]⟩

end Atom

end GatherBoard
