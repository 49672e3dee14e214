import GatherBoard.Proofs.Rule.CanonicalText
import GatherBoard.Proofs.Rule.Matching
import GatherBoard.Proofs.Rule.Typing

/-!
# Rules that were read have answers

The clauses of a header have atoms, and each of these is typed. The rules of a header have
therefore an answer for every card and every day: whether all atoms of one of the clauses
hold.
-/

namespace GatherBoard

variable {facts : Facts} {today : Date} {header : Text} {rules : ColumnRules}

/-- A clause of typed atoms. Without atoms it would hold for every card. -/
structure Clause.IsTyped (c : Clause) : Prop where
  nonempty : c.atoms ≠ []
  atoms : ∀ a ∈ c.atoms, a.IsTyped

/-- The clauses of a header are typed. -/
theorem ColumnRules.isTyped_of_mem_clauses (h : ColumnRules.read header = .ok rules) {c : Clause}
    (hc : c ∈ rules.clauses) : c.IsTyped := by
  have hread := isRead_of_mem_clauses h hc
  refine ⟨hread.nonempty, fun a ha => ?_⟩
  obtain ⟨part, -, hr⟩ := hread.atoms a ha
  exact (Atom.isWellFormed_of_read hr).isTyped

/-- The rules of a header have an answer for every card. -/
theorem ColumnRules.exists_matchesCard (h : ColumnRules.read header = .ok rules) :
    ∃ b, rules.matchesCard facts today = .ok b :=
  exists_anyM fun _ hc => exists_allM fun a ha =>
    ((isTyped_of_mem_clauses h hc).atoms a ha).exists_holds

/-- The rules of a header are typed, so that no comparison that they ask for is without a
value or without an answer. On every day they say of every card whether all atoms of one
of the clauses hold for it. -/
theorem ColumnRules.typed_and_answered (h : ColumnRules.read header = .ok rules) :
    (∀ c ∈ rules.clauses, c.IsTyped) ∧
    (∀ c ∈ rules.clauses, ∀ a ∈ c.atoms, a.field ≠ .person → ∀ due today : Date,
      ∃ actual answer, a.field.value? due today = some actual ∧
        a.comparison.holds actual a.value = .ok answer) ∧
    ∀ (t : Text) (today : Date), ∃ answer,
      rules.matchesCard (Facts.ofText t) today = .ok answer ∧
        (answer = true ↔
          ∃ c ∈ rules.clauses, ∀ a ∈ c.atoms, a.holds (Facts.ofText t) today = .ok true) := by
  have htyped : ∀ c ∈ rules.clauses, c.IsTyped := fun c => isTyped_of_mem_clauses h
  refine ⟨htyped, ?_, ?_⟩
  · intro c hc a ha hp due today
    exact ((htyped c hc).atoms a ha).exists_comparison hp due today
  · intro t today
    obtain ⟨answer, hm⟩ : ∃ answer, rules.matchesCard (Facts.ofText t) today = .ok answer :=
      exists_matchesCard h
    refine ⟨answer, hm, (gathers_iff_of_matchesCard h hm).symm.trans ?_⟩
    unfold Gathers
    simp only [h, Except.ok.injEq, exists_eq_left']

/-- A header whose clauses ask for values of every kind. Of its other segments one puts a
weekday in an order, one has a month that is none, and one has no atoms. -/
def weeklyHeader : Text :=
  "Week #gather_!Anna&0<day|weekday!=SUN&weekdaynum<+6 #gather_month=Feb&monthnum=٢|&|weekday<tue|month=xyz".toList

/-- The rules that it states. -/
def weeklyRules : ColumnRules where
  clauses := [
    ⟨[⟨.person, .equal, .name "Anna".toList, true⟩, ⟨.dayOffset, .greater, .number 0, false⟩]⟩,
    ⟨[⟨.weekday, .notEqual, .name "sun".toList, false⟩, ⟨.weekdayNum, .less, .number 6, false⟩]⟩,
    ⟨[⟨.month, .equal, .name "feb".toList, false⟩, ⟨.monthNum, .equal, .number 2, false⟩]⟩]
  ungathered := false
  unsorted := false
  orders := []
  diagnostics := [
    ⟨"#gather_month=Feb&monthnum=٢|&|weekday<tue|month=xyz".toList,
      .dropped "weekday<tue".toList (.notOrdered .less "weekday".toList)⟩,
    ⟨"#gather_month=Feb&monthnum=٢|&|weekday<tue|month=xyz".toList,
      .dropped "month=xyz".toList (.unknownName .month "xyz".toList)⟩]

/-- The rules of the week are typed and have answers. -/
theorem weeklyRules_answered :
    ColumnRules.read weeklyHeader = .ok weeklyRules ∧
    (∀ c ∈ weeklyRules.clauses, c.IsTyped) ∧
    (∀ c ∈ weeklyRules.clauses, ∀ a ∈ c.atoms, a.field ≠ .person → ∀ due today : Date,
      ∃ actual answer, a.field.value? due today = some actual ∧
        a.comparison.holds actual a.value = .ok answer) ∧
    ∀ (t : Text) (today : Date), ∃ answer,
      weeklyRules.matchesCard (Facts.ofText t) today = .ok answer ∧
        (answer = true ↔
          ∃ c ∈ weeklyRules.clauses, ∀ a ∈ c.atoms, a.holds (Facts.ofText t) today = .ok true) := by
  have hr : ColumnRules.read weeklyHeader = .ok weeklyRules := by decide +kernel
  exact ⟨hr, ColumnRules.typed_and_answered hr⟩

end GatherBoard
