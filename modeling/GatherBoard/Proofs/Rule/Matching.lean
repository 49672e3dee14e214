import GatherBoard.Proofs.Rule.Headers
import GatherBoard.Rule.Match

/-!
# Headers that gather a card

A header gathers a card if all atoms of one of its clauses hold for it. Where the
search through the clauses and atoms has an answer, it answers this question.
-/

namespace GatherBoard

variable {facts : Facts} {today : Date}

/-- The header has a clause all of whose atoms hold for a card with these facts. -/
def Gathers (header : Text) (facts : Facts) (today : Date) : Prop :=
  ∃ rules, ColumnRules.read header = .ok rules ∧
    ∃ c ∈ rules.clauses, ∀ a ∈ c.atoms, a.holds facts today = .ok true

/-- A clause holds if all of its atoms do. -/
theorem Clause.holds_eq_true_iff {c : Clause} :
    c.holds facts today = .ok true ↔ ∀ a ∈ c.atoms, a.holds facts today = .ok true :=
  allM_eq_true_iff

/-- The answer of a search through the clauses is whether the header gathers the card. -/
theorem gathers_iff_of_matchesCard {header : Text} {rules : ColumnRules} {answer : Bool}
    (hr : ColumnRules.read header = .ok rules)
    (hm : rules.matchesCard facts today = .ok answer) :
    Gathers header facts today ↔ answer = true := by
  have hg : Gathers header facts today ↔ ∃ c ∈ rules.clauses, c.holds facts today = .ok true := by
    unfold Gathers
    simp only [hr, Except.ok.injEq, exists_eq_left', Clause.holds_eq_true_iff]
  rw [hg]
  cases answer with
  | true =>
    have hc : ∃ c ∈ rules.clauses, c.holds facts today = .ok true := exists_of_anyM_eq_true hm
    simp only [hc]
  | false =>
    have hn : ∀ c ∈ rules.clauses, c.holds facts today = .ok false := anyM_eq_false_iff.mp hm
    rw [iff_false_right Bool.false_ne_true]
    rintro ⟨c, hc, hh⟩
    have he := (hn c hc).symm.trans hh
    cases he

end GatherBoard
