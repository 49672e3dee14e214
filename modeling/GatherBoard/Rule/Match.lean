import GatherBoard.Facts
import GatherBoard.Rule.Header

/-!
# Matching cards

Whether an atom holds for a card depends on the facts of the card and on
today. A date atom does not hold for a card without a due date, negated or
not. Atoms built by hand may put an integer and a name in an order, which
has no answer; atoms that were read never do.
-/

namespace GatherBoard

/-- The two kinds of values. -/
inductive ValueKind where
  | number
  | name
  deriving DecidableEq, Repr

/-- The kind of a value. -/
def Value.kind : Value → ValueKind
  | .number _ => .number
  | .name _ => .name

/-- An integer and a name cannot be put in an order. -/
structure Mismatch where
  /-- The order that was asked for. -/
  comparison : Comparison
  /-- The kind on the left. -/
  actual : ValueKind
  /-- The kind on the right. -/
  expected : ValueKind
  deriving DecidableEq, Repr

/-- The name of a kind of values in messages. -/
def ValueKind.label : ValueKind → Text
  | .number => "int".toList
  | .name => "str".toList

/-- A mismatch in words. -/
def Mismatch.message (m : Mismatch) : Text :=
  ['\''] ++ m.comparison.sign ++ "' not supported between instances of '".toList ++
    m.actual.label ++ "' and '".toList ++ m.expected.label ++ ['\'']

/-- Why a field has no value to compare with. -/
def Field.refusal (field : Field) : Text :=
  "Not a date field: Field.".toList ++ Text.upper field.label

/-- The value of a date field for a due date. Persons are no date field. -/
def Field.value? (field : Field) (due today : Date) : Option Value :=
  match field with
  | .person => none
  | .dayOffset => some (.number (due.dayOffset today))
  | .weekday => some (.name due.weekdayName)
  | .weekdayNum => some (.number due.weekdayNum)
  | .month => some (.name due.monthName)
  | .monthNum => some (.number due.month)

/-- The order of two values of one kind. -/
def Value.less? : Value → Value → Option Bool
  | .number a, .number b => some (a < b)
  | .name s, .name t => some (s < t)
  | _, _ => none

/-- Compare two values. -/
def Comparison.holds (c : Comparison) (actual expected : Value) : Except Mismatch Bool :=
  let ordered (answer : Option Bool) : Except Mismatch Bool :=
    match answer with
    | some b => .ok b
    | none => .error ⟨c, actual.kind, expected.kind⟩
  match c with
  | .equal => .ok (actual == expected)
  | .notEqual => .ok (actual != expected)
  | .less => ordered (actual.less? expected)
  | .greater => ordered (expected.less? actual)

namespace Atom

/-- Is a person of this name, without regard to case, among the facts? -/
def hasPerson (name : Text) (facts : Facts) : Bool :=
  facts.persons.any fun person => Text.lower person == Text.lower name

/-- Does the atom hold for a card with these facts? -/
def holds (a : Atom) (facts : Facts) (today : Date) : Except Mismatch Bool :=
  match a.field with
  | .person => .ok (hasPerson a.value.text facts != a.negated)
  | field =>
    match facts.dueDate with
    | none => .ok false
    | some due =>
      match field.value? due today with
      | none => .ok false
      | some actual => do
        let b ← a.comparison.holds actual a.value
        return b != a.negated

end Atom

/-- Do all atoms hold? The first that does not hold ends the search. -/
def Clause.holds (c : Clause) (facts : Facts) (today : Date) : Except Mismatch Bool :=
  c.atoms.allM fun a => a.holds facts today

/-- Does one clause hold? The first that holds ends the search. -/
def ColumnRules.matchesCard (rules : ColumnRules) (facts : Facts) (today : Date) :
    Except Mismatch Bool :=
  rules.clauses.anyM fun c => c.holds facts today

end GatherBoard
