import GatherBoard.Text.Basic

/-!
# Rule atoms

The smallest rule compares one field of a card with a value, possibly
negated. The written form of an atom is its canonical text: a person by
name alone, every other field with its sign and value.
-/

namespace GatherBoard

/-- What an atom looks at. -/
inductive Field where
  /-- The persons of the card. -/
  | person
  /-- Days from today to the due date. -/
  | dayOffset
  /-- Name of the due date's weekday. -/
  | weekday
  /-- Number of the due date's weekday. -/
  | weekdayNum
  /-- Name of the due date's month. -/
  | month
  /-- Number of the due date's month. -/
  | monthNum
  deriving DecidableEq, Repr

/-- How an atom compares. -/
inductive Comparison where
  | equal
  | notEqual
  | less
  | greater
  deriving DecidableEq, Repr

/-- What a field is compared with. -/
inductive Value where
  | number (n : Int)
  | name (t : Text)
  deriving DecidableEq, Repr

/-- One comparison of a field with a value. -/
structure Atom where
  /-- The field looked at. -/
  field : Field
  /-- The comparison made. -/
  comparison : Comparison
  /-- The value on the right of the sign. -/
  value : Value
  /-- Is the outcome turned around? -/
  negated : Bool
  deriving DecidableEq, Repr

/-- Atoms that must all hold. -/
structure Clause where
  /-- The atoms, in the order in which they are looked at. -/
  atoms : List Atom
  deriving DecidableEq, Repr

/-- Fields with integer values. -/
def Field.isNumeric : Field → Bool
  | .dayOffset | .weekdayNum | .monthNum => true
  | .person | .weekday | .month => false

/-- The name of a field in rules. -/
def Field.label : Field → Text
  | .person => "person".toList
  | .dayOffset => "dayoffset".toList
  | .weekday => "weekday".toList
  | .weekdayNum => "weekdaynum".toList
  | .month => "month".toList
  | .monthNum => "monthnum".toList

/-- The sign of a comparison. -/
def Comparison.sign : Comparison → Text
  | .equal => ['=']
  | .notEqual => ['!', '=']
  | .less => ['<']
  | .greater => ['>']

/-- The comparison that says the same when the operands change sides. -/
def Comparison.flipped : Comparison → Comparison
  | .less => .greater
  | .greater => .less
  | c => c

/-- Is this one of the two order comparisons? -/
def Comparison.isOrder : Comparison → Bool
  | .less | .greater => true
  | .equal | .notEqual => false

/-- The text of a value. -/
def Value.text : Value → Text
  | .number n => Text.ofInt n
  | .name t => t

/-- The canonical text of an atom. -/
def Atom.describe (a : Atom) : Text :=
  (if a.negated then ['!'] else []) ++
    match a.field with
    | .person => a.value.text
    | field => field.label ++ a.comparison.sign ++ a.value.text

/-- The canonical text of a clause. -/
def Clause.describe (c : Clause) : Text := Text.joinWith ['&'] (c.atoms.map Atom.describe)

end GatherBoard
