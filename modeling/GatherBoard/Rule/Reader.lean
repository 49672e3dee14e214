import GatherBoard.Calendar.Names
import GatherBoard.Rule.Atom
import GatherBoard.Text.Digit

/-!
# Reading rule atoms

An atom in writing is a person's name, or a field, a sign and a value, or
the reverse of that with an integer on the left. Exclamation marks in front
negate. A text that is none of these is malformed for a stated cause; an
integer past the limit on digits stops the reading of all rules.
-/

namespace GatherBoard

/-- Why a text is not an atom. -/
inductive Malformed where
  /-- Nothing follows the exclamation marks. -/
  | missingOperand
  /-- The text before the sign names no field. -/
  | unknownField (keyword : Text)
  /-- Nothing follows the sign. -/
  | missingValue (keyword : Text)
  /-- The value of a numeric field is no integer. -/
  | notInteger (keyword value : Text)
  /-- A field of names is put in an order. -/
  | notOrdered (comparison : Comparison) (keyword : Text)
  /-- The value names no weekday or month. -/
  | unknownName (field : Field) (value : Text)
  deriving DecidableEq, Repr

/-- A cause in words. -/
def Malformed.reason : Malformed → Text
  | .missingOperand => "missing operand after '!'".toList
  | .unknownField k => "unknown field '".toList ++ k ++ ['\'']
  | .missingValue k => "missing value for '".toList ++ k ++ ['\'']
  | .notInteger k v =>
    ['\''] ++ k ++ "' expects an integer, got '".toList ++ v ++ ['\'']
  | .notOrdered c k =>
    "operator '".toList ++ c.sign ++ "' needs a numeric field, not '".toList ++ k ++ ['\'']
  | .unknownName f v => "unknown ".toList ++ f.label ++ " '".toList ++ v ++ ['\'']

/-- Why no atom could be read. -/
inductive AtomError where
  /-- The text is not an atom. -/
  | malformed (cause : Malformed)
  /-- An integer has this many digits, more than are allowed. -/
  | overlong (digits : Nat)
  deriving DecidableEq, Repr

namespace Atom

/-- The field that a keyword names, without regard to case. -/
def fieldOf? (keyword : Text) : Option Field :=
  let k := Text.lower keyword
  if k = "dayoffset".toList || k = "day".toList then some .dayOffset
  else if k = "weekday".toList then some .weekday
  else if k = "weekdaynum".toList then some .weekdayNum
  else if k = "month".toList then some .month
  else if k = "monthnum".toList then some .monthNum
  else none

/-- Take off leading exclamation marks that do not begin an inequality sign,
and tell whether their number is odd. -/
def stripNegation (negated : Bool) : Text → Bool × Text
  | '!' :: '=' :: rest => (negated, '!' :: '=' :: rest)
  | '!' :: rest => stripNegation (!negated) rest
  | t => (negated, t)

/-- Cut a text at its first sign: what stands before, the comparison, and
what stands after. -/
def cutAtSign? : Text → Option (Text × Comparison × Text)
  | [] => none
  | '!' :: '=' :: rest => some ([], .notEqual, rest)
  | c :: rest =>
    if c = '=' then some ([], .equal, rest)
    else if c = '<' then some ([], .less, rest)
    else if c = '>' then some ([], .greater, rest)
    else (cutAtSign? rest).map fun (left, comparison, right) => (c :: left, comparison, right)

/-- The two sides and the comparison of a text in one line. A final line
break does not count; with any other break the text has no sides. -/
def sides? (t : Text) : Option (Text × Comparison × Text) :=
  let line := Text.dropFinalBreak t
  if line.contains '\n' then none else cutAtSign? line

/-- The atom of a field named by `keyword` and a value in writing. -/
def ofSides (negated : Bool) (keyword : Text) (comparison : Comparison) (value : Text) :
    Except AtomError Atom :=
  match fieldOf? keyword with
  | none => .error (.malformed (.unknownField keyword))
  | some field =>
    if value.isEmpty then .error (.malformed (.missingValue keyword))
    else if field.isNumeric then
      match Text.Numeral.read? value with
      | none => .error (.malformed (.notInteger keyword value))
      | some numeral =>
        if numeral.isShort then .ok ⟨field, comparison, .number numeral.value, negated⟩
        else .error (.overlong numeral.digits.length)
    else if comparison.isOrder then .error (.malformed (.notOrdered comparison keyword))
    else
      let index? := if field = .weekday then weekdayIndex? value else monthIndex? value
      if index?.isSome then .ok ⟨field, comparison, .name (Text.lower value), negated⟩
      else .error (.malformed (.unknownName field value))

/-- Is this a comparison with its field on the right? An integer stands on
the left and a word of ASCII letters on the right of an order sign. -/
def isReversed (left : Text) (comparison : Comparison) (right : Text) : Bool :=
  comparison.isOrder && (Text.Numeral.read? left).isSome && !right.isEmpty &&
    right.all Text.isLetter

/-- Read one atom. -/
def read (t : Text) : Except AtomError Atom :=
  let (negated, body) := stripNegation false t
  if body.isEmpty then .error (.malformed .missingOperand)
  else
    match sides? body with
    | none => .ok ⟨.person, .equal, .name body, negated⟩
    | some (left, comparison, right) =>
      if isReversed left comparison right then ofSides negated right comparison.flipped left
      else ofSides negated left comparison right

end Atom

end GatherBoard
