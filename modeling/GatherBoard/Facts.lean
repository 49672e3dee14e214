import GatherBoard.Tag

/-!
# Facts about a card

The facts of a card are read from the tags of its text. Of several dates of
one kind the first counts. Persons form a set, kept in the order of their
names, so that equal sets are equal lists.
-/

namespace GatherBoard

/-- What the tags of a card say. -/
structure Facts where
  /-- The first date of the kind for dates due. -/
  dueDate : Option Date
  /-- The first date of every other kind, in order of appearance. -/
  otherDates : List (Text × Date)
  /-- The persons, each once, in the order of their names. -/
  persons : List Text
  /-- Must the card stay where it is? -/
  sticky : Bool
  deriving DecidableEq

namespace Facts

/-- Nothing is known. -/
def empty : Facts := ⟨none, [], [], false⟩

/-- Put a name at its place in a strictly increasing list. -/
def insertName (name : Text) : List Text → List Text
  | [] => [name]
  | other :: more =>
    if name = other then other :: more
    else if name < other then name :: other :: more
    else other :: insertName name more

theorem mem_insertName {name x : Text} {names : List Text} :
    x ∈ insertName name names ↔ x = name ∨ x ∈ names := by
  induction names with
  | nil => simp [insertName]
  | cons other more ih =>
    unfold insertName
    split
    · simp_all
    · split
      · simp
      · simp [ih, or_left_comm]

/-- Note a date, unless one of its kind is known. -/
def addDate (facts : Facts) (kind : Text) (day : Date) : Facts :=
  if kind = Tag.dueKind then
    { facts with dueDate := facts.dueDate <|> some day }
  else if facts.otherDates.any (·.1 == kind) then facts
  else { facts with otherDates := facts.otherDates ++ [(kind, day)] }

/-- Note what a tag says. -/
def addTag (facts : Facts) : Tag → Facts
  | .sticky => { facts with sticky := true }
  | .date kind day => facts.addDate kind day
  | .person name => { facts with persons := insertName name facts.persons }

/-- The facts that the tags of a text state. -/
def ofText (t : Text) : Facts := ((Tag.bodies t).map Tag.ofBody).foldl addTag empty

/-- A card without a due date and without persons is never sorted. -/
def hasAttributes (facts : Facts) : Bool := facts.dueDate.isSome || !facts.persons.isEmpty

end Facts

end GatherBoard
