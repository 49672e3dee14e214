import GatherBoard.Calendar.Date
import GatherBoard.Text.Digit

/-!
# Dates in writing

A date may be written year first or day first, in digits of any script,
with one or two digits for month and day. The year's four digits tell the
two orders apart. The program itself writes a date year first and padded.
-/

namespace GatherBoard.Date

open GatherBoard

/-- The group may write a year. -/
def isYearGroup (t : Text) : Bool := t.length == 4 && Text.isDigits t

/-- The group may write a month or a day. -/
def isShortGroup (t : Text) : Bool := (t.length == 1 || t.length == 2) && Text.isDigits t

/-- The date that three groups of digits name. -/
def ofGroups? (a b c : Text) : Option Date :=
  if isYearGroup a && isShortGroup b && isShortGroup c then
    of? (Text.digitsValue a) (Text.digitsValue b) (Text.digitsValue c)
  else if isShortGroup a && isShortGroup b && isYearGroup c then
    of? (Text.digitsValue c) (Text.digitsValue b) (Text.digitsValue a)
  else none

/-- The date that a text spells. One final line break does not matter. -/
def read? (t : Text) : Option Date :=
  match (Text.dropFinalBreak t).splitOn '-' with
  | [a, b, c] => ofGroups? a b c
  | _ => none

/-- The date written year first, with leading zeros. -/
def iso (d : Date) : Text :=
  Text.padded 4 d.year ++ '-' :: Text.padded 2 d.month ++ '-' :: Text.padded 2 d.day

end GatherBoard.Date
