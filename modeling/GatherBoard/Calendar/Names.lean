import GatherBoard.Calendar.Date
import GatherBoard.Text.Case

/-!
# Names of weekdays and months

Weekdays and months are named by the first three letters of their English
names. A name is looked up without regard to case.
-/

namespace GatherBoard

/-- The weekdays from Monday to Sunday. -/
def weekdayNames : List Text :=
  ["mon".toList, "tue".toList, "wed".toList, "thu".toList, "fri".toList, "sat".toList,
    "sun".toList]

/-- The months from January to December. -/
def monthNames : List Text :=
  ["jan".toList, "feb".toList, "mar".toList, "apr".toList, "may".toList, "jun".toList,
    "jul".toList, "aug".toList, "sep".toList, "oct".toList, "nov".toList, "dec".toList]

/-- The place of a name in a list, counted from 1. -/
def placeOf? (names : List Text) (name : Text) : Option Nat :=
  (names.findIdx? (· == Text.lower name)).map (· + 1)

/-- The number of a named weekday, from 1 for Monday. -/
def weekdayIndex? (name : Text) : Option Nat := placeOf? weekdayNames name

/-- The number of a named month. -/
def monthIndex? (name : Text) : Option Nat := placeOf? monthNames name

namespace Date

/-- The name of the date's weekday. -/
def weekdayName (d : Date) : Text := weekdayNames.getD (d.weekdayNum - 1) []

/-- The name of the date's month. -/
def monthName (d : Date) : Text := monthNames.getD (d.month - 1) []

end Date

end GatherBoard
