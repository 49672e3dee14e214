import GatherBoard.Json
import GatherBoard.Workflow

/-!
# Reports

What the commands print: the moves of a plan, the facts of cards and the
rules of columns, as lines of text or as JSON. Cards and columns are shown
by their titles.
-/

namespace GatherBoard.Command

/-- The line of one move. -/
def moveLine (verb : Text) (board : Board) (move : Placement) : Text :=
  let columnTitle (id : Text) := (board.columnTitle? id).getD id
  verb ++ " '".toList ++ (board.cardTitle? move.card).getD move.card ++ "': ".toList ++
    columnTitle move.source ++ " -> ".toList ++ columnTitle (move.target.getD [])

/-- The lines that show the moves of a plan, done or only planned. -/
def moveLines (done : Bool) (board : Board) (plan : Plan) : List Text :=
  if plan.isNoop then ["Nothing to move.".toList]
  else
    plan.moves.map (moveLine (if done then "Moved".toList else "Would move".toList) board)

/-- A placement as a record. -/
def placementRecord (board : Board) (p : Placement) : Json :=
  .record [
    ("card_id".toList, .text p.card),
    ("title".toList, .text ((board.cardTitle? p.card).getD [])),
    ("source".toList, .text p.source),
    ("target".toList, Json.ofOption id p.target)]

/-- A diagnostic as a record. -/
def diagnosticRecord (d : Diagnostic) : Json :=
  .record [("tag".toList, .text d.tag), ("reason".toList, .text d.problem.reason)]

/-- A plan as a record. -/
def planRecord (today : Date) (board : Board) (plan : Plan) : Json :=
  .record [
    ("today".toList, .text today.iso),
    ("placements".toList, .list (plan.placements.map (placementRecord board))),
    ("diagnostics".toList, .record (plan.diagnostics.map fun (column, found) =>
      (column, .list (found.map diagnosticRecord))))]

/-- The facts of a card as a record. -/
def factsRecord (row : FactRow) : Json :=
  .record [
    ("card_id".toList, .text row.card.id),
    ("column".toList, .text row.column.title),
    ("title".toList, .text row.card.title),
    ("due_date".toList, Json.ofOption Date.iso row.facts.dueDate),
    ("other_dates".toList, .record (row.facts.otherDates.map fun (kind, day) =>
      (kind, .text day.iso))),
    ("persons".toList, .list (row.facts.persons.map .text)),
    ("sticky".toList, .bool row.facts.sticky)]

/-- The facts of a card in a few words, dates in the order of their kinds. -/
def factsPhrases (facts : Facts) : List Text :=
  (facts.dueDate.toList.map fun day => "due ".toList ++ day.iso) ++
    ((facts.otherDates.mergeSort fun a b => Text.le a.1 b.1).map fun (kind, day) =>
      kind ++ ' ' :: day.iso) ++
    (if facts.persons.isEmpty then []
      else ["persons ".toList ++ Text.joinWith ", ".toList facts.persons]) ++
    (if facts.sticky then ["sticky".toList] else [])

/-- The line of a card with its facts. -/
def factsLine (card : Card) (facts : Facts) : Text :=
  let phrases := Text.joinWith "; ".toList (factsPhrases facts)
  "  ".toList ++ card.title ++ ": ".toList ++ if phrases.isEmpty then ['-'] else phrases

/-- The lines that show the facts of cards, below the titles of their
columns; `column` is the column shown last. -/
def factsLines (column : Option Text) : List FactRow → List Text
  | [] => []
  | row :: more =>
    let opening :=
      if column = some row.column.id then []
      else (if column.isSome then [[]] else []) ++ ["### ".toList ++ row.column.title]
    opening ++ factsLine row.card row.facts :: factsLines (some row.column.id) more

/-- The lines that show the rules of a column, problems last. -/
def rulesLines (ruled : RuledColumn) : List Text :=
  let flags :=
    (if ruled.rules.isFallback then ["fallback".toList] else []) ++
      ruled.rules.orders.map fun order => "sort-".toList ++ order.label
  let flagged :=
    if flags.isEmpty then [] else " [".toList ++ Text.joinWith ", ".toList flags ++ [']']
  let expression := ruled.rules.describe
  (ruled.column.title ++ ": ".toList ++ (if expression.isEmpty then ['-'] else expression) ++
      flagged) ::
    ruled.rules.diagnostics.map fun d => "  ! ".toList ++ d.message

end GatherBoard.Command
