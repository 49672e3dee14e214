import GatherBoard.Board
import GatherBoard.Rule.Match

/-!
# Sort plans

A plan says for every card where it goes. A sticky card and a card without
a due date or person stay. Any other card goes to the first column one of
whose clauses holds for it, or else to the fallback column if there is one.
Whatever is wrong with the headers is collected beside the placements.
-/

namespace GatherBoard

/-- Where one card goes. -/
structure Placement where
  /-- The id of the card. -/
  card : Text
  /-- The id of the column it is in. -/
  source : Text
  /-- The id of the column it goes to, or none if it stays. -/
  target : Option Text
  deriving DecidableEq, Repr

/-- The card has no column to go to. -/
def Placement.isUnchanged (p : Placement) : Bool := p.target.isNone

/-- The card goes to another column than its own. -/
def Placement.isMove (p : Placement) : Bool :=
  match p.target with
  | none => false
  | some target => target != p.source

/-- The outcome of one sorting pass. -/
structure Plan where
  /-- One placement for every card, in board order. -/
  placements : List Placement
  /-- The problems of every column that has some, in board order. -/
  diagnostics : List (Text × List Diagnostic)
  deriving DecidableEq, Repr

namespace Plan

/-- A plan for no cards. -/
def empty : Plan := ⟨[], []⟩

/-- The placements that move their card. -/
def moves (p : Plan) : List Placement := p.placements.filter Placement.isMove

/-- Does the plan move nothing? -/
def isNoop (p : Plan) : Bool := p.moves.isEmpty

/-- The first placement of a card. -/
def placementOf? (p : Plan) (card : Text) : Option Placement :=
  p.placements.find? fun placement => placement.card == card

end Plan

/-- Why a board cannot be sorted. -/
inductive SortError where
  /-- A header holds an overlong integer. -/
  | overlong (cause : Overlong)
  /-- A rule compares values of two kinds. -/
  | mismatch (cause : Mismatch)
  deriving DecidableEq, Repr

/-- A column and what its header states. -/
structure RuledColumn where
  column : Column
  rules : ColumnRules
  deriving DecidableEq, Repr

/-- The columns of a board with their rules. -/
def Board.ruledColumns (b : Board) : Except Overlong (List RuledColumn) :=
  b.columns.mapM fun column => do
    let rules ← ColumnRules.read column.title
    return ⟨column, rules⟩

/-- Add problems to those of a column; no problems leave no trace. -/
def addDiagnostics (log : List (Text × List Diagnostic)) (column : Text)
    (found : List Diagnostic) : List (Text × List Diagnostic) :=
  if found.isEmpty then log
  else
    match log with
    | [] => [(column, found)]
    | (other, earlier) :: more =>
      if other = column then (other, earlier ++ found) :: more
      else (other, earlier) :: addDiagnostics more column found

/-- The problem of being a fallback column after the first. -/
def fallbackProblem (first? : Option Column) (rules : ColumnRules) : List Diagnostic :=
  match first?, rules.fallbackTag? with
  | some first, some tag => [⟨tag, .secondFallback first.title⟩]
  | _, _ => []

/-- The problems of some columns, when `first?` is the fallback column to
the left of them and `log` holds the problems found there. -/
def columnProblems (first? : Option Column) (log : List (Text × List Diagnostic)) :
    List RuledColumn → List (Text × List Diagnostic)
  | [] => log
  | ⟨column, rules⟩ :: more =>
    let found := rules.diagnostics ++ fallbackProblem first? rules
    columnProblems (if rules.isFallback then first? <|> some column else first?)
      (addDiagnostics log column.id found) more

/-- The first column that a card matches. -/
def gatheringColumn? (columns : List RuledColumn) (facts : Facts) (today : Date) :
    Except Mismatch (Option Column) :=
  match columns with
  | [] => .ok none
  | ⟨column, rules⟩ :: more => do
    if ← rules.matchesCard facts today then return some column
    gatheringColumn? more facts today

/-- The fallback column: the first with one of the two fallback tags. -/
def fallbackColumn? (columns : List RuledColumn) : Option Column :=
  (columns.find? fun ruled => ruled.rules.isFallback).map RuledColumn.column

/-- The column that a card goes to. -/
def targetColumn? (columns : List RuledColumn) (facts : Facts) (today : Date) :
    Except Mismatch (Option Column) :=
  if facts.sticky || !facts.hasAttributes then .ok none
  else do
    match ← gatheringColumn? columns facts today with
    | some column => return some column
    | none => return fallbackColumn? columns

/-- The plan that sorts a board as of today. -/
def Board.sort (b : Board) (today : Date) (select : TextSelector) : Except SortError Plan := do
  let columns ← b.ruledColumns.mapError .overlong
  let placements ← b.traversal.mapM fun (column, card) => do
    let target? ← (targetColumn? columns (select.factsOf card) today).mapError .mismatch
    return ⟨card.id, column.id, target?.map Column.id⟩
  return ⟨placements, columnProblems none [] columns⟩

end GatherBoard
