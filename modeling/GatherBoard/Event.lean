import GatherBoard.Plan
import GatherBoard.Text.Quoted

/-!
# Events

What happens while files are read and boards are sorted is recorded as a
list of events. An event has a source, a level and a message; a log shows
the events at or above its own level.
-/

namespace GatherBoard

/-- How important an event is. -/
inductive Level where
  | debug
  | info
  | warning
  | error
  | critical
  deriving DecidableEq, Repr

namespace Level

/-- All levels, the least important first. -/
def all : List Level := [.debug, .info, .warning, .error, .critical]

/-- The name of a level. -/
def label : Level → Text
  | .debug => "DEBUG".toList
  | .info => "INFO".toList
  | .warning => "WARNING".toList
  | .error => "ERROR".toList
  | .critical => "CRITICAL".toList

/-- The weight of a level. -/
def rank : Level → Nat
  | .debug => 10
  | .info => 20
  | .warning => 30
  | .error => 40
  | .critical => 50

end Level

/-- Something that happened. -/
inductive Event where
  /-- The front matter of a board file has no end. -/
  | openFrontMatter
  /-- A card line stands before all columns. -/
  | strayCard (line : Text)
  /-- A column header has a problem. -/
  | columnProblem (column : Text) (diagnostic : Diagnostic)
  /-- The plan moves a card. -/
  | cardMove (card source target : Text)
  /-- The board was written with so many cards moved. -/
  | boardSaved (moved : Nat)
  /-- A setting for the tag source is not one of the known ones. -/
  | badTagSource (value : Text)
  /-- A setting for the use of order tags is neither yes nor no. -/
  | badColumnOrder (value : Text)
  /-- A setting for the log level names no level. -/
  | badLogLevel (value : Text)
  deriving DecidableEq, Repr

namespace Event

/-- The name of the log that an event goes to. -/
def source : Event → Text
  | .openFrontMatter | .strayCard _ => "kanbansort.adapters.markdown_board".toList
  | .columnProblem .. | .cardMove .. | .boardSaved _ => "kanbansort.workflows".toList
  | .badTagSource _ | .badColumnOrder _ | .badLogLevel _ => "kanbansort.config".toList

/-- The level of an event. -/
def level : Event → Level
  | .strayCard _ | .cardMove .. => .debug
  | .boardSaved _ => .info
  | .openFrontMatter | .columnProblem .. | .badTagSource _ | .badColumnOrder _ |
    .badLogLevel _ => .warning

/-- An event in words. -/
def message : Event → Text
  | .openFrontMatter => "Unterminated YAML front matter; keeping it as-is".toList
  | .strayCard line => "Skipping card outside any column: ".toList ++ Text.quoted line
  | .columnProblem column d => "Column ".toList ++ column ++ ": ".toList ++ d.message
  | .cardMove card source target =>
    "Move ".toList ++ card ++ ": ".toList ++ source ++ " -> ".toList ++ target
  | .boardSaved moved =>
    "Saved board with ".toList ++ Text.ofNat moved ++ " moved card(s)".toList
  | .badTagSource value =>
    "Invalid TAG_SOURCE ".toList ++ Text.quoted value ++
      ", expected one of ('title', 'title+description')".toList
  | .badColumnOrder value =>
    "Invalid APPLY_COLUMN_ORDER ".toList ++ Text.quoted value ++ ", expected true/false".toList
  | .badLogLevel value => "Invalid LOG_LEVEL ".toList ++ Text.quoted value

/-- Does a log of this level show the event? -/
def isShownAt (e : Event) (threshold : Level) : Bool := threshold.rank ≤ e.level.rank

end Event

/-- The events that carrying out a plan is announced by: every problem, and
then every move. -/
def Plan.events (p : Plan) : List Event :=
  p.diagnostics.flatMap (fun (column, found) => found.map (Event.columnProblem column)) ++
    p.moves.map fun move => Event.cardMove move.card move.source (move.target.getD [])

end GatherBoard
