import GatherBoard.Apply
import GatherBoard.Disk.BoardFile
import GatherBoard.Settings

/-!
# Workflows

The steps from a file on the disk to a plan, and on to a sorted file. Each
workflow tells its events also when it fails, and changes the disk only
when it succeeds.
-/

namespace GatherBoard

/-- An outcome and the events on the way to it. -/
structure Told (α : Type) where
  /-- The events, in order. -/
  events : List Event
  /-- The outcome. -/
  result : Except Failure α

namespace Told

/-- A failure, or what follows after a success. -/
def andThen {α β : Type} (first : Told α) (next : α → Told β) : Told β :=
  match first.result with
  | .ok a => ⟨first.events ++ (next a).events, (next a).result⟩
  | .error e => ⟨first.events, .error e⟩

/-- An outcome with nothing to tell. -/
def silent {α : Type} (result : Except Failure α) : Told α := ⟨[], result⟩

end Told

/-- The text of the settings file, or none if there is no such file. -/
def Disk.settingsText? (disk : Disk) (p : Path) : Except Failure (Option Text) := do
  let found ← (disk.holds p).mapError (.refused p)
  if !found then return none
  let bytes ← (disk.readFile p).mapError (.refused p)
  let t ← (Text.decode bytes).mapError .undecodable
  return some t

/-- Load the settings. Without a file the default holds. -/
def Disk.loadSettings (disk : Disk) (p : Path) : Told Settings :=
  match disk.settingsText? p with
  | .error e => .silent (.error e)
  | .ok none => .silent (.ok Settings.default)
  | .ok (some t) =>
    let (settings, events) := Settings.read t
    ⟨events, .ok settings⟩

/-- Load a board and tell what is odd about its file. -/
def Disk.tellBoard (disk : Disk) (p : Path) : Told Board :=
  match disk.loadBoard p with
  | .ok reading => ⟨reading.events, .ok reading.board⟩
  | .error e => .silent (.error e)

/-- A board together with a plan for it. -/
structure Planned where
  board : Board
  plan : Plan
  deriving DecidableEq, Repr

/-- Plan the sorting of a board. -/
def Board.planSort (b : Board) (settings : Settings) (today : Date) : Told Planned :=
  match b.sort today settings.tagSource with
  | .ok plan => ⟨plan.events, .ok ⟨b, plan⟩⟩
  | .error e => .silent (.error (.unsortable e))

/-- Load a board and plan its sorting. -/
def planSort (disk : Disk) (p : Path) (settings : Settings) (today : Date) : Told Planned :=
  (disk.tellBoard p).andThen fun board => board.planSort settings today

/-- What a sorting run leaves. -/
structure SortRun where
  /-- The board, sorted if it was written. -/
  board : Board
  /-- The plan that was followed. -/
  plan : Plan
  /-- The disk afterwards. -/
  disk : Disk

/-- Carry out a plan and save the board. -/
def Planned.save (planned : Planned) (disk : Disk) (p : Path) (settings : Settings) :
    Told SortRun :=
  match planned.board.apply planned.plan settings.tagSource settings.applyColumnOrder with
  | .error e => .silent (.error (.unsortable (.overlong e)))
  | .ok sorted =>
    match disk.saveBoard p sorted with
    | .error e => .silent (.error e)
    | .ok disk => ⟨[.boardSaved planned.plan.moves.length], .ok ⟨sorted, planned.plan, disk⟩⟩

/-- Load a board and plan its sorting; with `write`, carry the plan out and
save the board. -/
def runSort (disk : Disk) (p : Path) (settings : Settings) (today : Date) (write : Bool) :
    Told SortRun :=
  (planSort disk p settings today).andThen fun planned =>
    if write then planned.save disk p settings
    else .silent (.ok ⟨planned.board, planned.plan, disk⟩)

/-- A card with its column and its facts. -/
structure FactRow where
  column : Column
  card : Card
  facts : Facts
  deriving DecidableEq

/-- The facts of every card, in board order. -/
def Board.factRows (b : Board) (select : TextSelector) : List FactRow :=
  b.traversal.map fun (column, card) => ⟨column, card, select.factsOf card⟩

/-- With the settings and the board, collect the facts of the cards. -/
def tellFacts (settings : Told Settings) (board : Told Board) : Told (List FactRow) :=
  settings.andThen fun s => board.andThen fun b => .silent (.ok (b.factRows s.tagSource))

/-- With the board, read the rules of its columns. -/
def tellRules (board : Told Board) : Told (List RuledColumn) :=
  board.andThen fun b =>
    .silent (b.ruledColumns.mapError fun cause => .unsortable (.overlong cause))

end GatherBoard
