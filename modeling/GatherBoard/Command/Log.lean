import GatherBoard.Event

/-!
# Log lines

A log shows the events from its level up, bare or with time, source and
level in front.
-/

namespace GatherBoard.Command

/-- The events of at least the level for warnings, as bare messages. -/
def bareLog (events : List Event) : Text :=
  (events.filter fun e => e.isShownAt .warning).flatMap fun e => e.message ++ ['\n']

/-- The events of at least a level, with time, source and level. -/
def stampedLog (stamp : Text) (threshold : Level) (events : List Event) : Text :=
  let dash := " - ".toList
  (events.filter fun e => e.isShownAt threshold).flatMap fun e =>
    stamp ++ dash ++ e.source ++ dash ++ e.level.label ++ dash ++ e.message ++ ['\n']

end GatherBoard.Command
