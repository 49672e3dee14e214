import GatherBoard.Command.Arguments

/-!
# Usage lines and help pages

What is shown when help is asked for, and what precedes the reason when
arguments are refused.
-/

namespace GatherBoard.Command

/-- The program, and the command if one is meant, in usage lines. -/
def invocation (verb : Option Verb) : Text :=
  "kanbansort".toList ++
    match verb with
    | none => []
    | some verb => ' ' :: verb.label

/-- How the program or a command is called. -/
def usageLine (verb : Option Verb) : Text :=
  "Usage: ".toList ++ invocation verb ++ " [OPTIONS] ".toList ++
    match verb with
    | none => "COMMAND [ARGS]...".toList
    | some _ => "BOARD_PATH".toList

/-- What the program or a command is for. -/
def purposeLine : Option Verb → Text
  | none => "  kanbansort - tag-driven kanban card sorting.".toList
  | some .sort => "  Gather cards into columns by their #gather_ rules.".toList
  | some .facts => "  Show the attributes extracted from each card.".toList
  | some .rules => "  Show the compiled gather rules of each column.".toList

/-- The options in a help page, and the commands in that of the program. -/
def optionLines : Option Verb → List Text
  | none => [
      "  --version  Show the version and exit.".toList,
      "  --help     Show this message and exit.".toList,
      [],
      "Commands:".toList,
      "  facts  Show the attributes extracted from each card.".toList,
      "  rules  Show the compiled gather rules of each column.".toList,
      "  sort   Gather cards into columns by their #gather_ rules.".toList]
  | some .sort => [
      "  --today [%Y-%m-%d]  Reference date (default: today's local date)".toList,
      "  --write             Apply the moves and save the board".toList,
      "  --json              Output as JSON".toList,
      "  --debug             Enable debug logging".toList,
      "  --help              Show this message and exit.".toList]
  | some .facts => [
      "  --json  Output as JSON".toList,
      "  --help  Show this message and exit.".toList]
  | some .rules => ["  --help  Show this message and exit.".toList]

/-- A help page. -/
def helpLines (verb : Option Verb) : List Text :=
  [usageLine verb, [], purposeLine verb, [], "Options:".toList] ++ optionLines verb

/-- The lines that refuse arguments. -/
def refusalLines (verb : Option Verb) (cause : UsageError) : List Text :=
  (if cause.isBare then []
    else [usageLine verb, "Try '".toList ++ invocation verb ++ " --help' for help.".toList, []]) ++
    ["Error: ".toList ++ cause.message]

end GatherBoard.Command
