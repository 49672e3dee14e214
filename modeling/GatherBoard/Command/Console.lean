import GatherBoard.Disk.Basic
import GatherBoard.Calendar.Date

/-!
# Consoles

The program leaves two things to its console. It reads the arguments of a
call, and either hands over a task or ends the call itself, with a page of
help or with what is wrong. And it prints the lines that a task is answered
with. The program is the same on every console.
-/

namespace GatherBoard.Command

/-- What a command is to do. -/
inductive Task where
  /-- Plan the sorting of a board, and carry it out with `write`. -/
  | sort (path : Text) (today : Option Date) (write json debug : Bool)
  /-- Show the facts of the cards of a board. -/
  | facts (path : Text) (json : Bool)
  /-- Show the rules of the columns of a board. -/
  | rules (path : Text)
  deriving DecidableEq

/-- What a console makes of arguments. -/
inductive Reply where
  /-- A task for the program. -/
  | task (t : Task)
  /-- The call ends with this exit code, and with what is printed. -/
  | ended (exitCode : Nat) (stdout stderr : Text)
  deriving DecidableEq

/-- What reads arguments and prints lines. -/
structure Console where
  /-- The reply to the words after the program's name. The disk tells which of
  them are paths of files. -/
  reply : Disk → List Text → Reply
  /-- A line as it is printed, with its end. -/
  print : Text → Text

/-- Lines as they are printed. -/
def printLines (print : Text → Text) (ls : List Text) : Text := ls.flatMap print

end GatherBoard.Command
