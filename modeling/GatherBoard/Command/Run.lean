import GatherBoard.Command.Printing
import GatherBoard.Command.Task
import GatherBoard.Command.Usage

/-!
# Running the program

The program on the console that it has by default: one that knows its
options and its help pages, and prints lines without control sequences.
-/

namespace GatherBoard.Command

/-- Does a path as it is written go on after its last name, with a slash or with
a slash and a dot? A file has no such path. -/
def goesOn (path : Text) : Bool :=
  (path.splitOn '/').getLast?.any fun last => last.isEmpty || last == ['.']

/-- What is wrong with the path of a board as it is written. The empty text
is no path, and neither is one with too many bytes; a path that leads
nowhere is left to the task. -/
def pathFault? (disk : Disk) (path : Text) : Option UsageError :=
  if path.isEmpty || maxPathBytes < Text.byteLength path then none
  else
    match disk.find (Path.read path) with
    | .ok .directory => some (.boardIsDirectory path)
    | .ok (.file _) =>
      if goesOn path then none
      else
        match disk.readFile (Path.read path) with
        | .ok _ => none
        | .error _ => some (.boardNotReadable path)
    | .error _ => none

/-- How a request is replied to. -/
def Request.reply : Request → Reply
  | .nothing => .ended 2 [] (printLines printed (helpLines none))
  | .help verb => .ended 0 (printLines printed (helpLines verb)) []
  | .version => .ended 0 (printed "kanbansort, version 0.1.0".toList) []
  | .task t => .task t
  | .refused verb cause => .ended 2 [] (printLines printed (refusalLines verb cause))

/-- The console that the program has by default. -/
def Console.standard : Console where
  reply disk args := (Request.read (pathFault? disk) args).reply
  print := printed

/-- Run the program with the words after its name. -/
def run (env : Environment) (args : List Text) : Outcome := Console.standard.run env args

end GatherBoard.Command
