import GatherBoard.Command.Console
import GatherBoard.Command.Log
import GatherBoard.Command.Report

/-!
# Carrying out tasks

A run is a function from the arguments and the disk to what is printed, the
exit code and the disk afterwards. A board file error ends a run with an
error line; any other failure is left to the caller.
-/

namespace GatherBoard.Command

/-- What a run finds around it. -/
structure Environment where
  /-- The day it is. -/
  today : Date
  /-- The time that log lines begin with. -/
  stamp : Text
  /-- Where the settings are kept. -/
  settingsPath : Path
  /-- The disk before the run. -/
  disk : Disk
  /-- The home directories. -/
  homes : Homes

namespace Environment

/-- The path of a board file, with a home directory in place of a tilde in
front. -/
def boardPath? (env : Environment) (path : Text) : Option Path :=
  (Path.read path).expand? env.homes

/-- Go on with the path of a board file, if its home directory is known. -/
def withBoard {α : Type} (env : Environment) (path : Text) (next : Path → Told α) : Told α :=
  match env.boardPath? path with
  | some p => next p
  | none => .silent (.error .noHome)

end Environment

/-- What a run leaves. -/
structure Outcome where
  exitCode : Nat
  stdout : Text
  stderr : Text
  /-- The failure that ended the run without an error line, if any. -/
  failure : Option Failure
  /-- The disk after the run. -/
  disk : Disk

namespace Outcome

/-- A run that succeeds: it prints some lines and leaves this disk. -/
def printing (console : Console) (disk : Disk) (log : Text) (ls : List Text) : Outcome :=
  ⟨0, printLines console.print ls, log, none, disk⟩

/-- A run that fails. A board file error ends it with an error line. -/
def failing (console : Console) (disk : Disk) (log : Text) (failure : Failure) : Outcome :=
  match failure with
  | .boardFile cause =>
    ⟨1, [], log ++ console.print ("Error: ".toList ++ cause.message), none, disk⟩
  | _ => ⟨1, [], log, some failure, disk⟩

end Outcome

section

variable (console : Console) (env : Environment)

/-- Plan the sorting of a board, and carry it out with `write`. -/
def runSortTask (path : Text) (today : Option Date) (write json debug : Bool) : Outcome :=
  let loaded := env.disk.loadSettings env.settingsPath
  let early := bareLog loaded.events
  match loaded.result with
  | .error failure => .failing console env.disk early failure
  | .ok settings =>
    let today := today.getD env.today
    let told := env.withBoard path fun p => runSort env.disk p settings today write
    let threshold := if debug then .debug else settings.logLevel
    let log := early ++ stampedLog env.stamp threshold told.events
    match told.result with
    | .error failure => .failing console env.disk log failure
    | .ok run =>
      .printing console run.disk log <|
        if json then [(planRecord today run.board run.plan).write]
        else moveLines write run.board run.plan

/-- Show the facts of the cards of a board. -/
def runFactsTask (path : Text) (json : Bool) : Outcome :=
  let told := tellFacts (env.disk.loadSettings env.settingsPath)
    (env.withBoard path env.disk.tellBoard)
  let log := bareLog told.events
  match told.result with
  | .error failure => .failing console env.disk log failure
  | .ok rows =>
    .printing console env.disk log <|
      if json then [(Json.list (rows.map factsRecord)).write] else factsLines none rows

/-- Show the rules of the columns of a board. -/
def runRulesTask (path : Text) : Outcome :=
  let told := tellRules (env.withBoard path env.disk.tellBoard)
  let log := bareLog told.events
  match told.result with
  | .error failure => .failing console env.disk log failure
  | .ok ruled => .printing console env.disk log (ruled.flatMap rulesLines)

/-- Carry out a task. -/
def Task.run : Task → Outcome
  | .sort path today write json debug => runSortTask console env path today write json debug
  | .facts path json => runFactsTask console env path json
  | .rules path => runRulesTask console env path

/-- Run the program on a console with the words after its name. -/
def Console.run (args : List Text) : Outcome :=
  match console.reply env.disk args with
  | .task t => t.run console env
  | .ended exitCode stdout stderr => ⟨exitCode, stdout, stderr, none, env.disk⟩

end

end GatherBoard.Command
