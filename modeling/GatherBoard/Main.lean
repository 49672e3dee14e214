import GatherBoard.Command.Run
import Std.Time.Format

/-!
# The program

The outer layer: it looks up the clock, the home directories, the settings
directory and the files that the arguments name, hands them to the library as
a disk, prints what the run prints and writes the board file if the run
changed it.
-/

namespace GatherBoard

/-- May a file that is there be written? -/
def mayWrite (path : Text) : IO Bool := do
  try
    let _ ← IO.FS.Handle.mk (String.ofList path) .append
    return true
  catch _ => return false

/-- Note what the machine's disk has at a path. What may not be opened is a
file at the end of a path and a directory before it; anything else that
cannot be read as a file counts as a directory. -/
def probe (disk : Disk) (place : Place) (path : Text) (isLast : Bool) : IO Disk := do
  try
    let bytes ← IO.FS.readBinFile (String.ofList path)
    let disk := disk.set place (some (.file bytes))
    if ← mayWrite path then return disk else return disk.deny .write place
  catch e =>
    match e, isLast with
    | .noFileOrDirectory .., _ => return disk
    | .permissionDenied .., true => return (disk.set place (some (.file .empty))).deny .read place
    | _, _ => return disk.set place (some .directory)

/-- Note what is at each place along a path. -/
def snapshot (disk : Disk) (p : Path) : IO Disk := do
  let mut disk := disk
  let mut place := disk.start p
  let mut walked : Path := ⟨p.root, []⟩
  for name in p.names do
    place := Disk.child place name
    walked := walked.below [name]
    disk ← probe disk place walked.text (walked == p)
  return disk

/-- The path of the board file that the arguments name, as it is written. -/
def boardText? (args : List Text) : Option Text :=
  match Command.Request.read (fun _ => none) args with
  | .task (.sort path ..) => some path
  | .task (.facts path _) => some path
  | .task (.rules path) => some path
  | _ => none

/-- The home directory of a user in one line of the machine's list of users. -/
def homeOfLine? (user : Text) (line : Text) : Option Path :=
  match line.splitOn ':' with
  | [name, _, _, _, _, home, _] => if name = user then Path.readHome? home else none
  | _ => none

/-- The home directories, if the environment gives one to who runs the
program. -/
def homes : IO (Option Homes) := do
  let users ← try IO.FS.readFile "/etc/passwd" catch _ => pure ""
  let own := (← IO.getEnv "HOME").bind fun home => Path.readHome? home.toList
  return own.map fun own =>
    ⟨own, fun user => (users.toList.splitOn '\n').findSome? (homeOfLine? user)⟩

/-- The day and the time of day, both local. -/
def clock : IO (Option Date × Text) := do
  let now ← Std.Time.PlainDateTime.now
  let today := Date.of? now.date.year.toInt.toNat now.date.month.val.toNat now.date.day.val.toNat
  let two (n : Int) := Text.padded 2 n.toNat
  let milliseconds := Text.padded 3 (now.time.nanosecond.val.toNat / 1000000)
  let day := match today with
    | some d => d.iso
    | none => []
  return (today, day ++ ' ' :: two now.time.hour.val ++ ':' :: two now.time.minute.val ++
    ':' :: two now.time.second.val ++ ',' :: milliseconds)

/-- Where the settings are kept: below a directory of their own, or below
the home directory. -/
def settingsPath (homes : Homes) : IO Path := do
  let directory := match ← IO.getEnv "KANBANSORT_HOME" with
    | some directory => Path.read directory.toList
    | none => homes.own.below [".kanbansort".toList]
  return directory.below ["config".toList, "kanbansort.conf".toList]

/-- Write the board file if a run has changed it. -/
def saveChange (before after : Disk) (p : Path) : IO Unit := do
  match before.readFile p, after.readFile p with
  | .ok old, .ok new =>
    if old != new then IO.FS.writeBinFile (String.ofList p.text) new
  | _, _ => return ()

/-- Run the program. -/
def runProgram (args : List Text) : IO UInt32 := do
  let some homes ← homes
    | do
      IO.eprintln (String.ofList Failure.noHome.message)
      return 1
  let settings ← settingsPath homes
  let here := Path.read (← IO.currentDir).toString.toList
  let mut disk ← snapshot { Disk.empty with workingDirectory := here.names } settings
  let board? := (boardText? args).bind fun path => (Path.read path).expand? homes
  for path in (boardText? args).toList do
    -- the console looks at the path as it is written
    disk ← snapshot disk (Path.read path)
  for p in board?.toList do
    disk ← snapshot disk p
  let (today?, stamp) ← clock
  let some today := today?
    | do
      IO.eprintln "The clock is outside of the calendar."
      return 1
  let outcome := Command.run ⟨today, stamp, settings, disk, homes⟩ args
  for p in board?.toList do
    saveChange disk outcome.disk p
  IO.print (String.ofList outcome.stdout)
  IO.eprint (String.ofList outcome.stderr)
  if let some failure := outcome.failure then
    IO.eprintln (String.ofList failure.message)
  return outcome.exitCode.toUInt32

end GatherBoard

/-- The entry point. -/
def main (args : List String) : IO UInt32 := GatherBoard.runProgram (args.map String.toList)
