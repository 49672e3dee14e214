import GatherBoard.Command.Task
import GatherBoard.Proofs.Workflow.Runs

/-!
# Calls

A call runs the program once, on the disk that it finds. Whatever the console, a call
to sort either fails, and leaves the disk as it is, or it has loaded the settings and
made a sorting run: then it reports the plan and leaves the disk of this run. No other
call touches the disk.
-/

namespace GatherBoard.Command

/-- One call of the program, before it meets a disk. -/
structure Call where
  /-- The words after the program's name. -/
  args : List Text
  /-- The day it is. -/
  today : Date
  /-- The time that log lines begin with. -/
  stamp : Text
  /-- Where the settings are kept. -/
  settingsPath : Path
  /-- The home directories. -/
  homes : Homes

namespace Call

/-- A call asks for a task on a console. The disk tells which words are paths of files. -/
def Asks (call : Call) (console : Console) (disk : Disk) (task : Task) : Prop :=
  console.reply disk call.args = .task task

/-- What a call finds around it. -/
def environment (call : Call) (disk : Disk) : Environment :=
  ⟨call.today, call.stamp, call.settingsPath, disk, call.homes⟩

/-- The path of a board file, with a home directory in place of a tilde in front. -/
def boardPath? (call : Call) (path : Text) : Option Path := (Path.read path).expand? call.homes

/-- Run the program for a call. -/
def run (call : Call) (console : Console) (disk : Disk) : Outcome :=
  console.run (call.environment disk) call.args

end Call

/-- The lines that report a plan, carried out or not. -/
def reportLines (today : Date) (write json : Bool) (board : Board) (plan : Plan) : List Text :=
  if json then [(planRecord today board plan).write] else moveLines write board plan

/-- A sorting task ends well: the settings are loaded, a run sorts the board at the
path, its plan is reported and its disk is left. -/
structure Completes (console : Console) (env : Environment) (path : Text) (today : Date)
    (write json : Bool) (settings : Settings) (p : Path) (run : SortRun) (outcome : Outcome) :
    Prop where
  loaded : (env.disk.loadSettings env.settingsPath).result = .ok settings
  named : env.boardPath? path = some p
  ran : (runSort env.disk p settings today write).result = .ok run
  exitCode : outcome.exitCode = 0
  stdout : outcome.stdout =
    printLines console.print (reportLines today write json run.board run.plan)
  disk : outcome.disk = run.disk

section

variable {console : Console} {env : Environment} {path : Text}

/-- A run fails with exit code 1. -/
@[simp]
theorem Outcome.failing_exitCode (console : Console) (disk : Disk) (log : Text)
    (failure : Failure) : (failing console disk log failure).exitCode = 1 := by
  cases failure <;> rfl

/-- A run that fails leaves the disk that it is given. -/
@[simp]
theorem Outcome.failing_disk (console : Console) (disk : Disk) (log : Text) (failure : Failure) :
    (failing console disk log failure).disk = disk := by
  cases failure <;> rfl

/-- The path of a board file is known. -/
theorem Environment.withBoard_of_some {α : Type} {p : Path} (h : env.boardPath? path = some p)
    (next : Path → Told α) : env.withBoard path next = next p := by
  rw [withBoard, h]

/-- The home directory at the front of a path is not known. -/
theorem Environment.withBoard_of_none {α : Type} (h : env.boardPath? path = none)
    (next : Path → Told α) : env.withBoard path next = .silent (.error .noHome) := by
  rw [withBoard, h]

/-- A sorting task ends well if the settings are loaded and the run succeeds. -/
theorem runSortTask_completes (env : Environment) {today : Option Date} {write json : Bool}
    {settings : Settings} {p : Path} {run : SortRun}
    (hs : (env.disk.loadSettings env.settingsPath).result = .ok settings)
    (hp : env.boardPath? path = some p)
    (hr : (runSort env.disk p settings (today.getD env.today) write).result = .ok run)
    (debug : Bool) : Completes console env path (today.getD env.today) write json settings p run
      (runSortTask console env path today write json debug) := by
  unfold runSortTask
  simp only [hs, Environment.withBoard_of_some hp, hr]
  exact ⟨hs, hp, hr, rfl, rfl, rfl⟩

/-- A sorting task fails and leaves the disk, or it ends well. -/
theorem runSortTask_cases (console : Console) (env : Environment) (path : Text)
    (today : Option Date) (write json debug : Bool) :
    ((runSortTask console env path today write json debug).exitCode = 1 ∧
        (runSortTask console env path today write json debug).disk = env.disk) ∨
      ∃ settings p run, Completes console env path (today.getD env.today) write json settings p run
        (runSortTask console env path today write json debug) := by
  cases hs : (env.disk.loadSettings env.settingsPath).result with
  | error failure => exact Or.inl (by simp [runSortTask, hs])
  | ok settings =>
    cases hp : env.boardPath? path with
    | none =>
      exact Or.inl (by simp [runSortTask, hs, Environment.withBoard_of_none hp, Told.silent])
    | some p =>
      cases hr : (runSort env.disk p settings (today.getD env.today) write).result with
      | error failure =>
        exact Or.inl (by simp [runSortTask, hs, Environment.withBoard_of_some hp, hr])
      | ok run => exact Or.inr ⟨settings, p, run, runSortTask_completes env hs hp hr debug⟩

/-- Showing facts leaves the disk. -/
theorem runFactsTask_disk (console : Console) (env : Environment) (path : Text) (json : Bool) :
    (runFactsTask console env path json).disk = env.disk := by
  unfold runFactsTask
  dsimp only
  split <;> simp [Outcome.printing]

/-- Showing rules leaves the disk. -/
theorem runRulesTask_disk (console : Console) (env : Environment) (path : Text) :
    (runRulesTask console env path).disk = env.disk := by
  unfold runRulesTask
  dsimp only
  split <;> simp [Outcome.printing]

end

namespace Call

variable {console : Console} {call : Call} {disk : Disk} {path : Text} {today : Option Date}
  {write json debug : Bool} {settings : Settings} {p : Path} {run : SortRun}

/-- A call that asks for a task carries it out. -/
theorem run_eq_of_asks {task : Task} (h : call.Asks console disk task) :
    call.run console disk = task.run console (call.environment disk) := by
  unfold Asks at h
  rw [Call.run, Console.run, environment, h]

/-- A call to sort carries out its task. -/
theorem run_eq_runSortTask (h : call.Asks console disk (.sort path today write json debug)) :
    call.run console disk =
      runSortTask console (call.environment disk) path today write json debug :=
  run_eq_of_asks h

/-- A call to sort ends well if the settings are loaded and the run succeeds. -/
theorem completes_of_ran (h : call.Asks console disk (.sort path today write json debug))
    (hs : (disk.loadSettings call.settingsPath).result = .ok settings)
    (hp : call.boardPath? path = some p)
    (hr : (runSort disk p settings (today.getD call.today) write).result = .ok run) :
    Completes console (call.environment disk) path (today.getD call.today) write json settings p
      run (call.run console disk) := by
  rw [run_eq_runSortTask h]
  exact runSortTask_completes (call.environment disk) hs hp hr debug

/-- A call to sort fails and leaves the disk, or it ends well. -/
theorem sort_cases (h : call.Asks console disk (.sort path today write json debug)) :
    ((call.run console disk).exitCode = 1 ∧ (call.run console disk).disk = disk) ∨
      ∃ settings p run, Completes console (call.environment disk) path (today.getD call.today)
        write json settings p run (call.run console disk) := by
  rw [run_eq_runSortTask h]
  exact runSortTask_cases console _ path today write json debug

/-- A call to sort that ends with exit code 0 ends well. -/
theorem completes (h : call.Asks console disk (.sort path today write json debug))
    (he : (call.run console disk).exitCode = 0) :
    ∃ settings p run, Completes console (call.environment disk) path (today.getD call.today)
      write json settings p run (call.run console disk) := by
  rcases sort_cases h with ⟨hf, -⟩ | hc
  · rw [hf] at he
    cases he
  · exact hc

/-- A call to do something else than to sort leaves the disk. -/
theorem disk_of_not_sort (h : ∀ path today write json debug,
    ¬ call.Asks console disk (.sort path today write json debug)) :
    (call.run console disk).disk = disk := by
  unfold Asks at h
  rw [Call.run, Console.run, environment]
  cases hr : console.reply disk call.args with
  | ended exitCode stdout stderr => rfl
  | task t =>
    cases t with
    | sort path today write json debug => exact absurd hr (h path today write json debug)
    | facts path json => exact runFactsTask_disk console _ path json
    | rules path => exact runRulesTask_disk console _ path

end Call

end GatherBoard.Command
