import GatherBoard.Command.Run
import GatherBoard.Proofs.Command.Calls
import GatherBoard.Proofs.Disk.Homes
import GatherBoard.Proofs.Workflow.Failures

/-!
# How a command ends

A command that is called with arguments it knows succeeds, or says why the board file
cannot be read or written, or is ended by a failure that is not reported. The last is so
for paths that the disk refuses, files that hold no text, settings that cannot be read, a
home directory that is not known, and headers with overlong integers, and for nothing
else.
-/

namespace GatherBoard

namespace Command

/-- The words of a task that name its board. -/
def Task.path : Task → Text
  | .sort path _ _ _ _ => path
  | .facts path _ => path
  | .rules path => path

/-- Does a task load the settings? -/
def Task.loadsSettings : Task → Bool
  | .rules _ => false
  | _ => true

/-- Does a task read the headers of columns? -/
def Task.readsHeaders : Task → Bool
  | .facts _ _ => false
  | _ => true

/-- Does a task write the board? -/
def Task.writes : Task → Bool
  | .sort _ _ write _ _ => write
  | _ => false

/-- What breaks a task. -/
inductive Task.Breaks (env : Environment) (task : Task) : Prop where
  /-- The settings, if they are loaded. -/
  | settings (loads : task.loadsSettings = true) (broken : env.disk.BreaksSettings env.settingsPath)
  /-- A path in a home directory that is not known. -/
  | homeless (unnamed : env.boardPath? task.path = none)
  /-- A board file that is refused or holds no text. -/
  | load (p : Path) (named : env.boardPath? task.path = some p) (broken : env.disk.BreaksLoad p)
  /-- An overlong integer, if the headers are read. -/
  | header (p : Path) (reads : task.readsHeaders = true)
      (named : env.boardPath? task.path = some p) (overlong : env.disk.HasOverlongHeader p)

/-- How a task ends: well, with the board file that it needs; or with an error line that says
what is wrong with the file; or by a failure that is left to the caller, which is so only if
something breaks the task. -/
inductive EndsOn (console : Console) (env : Environment) (task : Task) (outcome : Outcome) :
    Prop where
  | done (p : Path) (named : env.boardPath? task.path = some p) (exitCode : outcome.exitCode = 0)
      (caught : outcome.failure = none) (served : env.disk.Serves p task.writes)
      (sound : ¬ task.Breaks env)
  | reported (p : Path) (named : env.boardPath? task.path = some p) (log : Text)
      (cause : BoardFileError) (exitCode : outcome.exitCode = 1) (stdout : outcome.stdout = [])
      (stderr : outcome.stderr = log ++ console.print ("Error: ".toList ++ cause.message))
      (caught : outcome.failure = none) (truthful : cause.IsTrueOf env.disk p)
      (unserved : ¬ env.disk.Serves p task.writes) (sound : ¬ task.Breaks env)
  | uncaught (failure : Failure) (exitCode : outcome.exitCode = 1)
      (eq : outcome.failure = some failure) (other : failure.isBoardFile = false)
      (broken : task.Breaks env)

section

variable {console : Console} {env : Environment} {task : Task} {outcome : Outcome}

/-- What breaks a task whose board file has a path. -/
theorem Task.breaks_iff (task : Task) {p : Path} (named : env.boardPath? task.path = some p) :
    task.Breaks env ↔ (task.loadsSettings = true ∧ env.disk.BreaksSettings env.settingsPath) ∨
      env.disk.BreaksLoad p ∨ (task.readsHeaders = true ∧ env.disk.HasOverlongHeader p) := by
  constructor
  · intro h
    cases h with
    | settings loads broken => exact Or.inl ⟨loads, broken⟩
    | homeless unnamed =>
      rw [named] at unnamed
      cases unnamed
    | load q named' broken =>
      rw [named, Option.some.injEq] at named'
      exact Or.inr (Or.inl (named' ▸ broken))
    | header q reads named' overlong =>
      rw [named, Option.some.injEq] at named'
      exact Or.inr (Or.inr ⟨reads, named' ▸ overlong⟩)
  · rintro (⟨loads, broken⟩ | broken | ⟨reads, overlong⟩)
    · exact .settings loads broken
    · exact .load p named broken
    · exact .header p reads named overlong

/-- A failure that is no board file error is left to the caller. -/
theorem Outcome.failing_of_other {failure : Failure} (h : failure.isBoardFile = false)
    (console : Console) (disk : Disk) (log : Text) :
    (failing console disk log failure).failure = some failure := by
  cases failure with
  | boardFile cause => cases h
  | _ => rfl

/-- A task that is broken ends with the failure that it comes to. -/
theorem EndsOn.of_breaks {failure : Failure} (hb : task.Breaks env)
    (ho : failure.isBoardFile = false)
    (hfail : ∃ log, outcome = .failing console env.disk log failure) :
    EndsOn console env task outcome := by
  obtain ⟨log, rfl⟩ := hfail
  exact .uncaught failure (Outcome.failing_exitCode console env.disk log failure)
    (Outcome.failing_of_other ho console env.disk log) ho hb

/-- So does one whose board is in a home directory that is not known. -/
theorem EndsOn.of_homeless (hp : env.boardPath? task.path = none)
    (hfail : ∃ log, outcome = .failing console env.disk log .noHome) :
    EndsOn console env task outcome :=
  .of_breaks (.homeless hp) rfl hfail

/-- A task that prints what its workflow gives, and fails with its failure, ends as the
workflow does. -/
theorem EndsOn.of_comesTo {p : Path} {α : Type} {breaks : Prop} {result : Except Failure α}
    (named : env.boardPath? task.path = some p)
    (h : ComesTo env.disk p task.writes breaks result) (hb : task.Breaks env ↔ breaks)
    (hfail : ∀ failure, result = .error failure →
      ∃ log, outcome = .failing console env.disk log failure)
    (hok : ∀ a, result = .ok a → ∃ after log ls, outcome = .printing console after log ls) :
    EndsOn console env task outcome := by
  cases h with
  | done a eq served sound =>
    obtain ⟨after, log, ls, rfl⟩ := hok a eq
    exact .done p named rfl rfl served (mt hb.mp sound)
  | reported cause eq truthful unserved sound =>
    obtain ⟨log, rfl⟩ := hfail _ eq
    exact .reported p named log cause rfl rfl rfl rfl truthful unserved (mt hb.mp sound)
  | broken failure eq other broken => exact .of_breaks (hb.mpr broken) other (hfail _ eq)

/-- A task that nothing breaks, and that has not the board file it needs, ends with an error
line that says so. -/
theorem EndsOn.reported_of {p : Path} (h : EndsOn console env task outcome)
    (named : env.boardPath? task.path = some p) (hs : ¬ env.disk.Serves p task.writes)
    (hn : ¬ task.Breaks env) :
    ∃ log cause, BoardFileError.IsTrueOf env.disk p cause ∧
      outcome.stderr = log ++ console.print ("Error: ".toList ++ cause.message) := by
  cases h with
  | done q named' exitCode caught served sound =>
    rw [named, Option.some.injEq] at named'
    exact absurd (named' ▸ served) hs
  | reported q named' log cause exitCode stdout stderr caught truthful unserved sound =>
    rw [named, Option.some.injEq] at named'
    exact ⟨log, cause, named' ▸ truthful, stderr⟩
  | uncaught failure exitCode eq other broken => exact absurd broken hn

/-- A task that is broken ends without an error line. -/
theorem EndsOn.uncaught_of (h : EndsOn console env task outcome) (hb : task.Breaks env) :
    ∃ failure, outcome.failure = some failure ∧ failure.isBoardFile = false := by
  cases h with
  | done p named exitCode caught served sound => exact absurd hb sound
  | reported p named log cause exitCode stdout stderr caught truthful unserved sound =>
    exact absurd hb sound
  | uncaught failure exitCode eq other broken => exact ⟨failure, eq, other⟩

/-- Sorting ends as its workflow does, unless the settings or the path break it. -/
theorem runSortTask_endsOn (console : Console) (env : Environment) (path : Text)
    (today : Option Date) (write json debug : Bool) :
    EndsOn console env (.sort path today write json debug)
      (runSortTask console env path today write json debug) := by
  rcases env.disk.loadSettings_cases env.settingsPath with
    ⟨hn, settings, hs⟩ | ⟨hb, failure, hs, ho⟩
  · cases hp : env.boardPath? path with
    | none =>
      refine .of_homeless hp ?_
      simp only [runSortTask, hs, Environment.withBoard_of_none hp, Told.silent]
      exact ⟨_, rfl⟩
    | some p =>
      have hc := runSort_comesTo env.disk p settings (today.getD env.today) write
      refine .of_comesTo hp hc ?_ (fun failure hr => ?_) (fun run hr => ?_)
      · simp [Task.breaks_iff (.sort path today write json debug) hp, hn, Task.readsHeaders]
      · simp only [runSortTask, hs, Environment.withBoard_of_some hp, hr]
        exact ⟨_, rfl⟩
      · simp only [runSortTask, hs, Environment.withBoard_of_some hp, hr]
        exact ⟨_, _, _, rfl⟩
  · refine .of_breaks (.settings rfl hb) ho ?_
    simp only [runSortTask, hs]
    exact ⟨_, rfl⟩

/-- Showing facts ends as its workflow does, unless the settings or the path break it. -/
theorem runFactsTask_endsOn (console : Console) (env : Environment) (path : Text) (json : Bool) :
    EndsOn console env (.facts path json) (runFactsTask console env path json) := by
  rcases env.disk.loadSettings_cases env.settingsPath with
    ⟨hn, settings, hs⟩ | ⟨hb, failure, hs, ho⟩
  · cases hp : env.boardPath? path with
    | none =>
      refine .of_homeless hp ?_
      simp only [runFactsTask, tellFacts, Told.result_andThen, hs, bind, Except.bind,
        Environment.withBoard_of_none hp, Told.silent]
      exact ⟨_, rfl⟩
    | some p =>
      refine .of_comesTo hp (tellFacts_comesTo env.disk p hs) ?_ (fun failure hr => ?_)
        (fun rows hr => ?_)
      · simp [Task.breaks_iff (.facts path json) hp, hn, Task.readsHeaders]
      · simp only [runFactsTask, Environment.withBoard_of_some hp, hr]
        exact ⟨_, rfl⟩
      · simp only [runFactsTask, Environment.withBoard_of_some hp, hr]
        exact ⟨_, _, _, rfl⟩
  · refine .of_breaks (.settings rfl hb) ho ?_
    simp only [runFactsTask, tellFacts, Told.result_andThen, hs, bind, Except.bind]
    exact ⟨_, rfl⟩

/-- Showing rules ends as its workflow does, unless the path breaks it. -/
theorem runRulesTask_endsOn (console : Console) (env : Environment) (path : Text) :
    EndsOn console env (.rules path) (runRulesTask console env path) := by
  cases hp : env.boardPath? path with
  | none =>
    refine .of_homeless hp ?_
    simp only [runRulesTask, tellRules, Told.result_andThen, bind, Except.bind,
      Environment.withBoard_of_none hp, Told.silent]
    exact ⟨_, rfl⟩
  | some p =>
    refine .of_comesTo hp (tellRules_comesTo env.disk p) ?_ (fun failure hr => ?_)
      (fun ruled hr => ?_)
    · simp [Task.breaks_iff (.rules path) hp, Task.loadsSettings, Task.readsHeaders]
    · simp only [runRulesTask, Environment.withBoard_of_some hp, hr]
      exact ⟨_, rfl⟩
    · simp only [runRulesTask, Environment.withBoard_of_some hp, hr]
      exact ⟨_, _, _, rfl⟩

/-- Every task ends in one of the three ways. -/
theorem Task.run_endsOn (console : Console) (env : Environment) (task : Task) :
    EndsOn console env task (task.run console env) := by
  cases task with
  | sort path today write json debug =>
    exact runSortTask_endsOn console env path today write json debug
  | facts path json => exact runFactsTask_endsOn console env path json
  | rules path => exact runRulesTask_endsOn console env path

end

/-- Only files that hold no text, paths that the disk refuses, settings that cannot be read,
home directories that are not known and overlong integers end a command without a report.
Loading a board, from any path on any disk, gives a board if a text can be read, a board file
error if nothing can, and another failure exactly if the disk refuses the path or the bytes
write no text. On any console, every call that asks for a task, to sort, to show facts or to
show rules, ends with exit code 0 on a file that can be read and, if the task writes, written,
or with exit code 1 and an error line that says what is wrong with the file, unless the task is
broken by one of these. -/
theorem run_ends_reported_unless_broken (console : Console) (disk : Disk) :
    (∀ p : Path, ComesTo disk p false (disk.BreaksLoad p) (disk.loadBoard p)) ∧
    ∀ (call : Call) (task : Task), call.Asks console disk task →
      EndsOn console (call.environment disk) task (call.run console disk) := by
  refine ⟨disk.loadBoard_comesTo, fun call task h => ?_⟩
  rw [Call.run_eq_of_asks h]
  exact task.run_endsOn console (call.environment disk)

/-- The name of a board file. -/
def boardName : Text := "board.md".toList

/-- A call made with some words, on a machine with one user. -/
def plainCall (args : List Text) : Call where
  args := args
  today := ⟨2031, 5, 2, by decide, by decide, by decide⟩
  stamp := "2031-05-02 10:00:00,000".toList
  settingsPath := Path.read "kshome/config/kanbansort.conf".toList
  homes := ⟨Path.read "/home/reto".toList, fun _ => none⟩

/-- A call to show the rules of the board. -/
def rulesCall : Call := plainCall ["rules".toList, boardName]

/-- A call to sort the board and write it. -/
def saveCall : Call := plainCall ["sort".toList, boardName, "--write".toList]

/-- The path of a board in the home of a user who is not known. -/
def strangeName : Text := "~nobody/board.md".toList

/-- A call to show the rules of this board. -/
def strangeCall : Call := plainCall ["rules".toList, strangeName]

/-- No home directory stands for a part of the plain name. -/
theorem boardPath?_boardName {args : List Text} {disk : Disk} :
    ((plainCall args).environment disk).boardPath? boardName = some (Path.read boardName) := by
  have h : Path.read boardName = ⟨[], [boardName]⟩ := by decide
  refine Path.expand?_of_plain fun user names he => ?_
  rw [h] at he
  cases he

/-- The bytes of a board with one column, in an encoding with one byte for each letter. -/
def latinBytes : ByteArray := ⟨#[0x23, 0x23, 0x20, 0x43, 0x61, 0x66, 0xE9, 0x0A]⟩

/-- A disk that holds nothing but a board file with these bytes. -/
def latinDisk : Disk := Disk.empty.set [boardName] (some (.file latinBytes))

/-- What is wrong with the bytes: the last letter. -/
def latinFault : Text.ByteFault := ⟨6, 6, 0xE9, .badContinuation⟩

/-- The bytes write no text. -/
theorem decode_latinBytes : Text.decode latinBytes = .error latinFault := by
  have h : (match Text.decode latinBytes with
    | .ok _ => false
    | .error fault => decide (fault = latinFault)) = true := by decide +kernel
  split at h
  · cases h
  · next fault hf => rw [hf, of_decide_eq_true h]

/-- The path leads to a file with these bytes. -/
theorem readFile_latinDisk : latinDisk.readFile (Path.read boardName) = .ok latinBytes := by
  have hl : Disk.empty.locate (Path.read boardName) = .ok [boardName] := by decide +kernel
  exact Disk.readFile_alone hl (List.cons_ne_nil _ _) latinBytes

/-- The file of a board with one column and no rules. -/
def sealedFile : Text := "## Café\n".toList

/-- A disk that holds nothing but this file, which may not be written. -/
def sealedDisk : Disk :=
  (Disk.empty.set [boardName] (some (.file (Text.encode sealedFile)))).deny .write [boardName]

/-- The file can be read. -/
theorem readFile_sealedDisk :
    sealedDisk.readFile (Path.read boardName) = .ok (Text.encode sealedFile) := by
  have hl : sealedDisk.locate (Path.read boardName) = .ok [boardName] := by decide +kernel
  exact Disk.readFile_eq_ok_iff.mpr ⟨_, hl, rfl, rfl⟩

/-- It cannot be written. -/
theorem writeFile_sealedDisk (bytes : ByteArray) :
    sealedDisk.writeFile (Path.read boardName) bytes = .error .denied := by
  have hl : sealedDisk.locate (Path.read boardName) = .ok [boardName] := by decide +kernel
  rw [Disk.writeFile, hl]
  rfl

/-- The board of this file is sorted without a placement. -/
theorem sort_sealedFile : (Markdown.read sealedFile).board.sort saveCall.today
    Settings.default.tagSource = .ok ⟨[], []⟩ := by decide +kernel

/-- Nothing breaks the call to sort this file. -/
theorem not_breaks_sealedDisk : ¬ (Task.sort boardName none true false false).Breaks
    (saveCall.environment sealedDisk) := by
  have hs : (sealedDisk.loadSettings saveCall.settingsPath).result = .ok Settings.default := rfl
  rw [Task.breaks_iff _ boardPath?_boardName]
  rintro (⟨-, hb⟩ | hb | ⟨-, ho⟩)
  · exact Disk.not_breaksSettings_of_loaded hs hb
  · exact Disk.not_breaksLoad_of_text readFile_sealedDisk hb
  · have hl := Disk.loadBoard_of_readFile readFile_sealedDisk (Text.decode_encode sealedFile)
    exact not_forall_read_of_hasOverlong ((Disk.hasOverlongHeader_iff hl).mp ho)
      (Board.exists_sort_iff.mp ⟨_, sort_sealedFile⟩)

/-- What the calls ask for, whatever file there is. -/
theorem asks_calls : rulesCall.Asks .standard Disk.empty (.rules boardName) ∧
    rulesCall.Asks .standard latinDisk (.rules boardName) ∧
    saveCall.Asks .standard sealedDisk (.sort boardName none true false false) ∧
    strangeCall.Asks .standard Disk.empty (.rules strangeName) := by
  unfold Call.Asks
  refine ⟨?_, ?_, ?_, ?_⟩ <;> decide +kernel

/-- Without a board file the call for rules ends with an error line, and so does the call to
sort and write where the file may not be written. With a file that holds no text the call for
rules ends without one, and so does the call for a board in a home that is not known. -/
theorem rulesCall_endings :
    rulesCall.Asks .standard Disk.empty (.rules boardName) ∧
    (∃ log, (rulesCall.run .standard Disk.empty).stderr = log ++ printed
      "Error: Board file not found: board.md".toList) ∧
    saveCall.Asks .standard sealedDisk (.sort boardName none true false false) ∧
    (∃ log, (saveCall.run .standard sealedDisk).stderr = log ++ printed
      "Error: Cannot write board.md: [Errno 13] Permission denied: 'board.md'".toList) ∧
    rulesCall.Asks .standard latinDisk (.rules boardName) ∧
    (∃ failure, (rulesCall.run .standard latinDisk).failure = some failure ∧
      failure.isBoardFile = false) ∧
    strangeCall.Asks .standard Disk.empty (.rules strangeName) ∧
    ∃ failure, (strangeCall.run .standard Disk.empty).failure = some failure ∧
      failure.isBoardFile = false := by
  obtain ⟨hempty, hlatin, hsealed, hstrange⟩ := asks_calls
  refine ⟨hempty, ?_, hsealed, ?_, hlatin, ?_, hstrange, ?_⟩
  · have hm : Disk.empty.find (Path.read boardName) = .error .noEntry := rfl
    have ha : ¬ Disk.empty.Refuses (Path.read boardName) := by simp [Disk.Refuses, hm]
    have hr := Disk.not_isReadable (Disk.readFile_of_find_error hm)
    have hn : ¬ (Task.rules boardName).Breaks (rulesCall.environment Disk.empty) := by
      rw [Task.breaks_iff _ boardPath?_boardName]
      rintro (⟨hl, -⟩ | hb | ⟨-, ho⟩)
      · cases hl
      · exact Disk.not_breaksLoad_of_unreadable hr ha hb
      · exact hr ho.isReadable
    obtain ⟨log, cause, ht, he⟩ :=
      ((run_ends_reported_unless_broken .standard Disk.empty).2 rulesCall _ hempty).reported_of
        boardPath?_boardName (fun hs => hr hs.1) hn
    rw [Disk.isTrueOf_unique ht (.notFound (Disk.holds_of_missing hm ha))] at he
    exact ⟨log, he⟩
  · have hw : ¬ sealedDisk.Serves (Path.read boardName) true := by
      rintro ⟨-, hs⟩
      obtain ⟨disk', h⟩ := hs rfl .empty
      rw [writeFile_sealedDisk] at h
      cases h
    obtain ⟨log, cause, ht, he⟩ :=
      ((run_ends_reported_unless_broken .standard sealedDisk).2 saveCall _ hsealed).reported_of
        boardPath?_boardName hw not_breaks_sealedDisk
    rw [Disk.isTrueOf_unique ht (.unwritable _ ⟨_, readFile_sealedDisk⟩ writeFile_sealedDisk)] at he
    exact ⟨log, he⟩
  · exact ((run_ends_reported_unless_broken .standard latinDisk).2 rulesCall _ hlatin).uncaught_of
      (.load _ boardPath?_boardName
        (Disk.breaksLoad_of_decode readFile_latinDisk decode_latinBytes))
  · have hp : Path.read strangeName = ⟨[], [('~' :: "nobody".toList), boardName]⟩ := by decide
    have hn : (strangeCall.environment Disk.empty).boardPath? strangeName = none :=
      Path.expand?_eq_none_iff.mpr ⟨_, _, hp, by decide, rfl⟩
    exact ((run_ends_reported_unless_broken .standard Disk.empty).2 strangeCall _
      hstrange).uncaught_of (.homeless hn)

/-- A file with bytes that are no text ends the call with exit code 1 and without an error
line, and loading its board fails with what is no board file error. -/
theorem latinDisk_uncaught :
    latinDisk.readFile (Path.read boardName) = .ok latinBytes ∧
    latinDisk.loadBoard (Path.read boardName) = .error (.undecodable latinFault) ∧
    rulesCall.Asks .standard latinDisk (.rules boardName) ∧
    (rulesCall.run .standard latinDisk).exitCode = 1 ∧
    (rulesCall.run .standard latinDisk).stderr = [] ∧
    (rulesCall.run .standard latinDisk).failure = some (.undecodable latinFault) := by
  have hf := readFile_latinDisk
  have hl : latinDisk.loadBoard (Path.read boardName) = .error (.undecodable latinFault) := by
    simp [Disk.loadBoard, Disk.holds_of_find (Disk.find_of_readFile hf), hf, decode_latinBytes,
      bind, Except.bind, Except.mapError]
  have hboard : (rulesCall.environment latinDisk).withBoard boardName latinDisk.tellBoard =
      .silent (.error (.undecodable latinFault)) := by
    refine (Environment.withBoard_of_some boardPath?_boardName _).trans ?_
    rw [Disk.tellBoard, hl]
  have hrun : rulesCall.run .standard latinDisk =
      ⟨1, [], [], some (.undecodable latinFault), latinDisk⟩ := by
    rw [Call.run_eq_of_asks asks_calls.2.1]
    change runRulesTask .standard (rulesCall.environment latinDisk) boardName = _
    unfold runRulesTask
    rw [show (rulesCall.environment latinDisk).disk = latinDisk from rfl, hboard]
    rfl
  rw [hrun]
  exact ⟨hf, hl, asks_calls.2.1, rfl, rfl, rfl⟩

end Command

end GatherBoard
