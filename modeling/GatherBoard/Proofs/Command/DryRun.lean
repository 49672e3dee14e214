import GatherBoard.Proofs.Command.Calls
import GatherBoard.Proofs.Command.Reports
import GatherBoard.Proofs.Markdown.PlaceIds

/-!
# Dry runs

A call to sort without writing foretells what the same call prints when it
writes, on every console that prints lines. The run that writes shows titles of the
rearranged board: the ids of a board that was read are unique, and so these titles
are those of before.
-/

namespace GatherBoard

open Markdown

variable {disk : Disk} {p : Path} {settings : Settings} {today : Date} {dry wet : SortRun}

/-- A dry run has the board that was read from the file, and a plan that sorts it. -/
theorem exists_text_of_dry (h : (runSort disk p settings today false).result = .ok dry) :
    ∃ t, disk.loadBoard p = .ok (read t) ∧ dry.board = (read t).board ∧
      (read t).board.sort today settings.tagSource = .ok dry.plan := by
  obtain ⟨reading, hl, hs, hb, -⟩ := runSort_dry_eq_ok_iff.mp h
  obtain ⟨bytes, t, -, -, rfl⟩ := Disk.loadBoard_eq_ok_iff.mp hl
  exact ⟨t, hl, hb, hs⟩

/-- The run that writes follows the plan of the dry run, and its board shows the
same titles. -/
theorem runSort_titles (hd : (runSort disk p settings today false).result = .ok dry)
    (hw : (runSort disk p settings today true).result = .ok wet) :
    wet.plan = dry.plan ∧ wet.board.cardTitle? = dry.board.cardTitle? ∧
      wet.board.columnTitle? = dry.board.columnTitle? := by
  obtain ⟨t, hl, hb, hs⟩ := exists_text_of_dry hd
  obtain ⟨reading, hl', hs', ha, -⟩ := runSort_eq_ok_iff.mp hw
  rw [hl, Except.ok.injEq] at hl'
  subst hl'
  rw [hs, Except.ok.injEq] at hs'
  rw [hb]
  exact ⟨hs'.symm, Board.titles_of_apply ha (nodup_columnIds_read t) (nodup_cardIds_read t)⟩

namespace Command

/-- The verb of moves that are only planned. -/
def plannedVerb : Text := "Would move".toList

/-- The verb of moves that are done. -/
def doneVerb : Text := "Moved".toList

/-- Two outputs have the same lines, but for the verb at the start of each. -/
def DifferInVerb (verb verb' : Text) (out out' : Text) : Prop :=
  ∃ tails : List Text, tails ≠ [] ∧ (∀ tail ∈ tails, '\n' ∉ tail) ∧
    (out = tails.flatMap fun tail => verb ++ tail ++ ['\n']) ∧
    out' = tails.flatMap fun tail => verb' ++ tail ++ ['\n']

/-- What is printed where no card is to be moved. -/
def nothingToMove : Text := "Nothing to move.\n".toList

/-- The reports in lines of two runs that have the same plan and show the same titles
both say that there is nothing to move, or they differ in the verb. -/
theorem Console.PrintsLines.moveLines_cases {console : Console} (h : console.PrintsLines)
    {t : Text} {select : TextSelector} {plan : Plan} {b : Board}
    (hs : (read t).board.sort today select = .ok plan)
    (htail : moveTail b = moveTail (read t).board) :
    printLines console.print (moveLines false (read t).board plan) = nothingToMove ∧
        printLines console.print (moveLines true b plan) = nothingToMove ∨
      DifferInVerb plannedVerb doneVerb
        (printLines console.print (moveLines false (read t).board plan))
        (printLines console.print (moveLines true b plan)) := by
  unfold moveLines
  cases hm : plan.isNoop with
  | true =>
    have hprint : printLines console.print ["Nothing to move.".toList] = nothingToMove := by
      have hfront := h.front "Nothing to move.".toList [] (by decide)
      rw [List.append_nil, h.empty] at hfront
      rw [printLines, List.flatMap_singleton, hfront]
      rfl
    exact Or.inl ⟨hprint, hprint⟩
  | false =>
    have hline {move : Placement} (hmove : move ∈ plan.moves) :
        '\n' ∉ moveTail (read t).board move := (isLine_moveTail hs hmove).1
    refine Or.inr
      ⟨plan.moves.map fun move => console.shown (moveTail (read t).board move), ?_, ?_, ?_, ?_⟩
    · intro hnil
      rw [List.map_eq_nil_iff] at hnil
      simp [Plan.isNoop, hnil] at hm
    · intro tail hmem
      obtain ⟨move, hmove, rfl⟩ := List.mem_map.mp hmem
      exact (h.print_eq (hline hmove)).1
    · exact h.printLines_moveLines (by decide) (fun _ => hline)
    · rw [← htail]
      exact h.printLines_moveLines (by decide) (fun _ hmove => htail ▸ hline hmove)

/-- A dry run predicts the run that writes: where the same sorting of the same file is
called for without and with writing, and both calls succeed, they print the same
JSON. As lines of text they both print that there is nothing to move, or they print
the same lines but for the verb that each line begins with. -/
theorem dry_run_predicts_write {console : Console} (hc : console.PrintsLines) {dry wet : Call}
    {disk : Disk} {path path' : Text} {today : Option Date} {json debug debug' : Bool}
    (hd : dry.Asks console disk (.sort path today false json debug))
    (hw : wet.Asks console disk (.sort path' today true json debug'))
    (hf : wet.boardPath? path' = dry.boardPath? path) (hp : wet.settingsPath = dry.settingsPath)
    (ht : today.getD wet.today = today.getD dry.today)
    (hdry : (dry.run console disk).exitCode = 0) (hwet : (wet.run console disk).exitCode = 0) :
    (json = true → (wet.run console disk).stdout = (dry.run console disk).stdout) ∧
    (json = false →
      (dry.run console disk).stdout = nothingToMove ∧
          (wet.run console disk).stdout = nothingToMove ∨
        DifferInVerb plannedVerb doneVerb (dry.run console disk).stdout
          (wet.run console disk).stdout) := by
  obtain ⟨settings, p, dryRun, hdc⟩ := Call.completes hd hdry
  obtain ⟨settings', p', wetRun, hwc⟩ := Call.completes hw hwet
  -- both calls load the same settings from the same disk, and the board of the same file
  have hs : settings' = settings := by
    have hloaded : (disk.loadSettings dry.settingsPath).result = .ok settings' := hp ▸ hwc.loaded
    exact Except.ok.inj (hloaded.symm.trans hdc.loaded)
  have hboard : p' = p := Option.some.inj ((hwc.named.symm.trans hf).trans hdc.named)
  subst hs hboard
  have hran := hwc.ran
  rw [show (wet.environment disk).disk = disk from rfl, ht] at hran
  obtain ⟨hplan, hcard, hcolumn⟩ := runSort_titles hdc.ran hran
  obtain ⟨t, -, hb, hsort⟩ := exists_text_of_dry hdc.ran
  rw [hdc.stdout, hwc.stdout, ht, hplan]
  -- the two reports differ in the board, and it counts for its titles only
  constructor
  · rintro rfl
    rw [reportLines, reportLines, if_pos rfl, if_pos rfl, planRecord_congr hcard]
  · rintro rfl
    rw [reportLines, reportLines, if_neg (by decide), if_neg (by decide)]
    rw [hb] at hcard hcolumn ⊢
    exact hc.moveLines_cases hsort (moveTail_congr hcard hcolumn)

/-- The file of a board with a card that is late. -/
def gardenFile : Text :=
  "## Beds\n- [ ] Weed @2026-07-02\n## Late #gather_day<0 #sort-byname\n- [ ] Mow @Ann".toList

/-- A disk that holds nothing but this file. -/
def gardenDisk : Disk :=
  Disk.empty.set ["garden.md".toList] (some (.file (Text.encode gardenFile)))

/-- The day that the calls sort by. -/
def gardenDay : Date := ⟨2026, 7, 7, by decide, by decide, by decide⟩

/-- The plan of that day: the weeds are late. -/
def gardenPlan : Plan where
  placements := [
    ⟨"col-1-card-1".toList, "col-1".toList, some "col-2".toList⟩,
    ⟨"col-2-card-1".toList, "col-2".toList, none⟩]
  diagnostics := []

/-- A path where there are no settings. -/
def gardenSettingsPath : Path := ⟨[], ["kanbansort.conf".toList]⟩

/-- The home directories of a machine with one user, who has none but her own. -/
def gardenHomes : Homes := ⟨Path.read "/home/ann".toList, fun _ => none⟩

/-- A call to sort the file by that day, made on the day itself. -/
def gardenDryCall (flags : List Text) : Call where
  args := ["sort".toList, "garden.md".toList, "--today".toList, "2026-07-07".toList] ++ flags
  today := gardenDay
  stamp := "2026-07-07 08:00:00,000".toList
  settingsPath := gardenSettingsPath
  homes := gardenHomes

/-- A call to sort the file by that day and write it, made a day later. -/
def gardenWriteCall (flags : List Text) : Call where
  args := ["sort".toList, "--write".toList, "--today=2026-7-7".toList] ++ flags ++
    ["garden.md".toList]
  today := ⟨2026, 7, 8, by decide, by decide, by decide⟩
  stamp := "2026-07-08 09:30:00,000".toList
  settingsPath := gardenSettingsPath
  homes := gardenHomes

/-- The file can be sorted, with and without writing. -/
theorem exists_runSort_gardenDisk (write : Bool) :
    ∃ run, (runSort gardenDisk (Path.read "garden.md".toList) .default gardenDay write).result =
      .ok run ∧ run.plan = gardenPlan := by
  have hl : Disk.empty.locate (Path.read "garden.md".toList) = .ok ["garden.md".toList] := by
    decide +kernel
  have hs : (read gardenFile).board.sort gardenDay Settings.default.tagSource = .ok gardenPlan := by
    decide +kernel
  exact exists_runSort (Disk.readFile_alone hl (List.cons_ne_nil _ _) _) (Text.decode_encode gardenFile) hs
    fun _ => Disk.isWritable_alone hl (List.cons_ne_nil _ _) _

/-- Where the settings are looked for there are none, so the default holds. -/
theorem loadSettings_gardenDisk :
    (gardenDisk.loadSettings gardenSettingsPath).result = .ok Settings.default := rfl

/-- Each call to sort the file by that day succeeds, and reports the plan. -/
theorem gardenDisk_completes {call : Call} {write json : Bool}
    (h : call.Asks .standard gardenDisk
      (.sort "garden.md".toList (some gardenDay) write json false))
    (hp : call.settingsPath = gardenSettingsPath) (hh : call.homes = gardenHomes) :
    (call.run .standard gardenDisk).exitCode = 0 ∧ ∃ b, (call.run .standard gardenDisk).stdout =
      printLines printed (reportLines gardenDay write json b gardenPlan) := by
  obtain ⟨run, hr, hplan⟩ := exists_runSort_gardenDisk write
  have hb : call.boardPath? "garden.md".toList = some (Path.read "garden.md".toList) := by
    rw [Call.boardPath?, hh]
    decide
  have hc := Call.completes_of_ran h (hp ▸ loadSettings_gardenDisk) hb hr
  exact ⟨hc.exitCode, run.board, hplan ▸ hc.stdout⟩

/-- The calls without writing and, a day later, with writing succeed. The second one
prints what the first foretells, in lines and in JSON. -/
theorem gardenDisk_predicted :
    ((gardenDryCall []).run .standard gardenDisk).exitCode = 0 ∧
    ((gardenWriteCall []).run .standard gardenDisk).exitCode = 0 ∧
    DifferInVerb plannedVerb doneVerb ((gardenDryCall []).run .standard gardenDisk).stdout
      ((gardenWriteCall []).run .standard gardenDisk).stdout ∧
    ((gardenDryCall ["--json".toList]).run .standard gardenDisk).exitCode = 0 ∧
    ((gardenWriteCall ["--json".toList]).run .standard gardenDisk).exitCode = 0 ∧
    ((gardenWriteCall ["--json".toList]).run .standard gardenDisk).stdout =
      ((gardenDryCall ["--json".toList]).run .standard gardenDisk).stdout := by
  have hd : (gardenDryCall []).Asks .standard gardenDisk
      (.sort "garden.md".toList (some gardenDay) false false false) := by
    unfold Call.Asks
    decide +kernel
  have hw : (gardenWriteCall []).Asks .standard gardenDisk
      (.sort "garden.md".toList (some gardenDay) true false false) := by
    unfold Call.Asks
    decide +kernel
  have hd' : (gardenDryCall ["--json".toList]).Asks .standard gardenDisk
      (.sort "garden.md".toList (some gardenDay) false true false) := by
    unfold Call.Asks
    decide +kernel
  have hw' : (gardenWriteCall ["--json".toList]).Asks .standard gardenDisk
      (.sort "garden.md".toList (some gardenDay) true true false) := by
    unfold Call.Asks
    decide +kernel
  obtain ⟨hde, b, hshown⟩ := gardenDisk_completes hd rfl rfl
  obtain ⟨hwe, -⟩ := gardenDisk_completes hw rfl rfl
  obtain ⟨hde', -⟩ := gardenDisk_completes hd' rfl rfl
  obtain ⟨hwe', -⟩ := gardenDisk_completes hw' rfl rfl
  -- there is a move, so the output begins with a verb
  have hmoves : ((gardenDryCall []).run .standard gardenDisk).stdout ≠ nothingToMove := by
    rw [hshown]
    intro h
    have hfirst : some 'W' = some 'N' := congrArg List.head? h
    cases hfirst
  have hc := Console.standard_printsLines
  have hlines := (dry_run_predicts_write hc hd hw rfl rfl rfl hde hwe).2 rfl
  exact ⟨hde, hwe, hlines.resolve_left (fun h => hmoves h.1), hde', hwe',
    (dry_run_predicts_write hc hd' hw' rfl rfl rfl hde' hwe').1 rfl⟩

end Command

end GatherBoard
