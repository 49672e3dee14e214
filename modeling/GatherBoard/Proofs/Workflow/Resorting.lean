import GatherBoard.Proofs.Disk.Rewriting
import GatherBoard.Proofs.Markdown.SavedBoards
import GatherBoard.Proofs.Workflow.Runs

/-!
# Sorting a file again

A run that sorts a file and writes it either fails or leaves a file that needs
no more sorting. A second run with the same settings on the same day succeeds,
moves no card, and leaves the disk as it is.
-/

namespace GatherBoard

open Markdown

variable {disk : Disk} {p : Path} {settings : Settings} {today : Date}

/-- Sorting a file is idempotent: if a run sorts and writes a file, and all cards of its
board have titles and the file ends in a footer or in a column with a title, if
in a column at all, then a second run succeeds as well, with a plan without
moves, and leaves the file, and with it the disk, as the first run has left it. -/
theorem runSort_idempotent {bytes : ByteArray} {t : Text} {first : SortRun}
    (hf : disk.readFile p = .ok bytes) (hd : Text.decode bytes = .ok t)
    (ht : AllTitled (read t).board) (he : EndsTitled (read t).board)
    (hr : (runSort disk p settings today true).result = .ok first) :
    first.disk.readFile p = .ok (Text.encode (write first.board)) ∧
    ∃ second, (runSort first.disk p settings today true).result = .ok second ∧
      second.plan.moves = [] ∧ second.disk.readFile p = first.disk.readFile p ∧
      second.disk = first.disk := by
  obtain ⟨reading, hl, hs, ha, hsave⟩ := runSort_eq_ok_iff.mp hr
  rw [Disk.loadBoard_of_readFile hf hd, Except.ok.injEq] at hl
  subst hl
  obtain ⟨⟨plan, hs', hm, ha'⟩, hw⟩ := resort_saved hs ha ht he
  rw [Disk.saveBoard_eq_ok_iff] at hsave
  have hread := Disk.readFile_of_writeFile hf hsave
  refine ⟨hread, ⟨(read (write first.board)).board, plan, first.disk⟩, ?_, hm, rfl, rfl⟩
  refine runSort_eq_ok_iff.mpr ⟨_, Disk.loadBoard_of_readFile hread (Text.decode_encode _), hs', ha', ?_⟩
  rw [Disk.saveBoard_eq_ok_iff, hw]
  exact Disk.writeFile_of_writeFile hsave

/-- The file of a board with a card that does not stay in its column. -/
def callFile : Text :=
  "## Todo\n- [ ] Call @Reto @2025-03-10\n## Reto #gather_reto #sort-bydate\n- [x] Ask @Reto".toList

/-- The path of this file. -/
def callPath : Path := ⟨[], ["board.md".toList]⟩

/-- A disk that holds nothing but this file. -/
def callDisk : Disk := Disk.empty.set callPath.names (some (.file (Text.encode callFile)))

/-- The day of the call. -/
def callDay : Date := ⟨2025, 3, 10, by decide, by decide, by decide⟩

/-- The plan of that day: the call goes to the column of the person. -/
def callPlan : Plan where
  placements := [
    ⟨"col-1-card-1".toList, "col-1".toList, some "col-2".toList⟩,
    ⟨"col-2-card-1".toList, "col-2".toList, some "col-2".toList⟩]
  diagnostics := []

/-- The path leads to a file of its name. -/
theorem locate_callPath : Disk.empty.locate callPath = .ok callPath.names := by decide +kernel

/-- A disk with nothing but a file of this path has its bytes, and takes others. -/
theorem readFile_callPath (bytes : ByteArray) :
    (Disk.empty.set callPath.names (some (.file bytes))).readFile callPath = .ok bytes ∧
      (Disk.empty.set callPath.names (some (.file bytes))).IsWritable callPath :=
  ⟨Disk.readFile_alone locate_callPath (List.cons_ne_nil _ _) bytes,
    Disk.isWritable_alone locate_callPath (List.cons_ne_nil _ _) bytes⟩

/-- The first run moves the call, and the second one finds nothing to do. -/
theorem callDisk_resorted :
    callDisk.readFile callPath = .ok (Text.encode callFile) ∧
      Text.decode (Text.encode callFile) = .ok callFile ∧
      AllTitled (read callFile).board ∧ EndsTitled (read callFile).board ∧
      ∃ first, (runSort callDisk callPath .default callDay true).result = .ok first ∧
        first.plan = callPlan ∧
        ∃ second, (runSort first.disk callPath .default callDay true).result = .ok second ∧
          second.plan.moves = [] ∧ second.disk.readFile callPath = first.disk.readFile callPath ∧
          second.disk = first.disk := by
  obtain ⟨hf, hw⟩ : callDisk.readFile callPath = .ok (Text.encode callFile) ∧
      callDisk.IsWritable callPath := readFile_callPath _
  have hd := Text.decode_encode callFile
  have ht : AllTitled (read callFile).board := by
    unfold AllTitled
    decide
  have he : EndsTitled (read callFile).board := by
    intro _ last hlast
    have hall : (read callFile).board.columns.getLast?.all (fun c => c.title ≠ []) := by decide
    rw [hlast] at hall
    simpa using hall
  have hs : (read callFile).board.sort callDay Settings.default.tagSource = .ok callPlan := by
    decide +kernel
  obtain ⟨first, hr, hp⟩ := exists_runSort hf hd hs fun _ => hw
  exact ⟨hf, hd, ht, he, first, hr, hp, (runSort_idempotent hf hd ht he hr).2⟩

end GatherBoard
