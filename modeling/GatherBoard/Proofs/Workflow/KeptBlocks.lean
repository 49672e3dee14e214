import GatherBoard.Proofs.Markdown.FileParts
import GatherBoard.Proofs.Workflow.Resorting

/-!
# Front matter and footer of a sorted file

A board keeps the front matter and the footer of its file as they stand there. A
run moves and reorders cards between them only, so that the sorted file begins
with the same front matter and ends in the same footer, each in whole lines.
-/

namespace GatherBoard

open Text

namespace Markdown

/-- A text that begins with the closed front matter of a board, if there is more on the
board, and ends in its footer, which gets a break if it has none at its end. -/
structure KeepsBlocks (b : Board) (written : Text) : Prop where
  header : ∀ header, b.header = some header → IsClosed (header.splitOn '\n') →
    b.title ≠ [] ∨ b.columns ≠ [] ∨ b.footer ≠ none → ∃ rest, written = header ++ '\n' :: rest
  footer : ∀ footer, b.footer = some footer → IsBottom (storedFooter footer) written

/-- The file of a rearranged board keeps the blocks of the board. -/
theorem IsWritable.keepsBlocks {b b' : Board} {landing : Text → Text → Text} (h : IsWritable b')
    (hr : b.Rearranged landing b') : KeepsBlocks b (write b') := by
  refine ⟨fun header hh _ hmore => ?_, fun footer hf => h.isBottom_write (hr.footer.trans hf)⟩
  refine h.write_eq_of_header (fun hbare => ?_) (hr.header.trans hh)
  obtain ⟨ht, hc, hf⟩ := (isBare_iff_of_rearranged hr).mp hbare
  rcases hmore with hm | hm | hm
  · exact hm ht
  · exact hm hc
  · exact hm hf

end Markdown

open Markdown

/-- Front matter and footer survive as they are. The lines of every text are divided into
front matter, body and footer, and the board of the text has the first and the last of these
as texts, made of the first lines and the last lines of the text. If a file holds the text,
and a run with any settings on any day sorts and writes it, then the file begins with the
front matter, if this is closed and not all of the board, and ends in the footer, which only
gets a break if it has none at its end. -/
theorem runSort_keeps_blocks (t : Text) :
    (∃ front body footer, Divides (Text.lines t) front body footer ∧
      (read t).board.header = block? front ∧ (read t).board.footer = block? footer) ∧
    (∀ header, (read t).board.header = some header → IsTop header (unifyBreaks t)) ∧
    (∀ footer, (read t).board.footer = some footer → IsBottom footer (unifyBreaks t)) ∧
    ∀ {disk : Disk} {p : Path} {settings : Settings} {today : Date} {run : SortRun},
      disk.readFile p = .ok (encode t) → (runSort disk p settings today true).result = .ok run →
      ∃ written, run.disk.readFile p = .ok (encode written) ∧
        KeepsBlocks (read t).board written := by
  have hd := divides_ofLines (Text.lines t)
  refine ⟨⟨_, _, _, hd, hd.header_eq, hd.footer_eq⟩, fun header hh => ?_, fun footer hf => ?_, ?_⟩
  · exact hd.isTop (hd.header_eq.symm.trans hh)
  · exact hd.isBottom (hd.footer_eq.symm.trans hf)
  · intro disk p settings today run hfile hrun
    obtain ⟨reading, hl, -, ha, hsave⟩ := runSort_eq_ok_iff.mp hrun
    rw [Disk.loadBoard_of_readFile hfile (decode_encode t), Except.ok.injEq] at hl
    subst hl
    have hr := Board.rearranged_of_apply ha
    have hp := Board.cards_perm_of_apply ha (nodup_columnIds_read t)
    have hw := (isWritable_read t).rearranged hr hp
    rw [Disk.saveBoard_eq_ok_iff] at hsave
    exact ⟨write run.board, Disk.readFile_of_writeFile hfile hsave, hw.keepsBlocks hr⟩

/-- The front matter of a file, with a line in it that would begin a footer elsewhere. -/
def sampleFront : Text := "---\nkanban-plugin: board\n%% inside\n---".toList

/-- The file of a board between this front matter and a footer. -/
def framedFile : Text :=
  sampleFront ++ "\r\n# Calls\n".toList ++ callFile ++ "\r\n%% settings\n---".toList

/-- A disk that holds nothing but this file. -/
def framedDisk : Disk := Disk.empty.set callPath.names (some (.file (encode framedFile)))

/-- The blocks of the file are kept when a card between them moves. -/
theorem framedDisk_keeps_blocks :
    framedDisk.readFile callPath = .ok (encode framedFile) ∧
      ∃ run, (runSort framedDisk callPath .default callDay true).result = .ok run ∧
        run.plan = callPlan ∧
        ∃ written, run.disk.readFile callPath = .ok (encode written) ∧
          (∃ rest, written = sampleFront ++ '\n' :: rest) ∧
          IsBottom "%% settings\n---\n".toList written := by
  obtain ⟨hf, hw⟩ : framedDisk.readFile callPath = .ok (encode framedFile) ∧
      framedDisk.IsWritable callPath := readFile_callPath _
  have hs : (read framedFile).board.sort callDay Settings.default.tagSource = .ok callPlan := by
    decide +kernel
  have hh : (read framedFile).board.header = some sampleFront := by decide +kernel
  have hfoot : (read framedFile).board.footer = some "%% settings\n---".toList := by
    decide +kernel
  have hc : IsClosed (sampleFront.splitOn '\n') :=
    ⟨frontMark, ["kanban-plugin: board".toList, "%% inside".toList], frontMark, by decide, rfl, rfl,
      by decide⟩
  have hmore : (read framedFile).board.footer ≠ none := by simp [hfoot]
  obtain ⟨run, hrun, hplan⟩ := exists_runSort hf (decode_encode framedFile) hs fun _ => hw
  obtain ⟨written, hwritten, hkept⟩ := (runSort_keeps_blocks framedFile).2.2.2 hf hrun
  exact ⟨hf, run, hrun, hplan, written, hwritten, hkept.header _ hh hc (Or.inr (Or.inr hmore)),
    hkept.footer _ hfoot⟩

end GatherBoard
