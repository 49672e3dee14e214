import GatherBoard.Command.Report
import GatherBoard.Command.Run
import GatherBoard.Proofs.Board.Titles
import GatherBoard.Proofs.Markdown.ReadBoards

/-!
# Reports

A report takes nothing from a board but titles. Each move is shown in one line,
the verb first. A console may take out of a line what would steer a terminal, but
it prints one line for each and never touches the verb. On a board that was read
from a text all titles are lines.
-/

namespace GatherBoard.Command

open Markdown Text

/-- Text in front without escape characters is printed as it is. -/
theorem plain_append {s : Text} (h : '\x1b' ∉ s) (t : Text) : plain (s ++ t) = s ++ plain t := by
  induction s with
  | nil => rfl
  | cons c s ih =>
    rw [List.mem_cons, not_or] at h
    obtain ⟨hc, hs⟩ := h
    have hstep : plain (c :: (s ++ t)) = c :: plain (s ++ t) := by
      rw [plain, plainFrom, if_neg (Ne.symm hc)]
      rfl
    rw [List.cons_append, hstep, ih hs, List.cons_append]

/-- Printing only takes characters out. -/
theorem mem_of_mem_plainFrom {skip : Nat} {t : Text} {c : Char} (h : c ∈ plainFrom skip t) :
    c ∈ t := by
  fun_induction plainFrom skip t with
  | case1 => exact h
  | case2 skip d rest ih => exact List.mem_cons_of_mem d (ih h)
  | case3 d rest length he ih => exact List.mem_cons_of_mem d (ih h)
  | case4 d rest he ih =>
    rcases List.mem_cons.mp h with rfl | h
    · exact List.mem_cons_self
    · exact List.mem_cons_of_mem d (ih h)

/-- What counts on in a console that prints lines. Escape characters may begin what steers
a terminal, so nothing is said of what follows them in a line. -/
structure Console.PrintsLines (console : Console) : Prop where
  /-- Text in front without escape characters is printed as it is. -/
  front : ∀ s t, '\x1b' ∉ s → console.print (s ++ t) = s ++ console.print t
  /-- An empty line is printed as a break. -/
  empty : console.print [] = ['\n']
  /-- A line is printed as a line. -/
  line : ∀ t, '\n' ∉ t → ∃ shown, '\n' ∉ shown ∧ console.print t = shown ++ ['\n']

/-- The console that the program has by default prints lines. -/
theorem Console.standard_printsLines : Console.standard.PrintsLines where
  front s t h := by simp [Console.standard, printed, plain_append h]
  empty := rfl
  line t h := ⟨plain t, fun hm => h (mem_of_mem_plainFrom hm), rfl⟩

/-- What a console shows of a line, without the break at the end. -/
def Console.shown (console : Console) (t : Text) : Text := (console.print t).dropLast

/-- A line is printed as what is shown of it and a break. -/
theorem Console.PrintsLines.print_eq {console : Console} (h : console.PrintsLines) {t : Text}
    (ht : '\n' ∉ t) : '\n' ∉ console.shown t ∧ console.print t = console.shown t ++ ['\n'] := by
  obtain ⟨shown, hs, he⟩ := h.line t ht
  rw [Console.shown, he, List.dropLast_concat]
  exact ⟨hs, rfl⟩

/-- What follows the verb in the line of a move. -/
def moveTail (board : Board) (move : Placement) : Text :=
  let columnTitle (id : Text) := (board.columnTitle? id).getD id
  " '".toList ++ (board.cardTitle? move.card).getD move.card ++ "': ".toList ++
    columnTitle move.source ++ " -> ".toList ++ columnTitle (move.target.getD [])

/-- Boards with the same titles have the same records of a plan. -/
theorem planRecord_congr {b b' : Board} (h : b'.cardTitle? = b.cardTitle?) (today : Date)
    (plan : Plan) : planRecord today b' plan = planRecord today b plan := by
  have hp : placementRecord b' = placementRecord b := by
    funext p
    rw [placementRecord, placementRecord, h]
  rw [planRecord, planRecord, hp]

/-- Boards with the same titles have the same lines of moves. -/
theorem moveTail_congr {b b' : Board} (hcard : b'.cardTitle? = b.cardTitle?)
    (hcolumn : b'.columnTitle? = b.columnTitle?) : moveTail b' = moveTail b := by
  funext move
  rw [moveTail, moveTail, hcard, hcolumn]

/-- The line of a move begins with the verb. -/
theorem moveLine_eq (verb : Text) (board : Board) (move : Placement) :
    moveLine verb board move = verb ++ moveTail board move := by
  simp only [moveLine, moveTail, List.append_assoc]

/-- The lines of moves are printed with the verb as it is. -/
theorem Console.PrintsLines.printLines_moveLines {console : Console} (h : console.PrintsLines)
    {verb : Text} (hv : '\x1b' ∉ verb) {board : Board} {moves : List Placement}
    (hm : ∀ move ∈ moves, '\n' ∉ moveTail board move) :
    printLines console.print (moves.map (moveLine verb board)) =
      (moves.map fun move => console.shown (moveTail board move)).flatMap fun tail =>
        verb ++ tail ++ ['\n'] := by
  unfold printLines
  rw [List.flatMap_map, List.flatMap_map]
  refine List.flatMap_congr (fun move hmove => ?_)
  rw [moveLine_eq, h.front _ _ hv, (h.print_eq (hm move hmove)).2, List.append_assoc]

/-- On a board that was read, the line of a move that sorts it is a line. -/
theorem isLine_moveTail {t : Text} {today : Date} {select : TextSelector} {plan : Plan}
    (hs : (read t).board.sort today select = .ok plan) {move : Placement}
    (hm : move ∈ plan.moves) : IsLine (moveTail (read t).board move) := by
  have hw := isWritable_read t
  have hcolumn {id : Text} (hid : id ∈ (read t).board.columnIds) :
      IsLine (((read t).board.columnTitle? id).getD id) := by
    obtain ⟨shown, hc, ht⟩ := Board.exists_columnTitle? hid
    rw [ht]
    exact (hw.columns shown hc).title.line
  obtain ⟨card, hcard, hid, hsource, target, htarget, ht⟩ := Board.move_of_sort hs hm
  have hcardTitle : IsLine (((read t).board.cardTitle? move.card).getD move.card) := by
    obtain ⟨shown, hc, hshown⟩ := Board.exists_cardTitle? hcard
    obtain ⟨column, hcolumn, hmem⟩ := List.mem_flatMap.mp hc
    rw [hid, hshown]
    exact ((hw.columns column hcolumn).cards shown hmem).title.line
  unfold moveTail
  rw [ht]
  simp only [isLine_append, Option.getD_some]
  exact ⟨⟨⟨⟨⟨by simp [IsLine], hcardTitle⟩, by simp [IsLine]⟩, hcolumn hsource⟩,
    by simp [IsLine]⟩, hcolumn htarget⟩

end GatherBoard.Command
