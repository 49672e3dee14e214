import GatherBoard.Proofs.Markdown.ReadBoards

/-!
# What is lost at the end of a file

Without a footer the end of a file is trimmed. If it ends in an empty heading,
the space of the heading's mark is lost and the heading is one no more. The
lines that start with two number signs are still as many as there were columns,
but one of them is read as text: the file changes when it is written again.
-/

namespace GatherBoard.Markdown

open Text

/-- The mark of a heading without its space. -/
def headingStart : Text := ['#', '#']

/-- The mark has no space to lose. -/
theorem trimEnd_headingStart : trimEnd headingStart = headingStart := by decide

/-- There is something to the mark. -/
theorem headingStart_ne_nil : headingStart ≠ [] := List.cons_ne_nil _ _

/-- Trimming the end of a text keeps its start. -/
theorem isPrefixOf_trimEnd_eq {mark : Text} (hm : trimEnd mark = mark) (l : Text) :
    mark.isPrefixOf (trimEnd l) = mark.isPrefixOf l := by
  rw [Bool.eq_iff_iff]
  exact ⟨isPrefixOf_of_trimEnd, isPrefixOf_trimEnd hm⟩

/-- A blank line starts with no mark. -/
theorem isPrefixOf_of_allBlank {mark l : Text} (hm : trimEnd mark = mark) (hne : mark ≠ [])
    (hl : AllBlank l) : mark.isPrefixOf l = false := by
  rw [← isPrefixOf_trimEnd_eq hm, trimEnd_eq_nil_iff.mpr hl]
  obtain ⟨c, rest, rfl⟩ := List.exists_cons_of_ne_nil hne
  rfl

/-- Trimmed lines have as many marks as the lines had. -/
theorem countP_trimLines {mark : Text} (hm : trimEnd mark = mark) (hne : mark ≠ [])
    (ls : List Text) : (trimLines ls).countP mark.isPrefixOf = ls.countP mark.isPrefixOf := by
  induction ls with
  | nil => rfl
  | cons l ls ih =>
    rw [List.countP_cons]
    by_cases hn : trimLines ls = []
    · rw [hn] at ih
      by_cases hl : AllBlank l
      · rw [trimLines_cons_of_allBlank hn hl, ← ih, isPrefixOf_of_allBlank hm hne hl]
        rfl
      · rw [trimLines_cons_of_eq_nil hn hl, List.countP_cons, isPrefixOf_trimEnd_eq hm, ← ih]
    · rw [trimLines_cons_of_ne_nil l hn, List.countP_cons, ih]

/-- There is a section for every line with the mark of a heading. -/
theorem length_sections (ls : List Text) (titled : Bool) :
    (Outline.ofMarks (marks titled ls)).sections.length = ls.countP headingMark.isPrefixOf := by
  induction ls generalizing titled with
  | nil => rfl
  | cons l ls ih =>
    have hi := ih (titled || (Mark.ofLine titled l).settlesTitle)
    have ho : Outline.ofMarks (marks titled (l :: ls)) = Outline.addAbove (Mark.ofLine titled l)
        (Outline.ofMarks (marks (titled || (Mark.ofLine titled l).settlesTitle) ls)) := rfl
    rw [List.countP_cons, ← hi, ho]
    by_cases hl : headingMark.isPrefixOf l = true
    · obtain ⟨rest, rfl⟩ := List.isPrefixOf_iff_prefix.mp hl
      rw [hl, ofLine_headingMark]
      rfl
    · have hn : headingMark.isPrefixOf? l = none :=
        isPrefixOf_eq_false_iff.mp (Bool.eq_false_iff.mpr hl)
      rw [if_neg hl, Nat.add_zero]
      unfold Mark.ofLine
      rw [hn]
      split
      · rfl
      · cases itemMark.isPrefixOf l <;> rfl

/-- A board that was read has a column for every heading of its file. -/
theorem length_columns_read (t : Text) : (read t).board.columns.length =
    (Parts.ofLines (lines t)).body.countP headingMark.isPrefixOf := by
  rw [← length_sections _ false]
  exact List.length_mapIdx

/-- A column is written with one heading. -/
theorem countP_columnLines (c : Column) : (columnLines c).countP headingStart.isPrefixOf = 1 := by
  have hc : (c.cards.flatMap cardLines ++ [[]]).countP headingStart.isPrefixOf = 0 := by
    rw [List.countP_eq_zero]
    exact forall_belowHeading
      (fun _ _ => forall_cardLines Bool.false_ne_true fun _ _ => Bool.false_ne_true)
      Bool.false_ne_true
  rw [columnLines, List.countP_cons, hc]
  rfl

/-- A board is written with one heading for every column. -/
theorem countP_bodyLines (b : Board) :
    (bodyLines b).countP headingStart.isPrefixOf = b.columns.length := by
  have hs : (gapLines b ++ titleLines b).countP headingStart.isPrefixOf = 0 := by
    rw [List.countP_eq_zero]
    exact forall_aboveColumns (fun _ => Bool.false_ne_true) Bool.false_ne_true
  have hc : (b.columns.flatMap columnLines).countP headingStart.isPrefixOf =
      b.columns.length := by
    have hf : List.countP headingStart.isPrefixOf ∘ columnLines = fun _ => 1 :=
      funext countP_columnLines
    rw [List.countP_flatMap, hf]
    simp
  rw [bodyLines, ← List.append_assoc, List.countP_append, hs, hc, Nat.zero_add]

/-- Also the file of a board without a footer has one such line for every column. -/
theorem IsWritable.countP_body {b : Board} (h : IsWritable b) (hf : b.footer = none) :
    (Parts.ofLines (lines (write b))).body.countP headingStart.isPrefixOf =
      b.columns.length := by
  by_cases hb : IsBare b
  · rw [hb.columns, List.length_nil, List.countP_eq_zero]
    intro l hl
    have hs := isPrefixOf_of_allBlank trimEnd_headingStart headingStart_ne_nil
      ((h.holds_of_bare hb).2 l hl)
    rw [hs]
    exact Bool.false_ne_true
  · have hn : [[]].countP headingStart.isPrefixOf = 0 := rfl
    rw [h.ofLines_write_of_no_footer hf hb, List.countP_append, hn, Nat.add_zero,
      countP_trimLines trimEnd_headingStart headingStart_ne_nil, countP_bodyLines]

/-- An empty heading at the end is trimmed. -/
theorem exists_trimLines_bodyLines {b : Board} {before : List Column} {last : Column}
    (hc : b.columns = before ++ [last]) (ht : last.title = []) (hn : last.cards = []) :
    ∃ ls, trimLines (bodyLines b) = ls ++ [headingStart] := by
  have hb : bodyLines b =
      (gapLines b ++ (titleLines b ++ before.flatMap columnLines)) ++ [headingMark, []] := by
    simp [bodyLines, hc, columnLines, headingLine, ht, hn]
  have hl : trimLines [headingMark, []] = [headingStart] := by decide
  have hne : trimLines [headingMark, []] ≠ [] := by simp [hl]
  have he := trimLines_append_of_ne_nil
    (gapLines b ++ (titleLines b ++ before.flatMap columnLines)) hne
  rw [hb, he, hl]
  exact ⟨_, rfl⟩

/-- A board whose end is not kept is read with one column less than it has. -/
theorem IsWritable.length_columns_lt {b : Board} (h : IsWritable b) (he : ¬ KeepsEnd b) :
    b.footer = none ∧ (read (write b)).board.columns.length < b.columns.length := by
  unfold KeepsEnd at he
  push Not at he
  obtain ⟨hf, last, hlast, ht, hn⟩ := he
  obtain ⟨before, hc⟩ := List.getLast?_eq_some_iff.mp hlast
  obtain ⟨ls, hls⟩ := exists_trimLines_bodyLines hc ht hn
  have hb : ¬ IsBare b := by
    intro hb
    rw [hb.columns] at hc
    simp at hc
  refine ⟨hf, ?_⟩
  have hm : ls.countP headingMark.isPrefixOf ≤ ls.countP headingStart.isPrefixOf := by
    refine List.countP_mono_left (fun l _ hl => ?_)
    obtain ⟨rest, rfl⟩ := List.isPrefixOf_iff_prefix.mp hl
    exact List.isPrefixOf_iff_prefix.mpr ⟨' ' :: rest, rfl⟩
  have hs : [headingStart, []].countP headingStart.isPrefixOf = 1 := by decide
  have hs' : [headingStart, []].countP headingMark.isPrefixOf = 0 := by decide
  have hbody : (Parts.ofLines (lines (write b))).body = ls ++ [headingStart, []] := by
    rw [h.ofLines_write_of_no_footer hf hb, hls, List.append_assoc]
    rfl
  rw [length_columns_read, ← h.countP_body hf, hbody, List.countP_append, List.countP_append,
    hs, hs']
  omega

/-- The file of a board whose end is not kept changes when it is read and written. -/
theorem IsWritable.write_ne {b : Board} (h : IsWritable b) (he : ¬ KeepsEnd b) :
    write (read (write b)).board ≠ write b := by
  intro hw
  obtain ⟨hf, hlt⟩ := h.length_columns_lt he
  have hf' : (read (write b)).board.footer = none := by
    have hb : ¬ IsBare b := fun hb => by simp [hb.columns] at hlt
    simp only [read, h.ofLines_write_of_no_footer hf hb]
    rfl
  have hc := (isWritable_read (write b)).countP_body hf'
  rw [hw, h.countP_body hf] at hc
  omega

end GatherBoard.Markdown
