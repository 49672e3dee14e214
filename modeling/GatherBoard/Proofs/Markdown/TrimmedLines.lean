import GatherBoard.Markdown.Writer
import GatherBoard.Proofs.Text.LineBreaks
import GatherBoard.Proofs.Text.Trimming

/-!
# Lists of lines in a file

A file is written line by line, each with its break. Cut into lines again it
gives these lines and what stands after the last break. Trimming the end of a
file takes off the blank lines at the end and trims the last other line.
-/

namespace GatherBoard.Markdown

open Text

/-- A line break is white space. -/
theorem isBlank_newline : isBlank '\n' = true := by decide

/-- A line with its break is blank if the line is. -/
theorem allBlank_line {t : Text} : AllBlank (line t) ↔ AllBlank t := by
  simp [line, allBlank_append, allBlank_cons, allBlank_nil, isBlank_newline]

/-- The break of a line is lost when its end is trimmed. -/
theorem trimEnd_line (t : Text) : trimEnd (line t) = trimEnd t := by
  have hn : AllBlank ['\n'] := by simp [allBlank_cons, allBlank_nil, isBlank_newline]
  rw [line, trimEnd_append_of_allBlank t hn]

/-- Written lines are blank if all of them are. -/
theorem allBlank_flatMap_line {ls : List Text} :
    AllBlank (ls.flatMap line) ↔ ∀ l ∈ ls, AllBlank l := by
  induction ls with
  | nil => simp [allBlank_nil]
  | cons l ls ih => simp [allBlank_append, allBlank_line, ih]

/-- Lines with their breaks are the joined lines and one more break. -/
theorem flatMap_line_eq {ls : List Text} (h : ls ≠ []) : ls.flatMap line = line (unlines ls) := by
  induction ls with
  | nil => exact absurd rfl h
  | cons l ls ih =>
    by_cases hn : ls = []
    · simp [hn]
    · rw [List.flatMap_cons, ih hn, unlines_cons l hn]
      simp [line]

/-- Joined with an empty line at the end, lines end in a break. -/
theorem unlines_append_nil {ls : List Text} (h : ls ≠ []) :
    unlines (ls ++ [[]]) = line (unlines ls) := by
  induction ls with
  | nil => exact absurd rfl h
  | cons l ls ih =>
    by_cases hn : ls = []
    · simp [hn, unlines_cons, line]
    · rw [List.cons_append, unlines_cons l (by simp), ih hn, unlines_cons l hn]
      simp [line]

/-- Written lines are read back, with what comes after them. -/
theorem lines_flatMap_line_append {ls : List Text} {t : Text} (h : ∀ l ∈ ls, IsLine l)
    (ht : '\r' ∉ t) : lines (ls.flatMap line ++ t) = ls ++ t.splitOn '\n' := by
  have hr : '\r' ∉ ls.flatMap line ++ t := by
    simp only [List.mem_append, List.mem_flatMap, line, not_or, not_exists, not_and]
    refine ⟨fun l hl => ⟨(h l hl).2, by decide⟩, ht⟩
  rw [lines, unifyBreaks_eq_self hr]
  clear hr
  induction ls with
  | nil => rfl
  | cons l ls ih =>
    have hl := (h l List.mem_cons_self).1
    have hi := ih (fun m hm => h m (List.mem_cons_of_mem _ hm))
    rw [List.flatMap_cons, line, List.append_assoc, List.append_assoc, List.singleton_append,
      List.splitOn_append_cons_self_of_not_mem hl, hi, List.cons_append]

/-- What is left of some lines when blank lines are taken off the end and the
last other line is trimmed at its end. -/
def trimLines : List Text → List Text
  | [] => []
  | l :: ls =>
    if (trimLines ls).isEmpty then (if (trimEnd l).isEmpty then [] else [trimEnd l])
    else l :: trimLines ls

/-- Before lines that leave something a line stays as it is. -/
theorem trimLines_cons_of_ne_nil {ls : List Text} (l : Text) (h : trimLines ls ≠ []) :
    trimLines (l :: ls) = l :: trimLines ls := by
  rw [trimLines, if_neg (by simpa using h)]

/-- Before lines that leave nothing a line is trimmed. -/
theorem trimLines_cons_of_eq_nil {ls : List Text} {l : Text} (h : trimLines ls = [])
    (hl : ¬ AllBlank l) : trimLines (l :: ls) = [trimEnd l] := by
  have hn : ¬ (trimEnd l).isEmpty = true := by
    rwa [List.isEmpty_iff, trimEnd_eq_nil_iff]
  rw [trimLines, h, List.isEmpty_nil, if_pos rfl, if_neg hn]

/-- Before lines that leave nothing a blank line is lost. -/
theorem trimLines_cons_of_allBlank {ls : List Text} {l : Text} (h : trimLines ls = [])
    (hl : AllBlank l) : trimLines (l :: ls) = [] := by
  have he : (trimEnd l).isEmpty = true := by
    rwa [List.isEmpty_iff, trimEnd_eq_nil_iff]
  rw [trimLines, h, List.isEmpty_nil, if_pos rfl, if_pos he]

/-- Nothing is left of blank lines only. -/
theorem trimLines_eq_nil_iff {ls : List Text} : trimLines ls = [] ↔ ∀ l ∈ ls, AllBlank l := by
  induction ls with
  | nil => simp [trimLines]
  | cons l ls ih =>
    by_cases h : trimLines ls = []
    · by_cases hl : AllBlank l
      · rw [trimLines_cons_of_allBlank h hl]
        simpa [hl] using ih.mp h
      · rw [trimLines_cons_of_eq_nil h hl]
        simp [hl]
    · rw [trimLines_cons_of_ne_nil l h]
      have hs : ¬ ∀ m ∈ ls, AllBlank m := fun hm => h (ih.mpr hm)
      simp only [List.cons_ne_nil, false_iff]
      exact fun hm => hs (fun m hm' => hm m (List.mem_cons_of_mem _ hm'))

/-- Trimming a file at its end is trimming its lines. -/
theorem trimEnd_flatMap_line (ls : List Text) :
    trimEnd (ls.flatMap line) = unlines (trimLines ls) := by
  induction ls with
  | nil => rfl
  | cons l ls ih =>
    rw [List.flatMap_cons]
    by_cases h : trimLines ls = []
    · have hb : AllBlank (ls.flatMap line) := allBlank_flatMap_line.mpr (trimLines_eq_nil_iff.mp h)
      rw [trimEnd_append_of_allBlank _ hb, trimEnd_line]
      by_cases hl : AllBlank l
      · rw [trimLines_cons_of_allBlank h hl, trimEnd_eq_nil_iff.mpr hl, unlines_nil]
      · rw [trimLines_cons_of_eq_nil h hl, unlines_singleton]
    · have hb : ¬ AllBlank (ls.flatMap line) := fun hb =>
        h (trimLines_eq_nil_iff.mpr (allBlank_flatMap_line.mp hb))
      rw [trimEnd_append_of_not_allBlank _ hb, ih, trimLines_cons_of_ne_nil l h, unlines_cons l h,
        line, List.append_assoc, List.singleton_append]

/-- Lines before others that leave something stay as they are. -/
theorem trimLines_append_of_ne_nil (xs : List Text) {ys : List Text} (h : trimLines ys ≠ []) :
    trimLines (xs ++ ys) = xs ++ trimLines ys := by
  induction xs with
  | nil => rfl
  | cons x xs ih =>
    have hn : trimLines (xs ++ ys) ≠ [] := by
      rw [ih]
      simp [h]
    rw [List.cons_append, trimLines_cons_of_ne_nil x hn, ih, List.cons_append]

/-- Blank lines at the end are lost. -/
theorem trimLines_append_of_eq_nil (xs : List Text) {ys : List Text} (h : trimLines ys = []) :
    trimLines (xs ++ ys) = trimLines xs := by
  induction xs with
  | nil => exact h
  | cons x xs ih => rw [List.cons_append, trimLines, trimLines, ih]

/-- Every line that is left is a line of before or one of them trimmed. -/
theorem mem_trimLines {ls : List Text} {l : Text} (h : l ∈ trimLines ls) :
    ∃ m ∈ ls, l = m ∨ l = trimEnd m := by
  induction ls with
  | nil => simp [trimLines] at h
  | cons m ls ih =>
    by_cases hn : trimLines ls = []
    · by_cases hm : AllBlank m
      · simp [trimLines_cons_of_allBlank hn hm] at h
      · rw [trimLines_cons_of_eq_nil hn hm, List.mem_singleton] at h
        exact ⟨m, List.mem_cons_self, Or.inr h⟩
    · rw [trimLines_cons_of_ne_nil m hn, List.mem_cons] at h
      rcases h with rfl | h
      · exact ⟨l, List.mem_cons_self, Or.inl rfl⟩
      · obtain ⟨k, hk, hl⟩ := ih h
        exact ⟨k, List.mem_cons_of_mem _ hk, hl⟩

/-- Trimming lines leaves lines. -/
theorem isLine_of_mem_trimLines {ls : List Text} (hls : ∀ l ∈ ls, IsLine l) {l : Text}
    (h : l ∈ trimLines ls) : IsLine l := by
  obtain ⟨m, hm, rfl | rfl⟩ := mem_trimLines h
  · exact hls l hm
  · obtain ⟨w, _, hw⟩ := exists_trimEnd_append m
    refine (hls m hm).of_subset (fun c hc => ?_)
    rw [hw]
    exact List.mem_append_left _ hc

end GatherBoard.Markdown
