import GatherBoard.Proofs.Markdown.WrittenLines

/-!
# The lines of a written file

A file with a footer has the lines of its board, less the empty one before
the footer, and then those of the footer. A file without one has the trimmed
lines of its board and ends in one break.
-/

namespace GatherBoard.Markdown

open Text

/-- A footer with a break at its end. -/
def storedFooter (footer : Text) : Text :=
  if ['\n'].isSuffixOf footer then footer else line footer

/-- A footer that is stored is stored as it is. -/
theorem isSuffixOf_storedFooter (footer : Text) : ['\n'].isSuffixOf (storedFooter footer) = true := by
  unfold storedFooter
  split
  · assumption
  · exact List.isSuffixOf_iff_suffix.mpr ⟨footer, rfl⟩

/-- Storing a footer adds no carriage return. -/
theorem cr_not_mem_storedFooter {footer : Text} (h : '\r' ∉ footer) :
    '\r' ∉ storedFooter footer := by
  unfold storedFooter
  split
  · exact h
  · simp [line, h]

/-- Before a footer the empty last line is left out. -/
theorem writeWithFooter_eq {ls : List Text} (hne : ls ≠ []) (footer : Text) :
    writeWithFooter ((ls ++ [[]]).flatMap line) footer = ls.flatMap line ++ storedFooter footer := by
  have hb : (ls ++ [[]]).flatMap line = ls.flatMap line ++ ['\n'] := by simp [line]
  have he : ['\n', '\n'].isSuffixOf ((ls ++ [[]]).flatMap line) = true := by
    rw [hb, flatMap_line_eq hne, line]
    exact List.isSuffixOf_iff_suffix.mpr ⟨unlines ls, by simp⟩
  rw [writeWithFooter, if_pos he, hb, List.dropLast_concat, storedFooter]

/-- A footer alone is all of its file. -/
theorem writeWithFooter_nil (footer : Text) : writeWithFooter [] footer = storedFooter footer := by
  have he : ['\n', '\n'].isSuffixOf [] = false := by decide
  rw [writeWithFooter, he, storedFooter]
  rfl

/-- The file of a board with a footer. -/
theorem write_of_footer {b : Board} {footer : Text} (hf : b.footer = some footer)
    (hne : footer ≠ []) : write b = writeWithFooter (writeBody b) footer := by
  have he : footer.isEmpty = false := List.isEmpty_eq_false_iff.mpr hne
  simp only [write, hf, Option.filter, he, Bool.not_false, ↓reduceIte]

/-- A footer has at least its mark. -/
theorem IsWritable.footer_ne_nil {b : Board} (h : IsWritable b) {footer : Text}
    (hf : b.footer = some footer) : footer ≠ [] := by
  rintro rfl
  have hs := (h.footer [] hf).1
  simp [footerMark] at hs

/-- A file with a footer is written line by line, then the footer. -/
theorem IsWritable.write_eq_of_footer {b : Board} (h : IsWritable b) {footer : Text}
    (hf : b.footer = some footer) :
    write b = (frontLines b ++ (bodyLines b).dropLast).flatMap line ++ storedFooter footer := by
  rw [write_of_footer hf (h.footer_ne_nil hf), writeBody_eq]
  rcases exists_written_eq b with ⟨hn, hb⟩ | ⟨ls, hne, hb⟩
  · simp [hn, hb, writeWithFooter_nil]
  · rw [hb, ← List.append_assoc, writeWithFooter_eq hne, List.dropLast_concat]

/-- A file without a footer has the trimmed lines of its board. -/
theorem write_eq_of_no_footer {b : Board} (hf : b.footer = none) :
    write b = line (unlines (trimLines (frontLines b ++ bodyLines b))) := by
  rw [write, hf, Option.filter_none, writeBody_eq, trimEnd_flatMap_line]

/-- The lines of a file with a footer. -/
theorem lines_write_of_footer {b : Board} (h : IsWritable b) {footer : Text}
    (hf : b.footer = some footer) :
    lines (write b) =
      frontLines b ++ (bodyLines b).dropLast ++ (storedFooter footer).splitOn '\n' := by
  have hl : ∀ l ∈ frontLines b ++ (bodyLines b).dropLast, IsLine l := by
    intro l hl
    rcases List.mem_append.mp hl with hl | hl
    · exact h.isLine_front l hl
    · exact h.isLine_body l ((List.dropLast_sublist _).subset hl)
  rw [h.write_eq_of_footer hf]
  exact lines_flatMap_line_append hl (cr_not_mem_storedFooter (h.footer footer hf).2)

/-- The lines of a file without a footer. -/
theorem lines_write_of_no_footer {b : Board} (h : IsWritable b) (hf : b.footer = none) :
    lines (write b) =
      (if (trimLines (frontLines b ++ bodyLines b)).isEmpty then [[]]
        else trimLines (frontLines b ++ bodyLines b)) ++ [[]] := by
  have hl : ∀ l ∈ trimLines (frontLines b ++ bodyLines b), IsLine l := by
    refine fun l hl => isLine_of_mem_trimLines (fun m hm => ?_) hl
    rcases List.mem_append.mp hm with hm | hm
    · exact h.isLine_front m hm
    · exact h.isLine_body m hm
  rw [write_eq_of_no_footer hf]
  by_cases hn : trimLines (frontLines b ++ bodyLines b) = []
  · have hs : lines ([[]].flatMap line ++ []) = [[]] ++ ([] : Text).splitOn '\n' :=
      lines_flatMap_line_append (by simp [isLine_nil]) (by simp)
    simpa [hn] using hs
  · have hs := lines_flatMap_line_append (t := []) hl (by simp)
    rw [List.append_nil, flatMap_line_eq hn, List.splitOn_nil] at hs
    rw [hs, if_neg (by simpa using hn)]

end GatherBoard.Markdown
