import GatherBoard.Proofs.Markdown.WrittenFile
import Mathlib.Data.List.TakeDrop

/-!
# Cutting a written file into its parts

The lines of a written board are cut at the same places at which they were put
together. No line of the body looks like a mark of front matter or footer, also
after trimming, since a mark at the start of a line is not made by trimming
its end.
-/

namespace GatherBoard.Markdown

open Text

/-- A line that is neither a mark of front matter nor one of the footer. -/
def IsInner (l : Text) : Prop := frontMark.isPrefixOf l = false ∧ footerMark.isPrefixOf l = false

/-- Lines that begin with the footer mark, unless there are none. -/
def StartsFooter (ls : List Text) : Prop := ∀ l ∈ ls.head?, footerMark.isPrefixOf l = true

/-- There may be no footer. -/
theorem startsFooter_nil : StartsFooter [] := by simp [StartsFooter]

/-- Trimming the end of a text gives it no new start. -/
theorem isPrefixOf_of_trimEnd {mark l : Text} (h : mark.isPrefixOf (trimEnd l) = true) :
    mark.isPrefixOf l = true := by
  obtain ⟨w, -, hw⟩ := exists_trimEnd_append l
  obtain ⟨rest, hr⟩ := List.isPrefixOf_iff_prefix.mp h
  refine List.isPrefixOf_iff_prefix.mpr ⟨rest ++ w, ?_⟩
  rw [← List.append_assoc, hr]
  exact hw.symm

/-- Trimming the end of a text keeps a start that has no blank end. -/
theorem isPrefixOf_trimEnd {mark l : Text} (hm : trimEnd mark = mark)
    (h : mark.isPrefixOf l = true) : mark.isPrefixOf (trimEnd l) = true := by
  obtain ⟨rest, rfl⟩ := List.isPrefixOf_iff_prefix.mp h
  by_cases hr : AllBlank rest
  · rw [trimEnd_append_of_allBlank mark hr, hm]
    exact List.isPrefixOf_iff_prefix.mpr ⟨[], List.append_nil mark⟩
  · rw [trimEnd_append_of_not_allBlank mark hr]
    exact List.isPrefixOf_iff_prefix.mpr ⟨trimEnd rest, rfl⟩

/-- A start that a text does not have does not come from trimming its end. -/
theorem isPrefixOf_trimEnd_eq_false {mark l : Text} (h : mark.isPrefixOf l = false) :
    mark.isPrefixOf (trimEnd l) = false := by
  by_contra hn
  have hs := isPrefixOf_of_trimEnd (by simpa using hn)
  rw [h] at hs
  cases hs

/-- An inner line stays one when its end is trimmed. -/
theorem IsInner.trimEnd {l : Text} (h : IsInner l) : IsInner (trimEnd l) :=
  ⟨isPrefixOf_trimEnd_eq_false h.1, isPrefixOf_trimEnd_eq_false h.2⟩

/-- The empty line is an inner one. -/
theorem isInner_nil : IsInner [] := ⟨rfl, rfl⟩

/-- Trimming inner lines leaves inner lines. -/
theorem isInner_of_mem_trimLines {ls : List Text} (h : ∀ l ∈ ls, IsInner l) {l : Text}
    (hl : l ∈ trimLines ls) : IsInner l := by
  obtain ⟨m, hm, rfl | rfl⟩ := mem_trimLines hl
  · exact h l hm
  · exact (h m hm).trimEnd

/-- The lines of a column are inner lines. -/
theorem isInner_columnLines (c : Column) : ∀ l ∈ columnLines c, IsInner l :=
  forall_columnLines ⟨rfl, rfl⟩ (fun _ _ => forall_cardLines ⟨rfl, rfl⟩ fun _ _ => ⟨rfl, rfl⟩)
    isInner_nil

/-- The lines between front matter and footer are inner lines. -/
theorem isInner_bodyLines (b : Board) : ∀ l ∈ bodyLines b, IsInner l :=
  forall_bodyLines (fun _ => ⟨rfl, rfl⟩) isInner_nil fun c _ => isInner_columnLines c

/-- A footer is cut off where it starts. -/
theorem cutFooter_append {body foot : List Text}
    (hb : ∀ l ∈ body, footerMark.isPrefixOf l = false) (hf : StartsFooter foot) :
    cutFooter (body ++ foot) = (body, foot) := by
  have hp : ∀ l ∈ body, (!footerMark.isPrefixOf l) = true := fun l hl => by simp [hb l hl]
  unfold cutFooter
  rw [List.span_eq_takeWhile_dropWhile, List.takeWhile_append_of_pos hp,
    List.dropWhile_append_of_pos hp]
  cases foot with
  | nil => simp
  | cons f foot =>
    have hs : footerMark.isPrefixOf f = true := hf f rfl
    simp [hs]

/-- A footer does not start with the mark of front matter. -/
theorem isPrefixOf_frontMark_of_footerMark {l : Text} (h : footerMark.isPrefixOf l = true) :
    frontMark.isPrefixOf l = false := by
  obtain ⟨rest, rfl⟩ := List.isPrefixOf_iff_prefix.mp h
  rfl

/-- A file whose first line is no mark of front matter has a body and a footer. -/
theorem ofLines_of_head {body foot : List Text}
    (hh : ∀ l ∈ (body ++ foot).head?, frontMark.isPrefixOf l = false)
    (hb : ∀ l ∈ body, footerMark.isPrefixOf l = false) (hf : StartsFooter foot) :
    Parts.ofLines (body ++ foot) = ⟨[], false, body, foot⟩ := by
  have hc := cutFooter_append hb hf
  cases hl : body ++ foot with
  | nil =>
    obtain ⟨rfl, rfl⟩ := List.append_eq_nil_iff.mp hl
    rfl
  | cons first rest =>
    rw [hl] at hc hh
    simp [Parts.ofLines, hh first rfl, hc]

/-- A file without front matter has a body and a footer. -/
theorem ofLines_body {body foot : List Text} (hb : ∀ l ∈ body, IsInner l)
    (hf : StartsFooter foot) : Parts.ofLines (body ++ foot) = ⟨[], false, body, foot⟩ := by
  refine ofLines_of_head (fun l hl => ?_) (fun l hl => (hb l hl).2) hf
  cases body with
  | nil => exact isPrefixOf_frontMark_of_footerMark (hf l hl)
  | cons top body =>
    have ht : top = l := Option.some.inj hl
    exact ht ▸ (hb top List.mem_cons_self).1

/-- Front matter ends at its second mark. -/
theorem closeFront?_append {inner : List Text} {last : Text}
    (hi : ∀ l ∈ inner, frontMark.isPrefixOf l = false) (hl : frontMark.isPrefixOf last = true)
    (rest : List Text) : closeFront? (inner ++ last :: rest) = some (inner ++ [last], rest) := by
  induction inner with
  | nil => simp [closeFront?, hl]
  | cons l inner ih =>
    have hs := hi l List.mem_cons_self
    have hr := ih (fun m hm => hi m (List.mem_cons_of_mem _ hm))
    simp [closeFront?, hs, hr]

/-- Without a second mark front matter has no end. -/
theorem closeFront?_eq_none {ls : List Text} (h : ∀ l ∈ ls, frontMark.isPrefixOf l = false) :
    closeFront? ls = none := by
  induction ls with
  | nil => rfl
  | cons l ls ih =>
    have hr := ih (fun m hm => h m (List.mem_cons_of_mem _ hm))
    simp [closeFront?, h l List.mem_cons_self, hr]

/-- A file with front matter that is closed has a body and a footer after it. -/
theorem ofLines_closed {first last : Text} {inner body foot : List Text}
    (h1 : frontMark.isPrefixOf first = true) (h2 : frontMark.isPrefixOf last = true)
    (hi : ∀ l ∈ inner, frontMark.isPrefixOf l = false)
    (hb : ∀ l ∈ body, footerMark.isPrefixOf l = false) (hf : StartsFooter foot) :
    Parts.ofLines (first :: (inner ++ [last]) ++ (body ++ foot)) =
      ⟨first :: (inner ++ [last]), false, body, foot⟩ := by
  have hc := closeFront?_append hi h2 (body ++ foot)
  have he : first :: (inner ++ [last]) ++ (body ++ foot) = first :: (inner ++ last :: (body ++ foot)) := by
    simp
  rw [he]
  simp only [Parts.ofLines, h1, ↓reduceIte, hc, cutFooter_append hb hf]

/-- A file with front matter that is not closed has nothing else. -/
theorem ofLines_open {first : Text} {rest : List Text} (h1 : frontMark.isPrefixOf first = true)
    (hr : ∀ l ∈ rest, frontMark.isPrefixOf l = false) :
    Parts.ofLines (first :: rest) = ⟨first :: rest, true, [], []⟩ := by
  simp [Parts.ofLines, h1, closeFront?_eq_none hr]

/-- The first line of a stored footer has its mark. -/
theorem startsFooter_storedFooter {footer : Text} (h : footerMark.isPrefixOf footer = true) :
    StartsFooter ((storedFooter footer).splitOn '\n') := by
  obtain ⟨rest, rfl⟩ := List.isPrefixOf_iff_prefix.mp h
  have hs : ∃ more, storedFooter (footerMark ++ rest) = footerMark ++ more := by
    unfold storedFooter
    split
    · exact ⟨rest, rfl⟩
    · exact ⟨rest ++ ['\n'], by rw [line, List.append_assoc]⟩
  obtain ⟨more, hm⟩ := hs
  intro l hl
  obtain ⟨piece, pieces, hp⟩ := List.exists_cons_of_ne_nil (List.splitOn_ne_nil '\n' more)
  have hc : (footerMark ++ more).splitOn '\n' = (footerMark ++ piece) :: pieces := by
    simp [footerMark, List.splitOn_cons_eq_if_modifyHead, hp]
  rw [hm, hc, List.head?_cons, Option.mem_some_iff] at hl
  rw [← hl]
  exact List.isPrefixOf_iff_prefix.mpr ⟨piece, rfl⟩

/-- A block of lines is read as the text of these lines. -/
theorem block?_of_ne_nil {ls : List Text} (h : ls ≠ []) : block? ls = some (unlines ls) := by
  rw [block?, if_neg (by simpa using h)]

/-- The lines of a text are read as the text. -/
theorem block?_splitOn (t : Text) : block? (t.splitOn '\n') = some t := by
  rw [block?_of_ne_nil (List.splitOn_ne_nil '\n' t), unlines_splitOn]

/-- The trimmed lines of a text are the text trimmed at its end. -/
theorem unlines_trimLines_splitOn (t : Text) : unlines (trimLines (t.splitOn '\n')) = trimEnd t := by
  rw [← trimEnd_flatMap_line, flatMap_line_eq (List.splitOn_ne_nil '\n' t), unlines_splitOn,
    trimEnd_line]

end GatherBoard.Markdown
