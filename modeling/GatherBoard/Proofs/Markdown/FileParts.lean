import GatherBoard.Proofs.Markdown.ReadBoards

/-!
# Where the parts of a file are

The lines of a file can be divided into front matter, body and footer in one way
only, and this is how they are cut. A board keeps front matter and footer as
texts: the first lines of the file and its last ones. They are written first and
last again.
-/

namespace GatherBoard.Markdown

open Text

variable {ls front body footer : List Text}

/-- Lines are cut where they can be divided. -/
theorem Divides.exists_ofLines_eq (h : Divides ls front body footer) :
    ∃ isOpen, Parts.ofLines ls = ⟨front, isOpen, body, footer⟩ := by
  obtain ⟨rfl, hfront, hb, hf⟩ := h
  rcases hfront with ⟨rfl, hh⟩ | ⟨first, inner, last, rfl, h1, h2, hi⟩ |
    ⟨⟨first, rest, rfl, h1, hr⟩, rfl, rfl⟩
  · rw [List.nil_append] at hh ⊢
    exact ⟨false, ofLines_of_head hh hb hf⟩
  · exact ⟨false, ofLines_closed h1 h2 hi hb hf⟩
  · refine ⟨true, ?_⟩
    rw [List.append_nil, List.append_nil]
    exact ofLines_open h1 hr

/-- There is one way to divide the lines of a file. -/
theorem divides_iff : Divides ls front body footer ↔ (Parts.ofLines ls).front = front ∧
    (Parts.ofLines ls).body = body ∧ (Parts.ofLines ls).footer = footer := by
  constructor
  · intro h
    obtain ⟨isOpen, he⟩ := h.exists_ofLines_eq
    rw [he]
    exact ⟨rfl, rfl, rfl⟩
  · rintro ⟨rfl, rfl, rfl⟩
    exact divides_ofLines ls

/-- A text of some first lines of another one. -/
def IsTop (s t : Text) : Prop := t = s ∨ ∃ rest, t = s ++ '\n' :: rest

/-- A text of some last lines of another one. -/
def IsBottom (s t : Text) : Prop := t = s ∨ ∃ before, t = before ++ '\n' :: s

/-- Between some lines and those below them there is a break. -/
theorem unlines_append {xs ys : List Text} (hx : xs ≠ []) (hy : ys ≠ []) :
    unlines (xs ++ ys) = unlines xs ++ '\n' :: unlines ys := by
  induction xs with
  | nil => exact absurd rfl hx
  | cons x xs ih =>
    by_cases hn : xs = []
    · rw [hn, List.singleton_append, unlines_cons x hy, unlines_singleton]
    · rw [List.cons_append, unlines_cons x (by simp [hn]), ih hn, unlines_cons x hn,
        List.append_assoc, List.cons_append]

/-- The text of the first lines is at the top. -/
theorem isTop_unlines {xs : List Text} (hx : xs ≠ []) (ys : List Text) :
    IsTop (unlines xs) (unlines (xs ++ ys)) := by
  by_cases hy : ys = []
  · exact Or.inl (by rw [hy, List.append_nil])
  · exact Or.inr ⟨_, unlines_append hx hy⟩

/-- The text of the last lines is at the bottom. -/
theorem isBottom_unlines (xs : List Text) {ys : List Text} (hy : ys ≠ []) :
    IsBottom (unlines ys) (unlines (xs ++ ys)) := by
  by_cases hx : xs = []
  · exact Or.inl (by rw [hx, List.nil_append])
  · exact Or.inr ⟨_, unlines_append hx hy⟩

/-- The block of front matter is at the top of its file. -/
theorem Divides.isTop {t s : Text} (h : Divides (Text.lines t) front body footer)
    (hs : block? front = some s) : IsTop s (unifyBreaks t) := by
  obtain ⟨hne, rfl⟩ := eq_unlines_of_block? hs
  rw [← unlines_splitOn (unifyBreaks t), ← Text.lines, ← h.lines]
  exact isTop_unlines hne _

/-- The block of the footer is at the bottom of its file. -/
theorem Divides.isBottom {t s : Text} (h : Divides (Text.lines t) front body footer)
    (hs : block? footer = some s) : IsBottom s (unifyBreaks t) := by
  obtain ⟨hne, rfl⟩ := eq_unlines_of_block? hs
  rw [← unlines_splitOn (unifyBreaks t), ← Text.lines, ← h.lines, ← List.append_assoc]
  exact isBottom_unlines _ hne

/-- A board has the front matter of its file as it stands there. -/
theorem Divides.header_eq {t : Text} (h : Divides (Text.lines t) front body footer) :
    (read t).board.header = block? front := by
  rw [← (divides_iff.mp h).1]
  rfl

/-- A board has the footer of its file as it stands there. -/
theorem Divides.footer_eq {t : Text} (h : Divides (Text.lines t) front body footer) :
    (read t).board.footer = block? footer := by
  rw [← (divides_iff.mp h).2.2]
  rfl

/-- Closed front matter is written first if anything comes after it. -/
theorem IsWritable.write_eq_of_header {b : Board} (h : IsWritable b) (hb : ¬ IsBare b)
    {header : Text} (hh : b.header = some header) : ∃ rest, write b = header ++ '\n' :: rest := by
  have hne : header.splitOn '\n' ≠ [] := List.splitOn_ne_nil '\n' header
  have hl := h.frontLines_eq hh
  cases hf : b.footer with
  | none =>
    -- the body is not blank, so that trimming the file does not reach the front matter
    have hn := trimLines_bodyLines_ne_nil hf hb
    rw [write_eq_of_no_footer hf, trimLines_append_of_ne_nil _ hn, hl, unlines_append hne hn,
      unlines_splitOn, line, List.append_assoc]
    exact ⟨_, rfl⟩
  | some footer =>
    rw [h.write_eq_of_footer hf, hl, List.flatMap_append, flatMap_line_eq hne, unlines_splitOn,
      line, List.append_assoc, List.append_assoc]
    exact ⟨_, rfl⟩

/-- A footer is written last, and begins a line. -/
theorem IsWritable.isBottom_write {b : Board} (h : IsWritable b) {footer : Text}
    (hf : b.footer = some footer) : IsBottom (storedFooter footer) (write b) := by
  rw [h.write_eq_of_footer hf]
  by_cases hn : frontLines b ++ (bodyLines b).dropLast = []
  · exact Or.inl (by rw [hn, List.flatMap_nil, List.nil_append])
  · right
    rw [flatMap_line_eq hn, line, List.append_assoc]
    exact ⟨_, rfl⟩

end GatherBoard.Markdown
