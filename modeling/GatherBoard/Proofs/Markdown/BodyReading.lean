import GatherBoard.Proofs.Markdown.Agreement
import GatherBoard.Proofs.Markdown.WrittenLines

/-!
# Reading the body of a written board

The lines between front matter and footer are read as the title, the columns
and the cards that they were written from. The indentation keeps every line
of a description from being read as anything else, whatever stands in it.
-/

namespace GatherBoard.Markdown

open Text

/-- A description as it is read back: no line is indented and the end is not
blank. -/
def dedent (description : Text) : Text :=
  trimEnd (unlines ((description.splitOn '\n').map trimStart))

/-- What is read of a card that was written. -/
def cardContent (c : Card) : Text × Text := (trim (boxedTitle c), dedent c.description)

/-- What is read of a column that was written. -/
def columnContent (c : Column) : Text × List (Text × Text) := (c.title, c.cards.map cardContent)

/-- A line of a description is plain. -/
theorem ofLine_noteLines (description : Text) (titled : Bool) :
    ∀ l ∈ noteLines description, Mark.ofLine titled l = .plain l :=
  forall_noteLines fun _ _ => ofLine_eq_plain (by simp) titled

/-- Reading the lines of a description gives the description without its
indentation. -/
theorem describe_noteLines (description : Text) : describe (noteLines description) = dedent description := by
  unfold noteLines
  split
  · next h =>
    -- a blank description has blank lines only
    have hb : AllBlank description := trim_eq_nil_iff.mp (List.isEmpty_iff.mp h)
    have hs : ∀ l ∈ description.splitOn '\n', AllBlank l :=
      fun l hl c hc => hb c ((mem_splitOn hl).1.subset hc)
    exact (describe_append_blanks [] hs).symm
  · unfold describe dedent
    rw [List.map_map]
    rfl

/-- The head of a trimmed line is the head of the line. -/
theorem mem_head?_of_mem_head?_trimEnd {l : Text} {c : Char} (h : c ∈ (trimEnd l).head?) :
    c ∈ l.head? := by
  obtain ⟨w, -, hl⟩ := exists_trimEnd_append l
  cases ht : trimEnd l with
  | nil => simp [ht] at h
  | cons d rest =>
    rw [ht] at h hl
    rw [hl]
    simpa using h

/-- A line that starts with no mark keeps being plain. -/
theorem keepsMark_of_head {l : Text} (h : ∀ c ∈ l.head?, c ≠ '#' ∧ c ≠ '-') : KeepsMark l :=
  .plain (ofLine_eq_plain h)
    (ofLine_eq_plain (fun c hc => h c (mem_head?_of_mem_head?_trimEnd hc)))

/-- The line of a card keeps its mark, even if the title is empty. -/
theorem keepsMark_cardLine (c : Card) : KeepsMark (cardLine c) := by
  have hb : ¬ AllBlank (boxedTitle c) := not_allBlank_cons (by decide) _
  have ht : trimEnd (cardLine c) = itemMark ++ trimEnd (boxedTitle c) :=
    trimEnd_append_of_not_allBlank _ hb
  refine .item (fun titled => ofLine_itemMark _ titled) (fun titled => ?_)
  rw [ht]
  exact ofLine_itemMark _ titled

/-- Each line of a card keeps its mark. -/
theorem keepsMark_cardLines (c : Card) : ∀ l ∈ cardLines c, KeepsMark l :=
  forall_cardLines (keepsMark_cardLine c) fun _ _ => keepsMark_of_head (by simp)

/-- The empty line keeps its mark. -/
theorem keepsMark_nil : KeepsMark [] := .trimmed rfl

/-- A title that is not empty keeps its line as it is. -/
theorem IsTitle.keepsMark {t : Text} (h : IsTitle t) (hne : t ≠ []) (mark : Text) :
    KeepsMark (mark ++ t) := .trimmed (h.trimmed.trimEnd_append hne mark)

/-- The cards of a column with the empty line keep their marks. -/
theorem keepsMark_belowHeading (c : Column) :
    ∀ l ∈ c.cards.flatMap cardLines ++ [[]], KeepsMark l :=
  forall_belowHeading (fun card _ => keepsMark_cardLines card) keepsMark_nil

/-- A heading is not blank. -/
theorem not_allBlank_headingLine (c : Column) : ¬ AllBlank (headingLine c) :=
  not_allBlank_cons (by decide) _

/-- The line of a card is not blank. -/
theorem not_allBlank_cardLine (c : Card) : ¬ AllBlank (cardLine c) :=
  not_allBlank_cons (by decide) _

/-- The end of a column is kept unless the column is an empty heading. -/
theorem IsWritableColumn.endKept {c : Column} (h : IsWritableColumn c)
    (hne : c.title ≠ [] ∨ c.cards ≠ []) : EndKept (columnLines c) ∧ trimLines (columnLines c) ≠ [] := by
  have hn : trimLines (columnLines c) ≠ [] := by
    rw [Ne, trimLines_eq_nil_iff]
    exact fun ha => not_allBlank_headingLine c (ha _ List.mem_cons_self)
  refine ⟨?_, hn⟩
  by_cases ht : c.title = []
  · have hc : trimLines (c.cards.flatMap cardLines ++ [[]]) ≠ [] := by
      obtain ⟨card, more, hcards⟩ := List.exists_cons_of_ne_nil (hne.resolve_left (absurd ht))
      rw [Ne, trimLines_eq_nil_iff]
      exact fun ha => not_allBlank_cardLine card (ha _ (by simp [hcards, cardLines]))
    exact (endKept_of_forall (keepsMark_belowHeading c)).append hc [headingLine c]
  · exact endKept_of_forall (List.forall_mem_cons.mpr
      ⟨h.title.keepsMark ht headingMark, keepsMark_belowHeading c⟩)

/-- The end of the file keeps its marks when it is trimmed: there is a footer, or
else the last column, if there is one, has a title or a card. -/
def KeepsEnd (b : Board) : Prop :=
  b.footer = none → ∀ last, b.columns.getLast? = some last → last.title ≠ [] ∨ last.cards ≠ []

/-- The lines before the columns keep their marks. -/
theorem IsWritable.keepsMark_start {b : Board} (h : IsWritable b) :
    ∀ l ∈ gapLines b ++ titleLines b, KeepsMark l :=
  forall_aboveColumns (fun ht => h.title.keepsMark ht titleMark) keepsMark_nil

/-- The end of a body is kept unless its last column is an empty heading. -/
theorem IsWritable.endKept {b : Board} (h : IsWritable b) (he : KeepsEnd b)
    (hf : b.footer = none) : EndKept (bodyLines b) := by
  rcases List.eq_nil_or_concat b.columns with hc | ⟨before, c, hc⟩
  · rw [bodyLines, hc, List.flatMap_nil, List.append_nil]
    exact endKept_of_forall h.keepsMark_start
  · have hw := h.columns c (by simp [hc])
    obtain ⟨hk, hn⟩ := hw.endKept (he hf c (by simp [hc]))
    have hb : bodyLines b =
        (gapLines b ++ titleLines b ++ before.flatMap columnLines) ++ columnLines c := by
      simp [bodyLines, hc]
    rw [hb]
    exact hk.append hn _

/-- Lines that start no title have the same marks before and after one. -/
theorem marks_eq_map {ls : List Text} (h : ∀ l ∈ ls, titleMark.isPrefixOf l = false)
    (titled : Bool) : marks titled ls = ls.map (Mark.ofLine true) := by
  induction ls generalizing titled with
  | nil => rfl
  | cons l ls ih =>
    have hl : titleMark.isPrefixOf? l = none :=
      isPrefixOf_eq_false_iff.mp (h l List.mem_cons_self)
    have hm : Mark.ofLine titled l = Mark.ofLine true l := by
      cases titled
      · simp [Mark.ofLine, hl]
      · rfl
    rw [marks, List.map_cons, ih (fun m hm => h m (List.mem_cons_of_mem _ hm)), hm]

/-- The lines of a column start no title. -/
theorem isPrefixOf_titleMark_columnLines (c : Column) :
    ∀ l ∈ columnLines c, titleMark.isPrefixOf l = false :=
  forall_columnLines rfl (fun _ _ => forall_cardLines rfl fun _ _ => rfl) rfl

/-- The outline of some lines of columns put above an outline. -/
def outlineAbove (ls : List Text) (o : Outline) : Outline :=
  (ls.map (Mark.ofLine true)).foldr Outline.addAbove o

/-- Lines above lines are put above one after the other. -/
theorem outlineAbove_append (xs ys : List Text) (o : Outline) :
    outlineAbove (xs ++ ys) o = outlineAbove xs (outlineAbove ys o) := by
  simp [outlineAbove]

/-- Plain lines become text at the top. -/
theorem outlineAbove_plain {ls : List Text} (h : ∀ l ∈ ls, Mark.ofLine true l = .plain l)
    (o : Outline) : outlineAbove ls o = { o with notes := ls ++ o.notes } := by
  induction ls with
  | nil => rfl
  | cons l ls ih =>
    have hi := ih (fun m hm => h m (List.mem_cons_of_mem _ hm))
    unfold outlineAbove at hi ⊢
    rw [List.map_cons, List.foldr_cons, hi, h l List.mem_cons_self]
    rfl

/-- A card becomes an item with its description and the text below. -/
theorem outlineAbove_cardLines (c : Card) (o : Outline) :
    outlineAbove (cardLines c) o =
      { o with notes := [], items := ⟨cardLine c, noteLines c.description ++ o.notes⟩ :: o.items } := by
  have hn := outlineAbove_plain (ofLine_noteLines c.description true) o
  unfold outlineAbove at hn ⊢
  rw [cardLines, List.map_cons, List.foldr_cons, hn, cardLine, ofLine_itemMark]
  rfl

/-- Cards above blank text are read as they were written. -/
theorem outlineAbove_cards (cards : List Card) {o : Outline} (ho : ∀ l ∈ o.notes, AllBlank l) :
    (outlineAbove (cards.flatMap cardLines) o).items.map Item.content =
        cards.map cardContent ++ o.items.map Item.content ∧
      (outlineAbove (cards.flatMap cardLines) o).sections = o.sections ∧
      ∀ l ∈ (outlineAbove (cards.flatMap cardLines) o).notes, AllBlank l := by
  induction cards with
  | nil => exact ⟨rfl, rfl, ho⟩
  | cons c cards ih =>
    obtain ⟨hi, hs, hn⟩ := ih
    rw [List.flatMap_cons, outlineAbove_append, outlineAbove_cardLines]
    refine ⟨?_, hs, by simp⟩
    have hc : Item.content ⟨cardLine c, noteLines c.description ++
        (outlineAbove (cards.flatMap cardLines) o).notes⟩ = cardContent c := by
      unfold Item.content cardContent
      rw [describe_append_blanks _ hn, describe_noteLines]
      rfl
    simp only [List.map_cons, hc, hi, List.cons_append]

/-- A column above blank text is read as it was written. -/
theorem outlineAbove_columnLines {c : Column} (h : IsTrimmed c.title) {o : Outline}
    (hn : ∀ l ∈ o.notes, AllBlank l) (hi : o.items = []) :
    (outlineAbove (columnLines c) o).sections.map Section.content =
        columnContent c :: o.sections.map Section.content ∧
      (outlineAbove (columnLines c) o).items = [] ∧
      (outlineAbove (columnLines c) o).notes = [] := by
  have hg : outlineAbove [[]] o = { o with notes := [] :: o.notes } :=
    outlineAbove_plain (by simp [ofLine_of_allBlank allBlank_nil]) o
  have hb : ∀ l ∈ (outlineAbove [[]] o).notes, AllBlank l := by
    rw [hg]
    simpa [allBlank_nil] using hn
  have hh : Mark.ofLine true (headingLine c) = .heading c.title := by
    rw [headingLine, ofLine_headingMark, h]
  have hc : outlineAbove (columnLines c) o = Outline.addAbove (.heading c.title)
      (outlineAbove (c.cards.flatMap cardLines) (outlineAbove [[]] o)) := by
    rw [columnLines, ← outlineAbove_append, ← hh]
    rfl
  obtain ⟨hi', hs', -⟩ := outlineAbove_cards c.cards hb
  rw [hg, hi, List.map_nil, List.append_nil] at hi'
  rw [hg, hi] at hs'
  rw [hc, hg, hi]
  refine ⟨?_, rfl, rfl⟩
  simp only [Outline.addAbove, List.map_cons, Section.content, columnContent, hi', hs']

/-- Columns are read as they were written. -/
theorem outlineAbove_columns {cs : List Column} (h : ∀ c ∈ cs, IsTrimmed c.title) (o : Outline)
    (hn : ∀ l ∈ o.notes, AllBlank l) (hi : o.items = []) :
    (outlineAbove (cs.flatMap columnLines) o).sections.map Section.content =
        cs.map columnContent ++ o.sections.map Section.content ∧
      (outlineAbove (cs.flatMap columnLines) o).items = [] ∧
      ∀ l ∈ (outlineAbove (cs.flatMap columnLines) o).notes, AllBlank l := by
  induction cs with
  | nil => exact ⟨rfl, hi, hn⟩
  | cons c cs ih =>
    obtain ⟨hs, hi, hn⟩ := ih (fun d hd => h d (List.mem_cons_of_mem _ hd))
    obtain ⟨hs', hi', hn'⟩ := outlineAbove_columnLines (h c List.mem_cons_self) hn hi
    rw [List.flatMap_cons, outlineAbove_append]
    refine ⟨?_, hi', by simp [hn']⟩
    rw [hs', hs, List.map_cons, List.cons_append]

/-- Once the title is known no line is a title any more. -/
theorem titleOf_titled (ls : List Text) : titleOf (ls.map (Mark.ofLine true)) = [] := by
  induction ls with
  | nil => rfl
  | cons l ls ih =>
    rw [List.map_cons, titleOf_cons, ih]
    unfold Mark.ofLine
    cases headingMark.isPrefixOf? l with
    | some rest => rfl
    | none => cases itemMark.isPrefixOf l <;> rfl

/-- The title and the lines after it are read one by one. -/
theorem IsWritable.read_titleLines {b : Board} (h : IsWritable b) {tail : List Text}
    (ht : ∀ l ∈ tail, titleMark.isPrefixOf l = false) :
    titleOf (marks false (titleLines b ++ tail)) = b.title ∧
      (Outline.ofMarks (marks false (titleLines b ++ tail))).sections =
        (outlineAbove tail ⟨[], [], []⟩).sections := by
  unfold titleLines
  by_cases hb : b.title.isEmpty = true
  · rw [if_pos hb, List.nil_append, marks_eq_map ht, titleOf_titled]
    exact ⟨(List.isEmpty_iff.mp hb).symm, rfl⟩
  · have hm : Mark.ofLine false (titleMark ++ b.title) = .title b.title := by
      have he : trim b.title = b.title := h.title.trimmed
      simp [Mark.ofLine, List.isPrefixOf?, titleMark, he]
    have hs : marks false ((titleMark ++ b.title) :: [] :: tail) =
        .title b.title :: .plain [] :: tail.map (Mark.ofLine true) := by
      rw [marks, hm, marks, ofLine_of_allBlank allBlank_nil, marks_eq_map ht]
    rw [if_neg hb, List.cons_append, List.cons_append, List.nil_append, hs]
    refine ⟨?_, rfl⟩
    rw [titleOf_cons]
    exact if_neg hb

/-- Everything before the columns is read as the title, and the columns as
they stand. -/
theorem IsWritable.read_start {b : Board} (h : IsWritable b) {tail : List Text}
    (ht : ∀ l ∈ tail, titleMark.isPrefixOf l = false) :
    titleOf (marks false (gapLines b ++ (titleLines b ++ tail))) = b.title ∧
      (Outline.ofMarks (marks false (gapLines b ++ (titleLines b ++ tail)))).sections =
        (outlineAbove tail ⟨[], [], []⟩).sections := by
  obtain ⟨h1, h2⟩ := h.read_titleLines ht
  unfold gapLines
  split
  · exact ⟨h1, h2⟩
  · rw [List.singleton_append, marks, ofLine_of_allBlank allBlank_nil]
    refine ⟨?_, h2⟩
    rw [titleOf_cons]
    exact h1

/-- The body of a board is read as its title and its columns. -/
theorem IsWritable.read_body {b : Board} (h : IsWritable b) :
    titleOf (marks false (bodyLines b)) = b.title ∧
      (Outline.ofMarks (marks false (bodyLines b))).sections.map Section.content =
        b.columns.map columnContent := by
  have ht : ∀ l ∈ b.columns.flatMap columnLines, titleMark.isPrefixOf l = false :=
    List.forall_mem_flatMap.mpr (fun c _ => isPrefixOf_titleMark_columnLines c)
  obtain ⟨h1, h2⟩ := h.read_start ht
  obtain ⟨h3, -, -⟩ := outlineAbove_columns (fun c hc => (h.columns c hc).title.trimmed)
    ⟨[], [], []⟩ (by simp) rfl
  refine ⟨h1, ?_⟩
  rw [bodyLines, h2, h3, List.map_nil, List.append_nil]

end GatherBoard.Markdown
