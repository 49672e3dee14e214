import GatherBoard.Markdown.Reader
import GatherBoard.Proofs.Markdown.TrimmedLines

/-!
# The lines of a written board

Every part of a board is written as a list of lines. A file without a footer
consists of these lines trimmed at the end, one with a footer of all of them
but the empty last one and the lines of the footer.
-/

namespace GatherBoard.Markdown

open Text

/-- The text of an item after its mark. -/
def boxedTitle (c : Card) : Text := '[' :: (if c.done then 'x' else ' ') :: ']' :: ' ' :: c.title

/-- The line of a card. -/
def cardLine (c : Card) : Text := itemMark ++ boxedTitle c

/-- The indented lines of a description; a blank one has none. -/
def noteLines (description : Text) : List Text :=
  if (trim description).isEmpty then []
  else (description.splitOn '\n').map fun part => ' ' :: ' ' :: part

/-- A card with its description. -/
def cardLines (c : Card) : List Text := cardLine c :: noteLines c.description

/-- The heading of a column. -/
def headingLine (c : Column) : Text := headingMark ++ c.title

/-- A column with its cards and an empty line. -/
def columnLines (c : Column) : List Text := headingLine c :: (c.cards.flatMap cardLines ++ [[]])

/-- The title with an empty line, if there is one. -/
def titleLines (b : Board) : List Text := if b.title.isEmpty then [] else [titleMark ++ b.title, []]

/-- The front matter, if there is any. -/
def frontLines (b : Board) : List Text :=
  match b.header with
  | some header => if header.isEmpty then [] else header.splitOn '\n'
  | none => []

/-- The empty line after front matter. -/
def gapLines (b : Board) : List Text := if (frontLines b).isEmpty then [] else [[]]

/-- Everything between front matter and footer. -/
def bodyLines (b : Board) : List Text :=
  gapLines b ++ (titleLines b ++ b.columns.flatMap columnLines)

/-- A description is written in its indented lines. -/
theorem writeDescription_eq (description : Text) :
    writeDescription description = (noteLines description).flatMap line := by
  unfold writeDescription noteLines
  split
  · rfl
  · rw [List.flatMap_map]

/-- A card is written in its lines. -/
theorem writeCard_eq (c : Card) : writeCard c = (cardLines c).flatMap line := by
  rw [writeCard, writeDescription_eq, cardLines, List.flatMap_cons]
  rfl

/-- A column is written in its lines. -/
theorem writeColumn_eq (c : Column) : writeColumn c = (columnLines c).flatMap line := by
  have hc : c.cards.flatMap writeCard = (c.cards.flatMap cardLines).flatMap line := by
    rw [List.flatMap_assoc]
    exact congrArg (c.cards.flatMap ·) (funext writeCard_eq)
  rw [writeColumn, hc, columnLines, List.flatMap_cons, List.flatMap_append, List.append_assoc]
  rfl

/-- Front matter is written in its lines, with an empty one after them. -/
theorem writeHeader_eq (b : Board) :
    writeHeader b = (frontLines b ++ gapLines b).flatMap line := by
  unfold writeHeader gapLines frontLines
  cases b.header with
  | none => rfl
  | some header =>
    by_cases h : header.isEmpty = true
    · simp [h]
    · have hs := flatMap_line_eq (List.splitOn_ne_nil '\n' header)
      rw [unlines_splitOn] at hs
      simp [h, hs, line]

/-- A title is written in its lines. -/
theorem writeTitle_eq (b : Board) : writeTitle b = (titleLines b).flatMap line := by
  unfold writeTitle titleLines
  split
  · rfl
  · simp [line, titleMark]

/-- All but the footer of a board is written in lines. -/
theorem writeBody_eq (b : Board) : writeBody b = (frontLines b ++ bodyLines b).flatMap line := by
  have hc : b.columns.flatMap writeColumn = (b.columns.flatMap columnLines).flatMap line := by
    rw [List.flatMap_assoc]
    exact congrArg (b.columns.flatMap ·) (funext writeColumn_eq)
  simp only [writeBody, writeHeader_eq, writeTitle_eq, hc, bodyLines, List.flatMap_append,
    List.append_assoc]

/-- The lines of a column end in an empty one that is not alone. -/
theorem exists_columnLines_eq (c : Column) : ∃ ls, ls ≠ [] ∧ columnLines c = ls ++ [[]] :=
  ⟨headingLine c :: c.cards.flatMap cardLines, List.cons_ne_nil _ _, rfl⟩

/-- Unless there is nothing to write, the lines of a board end in an empty one
that is not alone. -/
theorem exists_written_eq (b : Board) :
    (frontLines b = [] ∧ bodyLines b = []) ∨
      ∃ ls, frontLines b ++ ls ≠ [] ∧ bodyLines b = ls ++ [[]] := by
  rcases List.eq_nil_or_concat b.columns with hc | ⟨before, c, hc⟩
  · by_cases ht : b.title.isEmpty = true
    · have hb : bodyLines b = gapLines b := by simp [bodyLines, titleLines, ht, hc]
      by_cases hf : (frontLines b).isEmpty = true
      · left
        exact ⟨List.isEmpty_iff.mp hf, by rw [hb, gapLines, if_pos hf]⟩
      · right
        exact ⟨[], by simpa using hf, by rw [hb, gapLines, if_neg hf]; rfl⟩
    · right
      exact ⟨gapLines b ++ [titleMark ++ b.title], by simp, by simp [bodyLines, titleLines, ht, hc]⟩
  · right
    obtain ⟨ls, hne, hls⟩ := exists_columnLines_eq c
    refine ⟨gapLines b ++ (titleLines b ++ (before.flatMap columnLines ++ ls)), ?_, ?_⟩
    · simp [hne]
    · simp [bodyLines, hc, hls]

section

variable {P : Text → Prop}

/-- What holds of all indented lines holds of the lines of a description. -/
theorem forall_noteLines {description : Text}
    (h : ∀ part ∈ description.splitOn '\n', P (' ' :: ' ' :: part)) :
    ∀ l ∈ noteLines description, P l := by
  unfold noteLines
  split
  · simp
  · rwa [List.forall_mem_map]

/-- What holds of the line of a card and of all indented lines holds of the lines of
the card. -/
theorem forall_cardLines {c : Card} (item : P (cardLine c))
    (notes : ∀ part ∈ c.description.splitOn '\n', P (' ' :: ' ' :: part)) :
    ∀ l ∈ cardLines c, P l :=
  List.forall_mem_cons.mpr ⟨item, forall_noteLines notes⟩

/-- What holds of the lines of cards and of the empty line holds below a heading. -/
theorem forall_belowHeading {c : Column} (cards : ∀ card ∈ c.cards, ∀ l ∈ cardLines card, P l)
    (gap : P []) : ∀ l ∈ c.cards.flatMap cardLines ++ [[]], P l := by
  rw [List.forall_mem_append, List.forall_mem_flatMap, List.forall_mem_singleton]
  exact ⟨cards, gap⟩

/-- What holds of the heading and of all lines below it holds of the lines of a
column. -/
theorem forall_columnLines {c : Column} (heading : P (headingLine c))
    (cards : ∀ card ∈ c.cards, ∀ l ∈ cardLines card, P l) (gap : P []) :
    ∀ l ∈ columnLines c, P l :=
  List.forall_mem_cons.mpr ⟨heading, forall_belowHeading cards gap⟩

/-- What holds of the title line and of the empty line holds before the columns. -/
theorem forall_aboveColumns {b : Board} (title : b.title ≠ [] → P (titleMark ++ b.title))
    (gap : P []) : ∀ l ∈ gapLines b ++ titleLines b, P l := by
  rw [List.forall_mem_append]
  constructor
  · unfold gapLines
    split
    · simp
    · exact List.forall_mem_singleton.mpr gap
  · unfold titleLines
    split
    · simp
    · next ht =>
      rw [List.isEmpty_iff] at ht
      exact List.forall_mem_cons.mpr ⟨title ht, List.forall_mem_singleton.mpr gap⟩

/-- What holds of the title line, of the empty line and of all lines of columns
holds of the lines between front matter and footer. -/
theorem forall_bodyLines {b : Board} (title : b.title ≠ [] → P (titleMark ++ b.title)) (gap : P [])
    (columns : ∀ c ∈ b.columns, ∀ l ∈ columnLines c, P l) : ∀ l ∈ bodyLines b, P l := by
  rw [bodyLines, ← List.append_assoc, List.forall_mem_append, List.forall_mem_flatMap]
  exact ⟨forall_aboveColumns title gap, columns⟩

end

/-- A title as a file can hold it. -/
structure IsTitle (t : Text) : Prop where
  /-- It stands in one line. -/
  line : IsLine t
  /-- It has no white space at either end. -/
  trimmed : IsTrimmed t

/-- Whether a text is a title can be computed. -/
instance (t : Text) : Decidable (IsTitle t) :=
  decidable_of_iff (('\n' ∉ t ∧ '\r' ∉ t) ∧ trim t = t)
    ⟨fun h => ⟨h.1, h.2⟩, fun h => ⟨h.line, h.trimmed⟩⟩

/-- A card that can be written: any description without carriage returns goes. -/
structure IsWritableCard (c : Card) : Prop where
  title : IsTitle c.title
  description : '\r' ∉ c.description

/-- A column that can be written. -/
structure IsWritableColumn (c : Column) : Prop where
  title : IsTitle c.title
  cards : ∀ card ∈ c.cards, IsWritableCard card

/-- The lines of front matter from its first mark to its second one. -/
def IsClosed (ls : List Text) : Prop :=
  ∃ first inner last, ls = first :: (inner ++ [last]) ∧ frontMark.isPrefixOf first = true ∧
    frontMark.isPrefixOf last = true ∧ ∀ l ∈ inner, frontMark.isPrefixOf l = false

/-- The lines of front matter without a second mark. -/
def IsOpen (ls : List Text) : Prop :=
  ∃ first rest, ls = first :: rest ∧ frontMark.isPrefixOf first = true ∧
    ∀ l ∈ rest, frontMark.isPrefixOf l = false

/-- Front matter that ends in its second mark. -/
def IsClosedFront (header : Text) : Prop := '\r' ∉ header ∧ IsClosed (header.splitOn '\n')

/-- Front matter without its second mark, which is the rest of its file. -/
def IsOpenFront (header : Text) : Prop := '\r' ∉ header ∧ IsOpen (header.splitOn '\n')

/-- Nothing but front matter is on the board. -/
structure IsBare (b : Board) : Prop where
  title : b.title = []
  columns : b.columns = []
  footer : b.footer = none

/-- A board that can be written, up to what its file loses at the end. -/
structure IsWritable (b : Board) : Prop where
  title : IsTitle b.title
  columns : ∀ c ∈ b.columns, IsWritableColumn c
  header : ∀ header, b.header = some header →
    IsClosedFront header ∨ IsOpenFront header ∧ IsBare b
  footer : ∀ footer, b.footer = some footer → footerMark.isPrefixOf footer = true ∧ '\r' ∉ footer

/-- The lines of a card are lines. -/
theorem IsWritableCard.isLine {c : Card} (h : IsWritableCard c) : ∀ l ∈ cardLines c, IsLine l := by
  refine forall_cardLines ?_ (fun part hp => ?_)
  · have ht := h.title.line
    rw [cardLine, isLine_append]
    refine ⟨by simp [itemMark, IsLine], ?_⟩
    unfold boxedTitle IsLine
    split <;> simp [ht.1, ht.2]
  · have hpart := isLine_of_mem_splitOn h.description hp
    exact ⟨by simp [hpart.1], by simp [hpart.2]⟩

/-- The lines of a column are lines. -/
theorem IsWritableColumn.isLine {c : Column} (h : IsWritableColumn c) :
    ∀ l ∈ columnLines c, IsLine l := by
  refine forall_columnLines ?_ (fun card hc => (h.cards card hc).isLine) isLine_nil
  rw [headingLine, isLine_append]
  exact ⟨by simp [headingMark, IsLine], h.title.line⟩

/-- The lines between front matter and footer are lines. -/
theorem IsWritable.isLine_body {b : Board} (h : IsWritable b) : ∀ l ∈ bodyLines b, IsLine l := by
  refine forall_bodyLines (fun _ => ?_) isLine_nil (fun c hc => (h.columns c hc).isLine)
  rw [isLine_append]
  exact ⟨by simp [titleMark, IsLine], h.title.line⟩

/-- Front matter that can be written has no carriage returns. -/
theorem IsWritable.cr_not_mem_header {b : Board} (h : IsWritable b) {header : Text}
    (hh : b.header = some header) : '\r' ∉ header := by
  rcases h.header header hh with hc | ⟨ho, -⟩
  · exact hc.1
  · exact ho.1

/-- The lines of front matter are lines. -/
theorem IsWritable.isLine_front {b : Board} (h : IsWritable b) : ∀ l ∈ frontLines b, IsLine l := by
  intro l hl
  unfold frontLines at hl
  split at hl
  · next header hh =>
    split at hl
    · simp at hl
    · exact isLine_of_mem_splitOn (h.cr_not_mem_header hh) hl
  · simp at hl

end GatherBoard.Markdown
