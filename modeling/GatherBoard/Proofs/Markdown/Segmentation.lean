import GatherBoard.Proofs.Markdown.EndLoss
import GatherBoard.Proofs.Markdown.FileParts
import GatherBoard.Proofs.Markdown.PlaceIds

/-!
# What stands where on a board that was read

Every column of a board is found by its heading, and every card by its item line:
the number of headings above tells the place of the column, and the number of items
since the heading tells the place of the card. A description is the lines below the
item, up to the first that is something else. This says for every text which board
is read, line by line and without the passing of marks that the reader does.
-/

namespace GatherBoard.Markdown

open Text

/-- The trimmed text of a line after a mark. -/
def textAfter (mark l : Text) : Text := trim (l.drop mark.length)

/-- Does a line give a title to a board that has none? -/
def givesTitle (l : Text) : Bool := titleMark.isPrefixOf l && !(textAfter titleMark l).isEmpty

/-- Is the title known after these lines? -/
def isTitled (ls : List Text) : Bool := ls.any givesTitle

/-- Does a line end a description? Title lines do as long as the title is not known. -/
def endsNotes (titled : Bool) (l : Text) : Bool :=
  headingMark.isPrefixOf l || itemMark.isPrefixOf l || (!titled && titleMark.isPrefixOf l)

/-- The lines of a description, when the title is or is not yet known. -/
def notesBelow (titled : Bool) (below : List Text) : List Text :=
  below.takeWhile fun l => !endsNotes titled l

/-- The lines of a column below its heading. -/
def columnBelow (below : List Text) : List Text :=
  below.takeWhile fun l => !headingMark.isPrefixOf l

/-- The text of an item with the box and the title that it has. -/
inductive Boxed : Text → Bool → Text → Prop where
  /-- An empty box. -/
  | undone (rest : Text) : Boxed (['[', ' ', ']', ' '] ++ rest) false (trim rest)
  /-- A checked box. -/
  | done (rest : Text) : Boxed (['[', 'x', ']', ' '] ++ rest) true (trim rest)
  /-- No box. -/
  | unboxed (t : Text) (undone : ['[', ' ', ']', ' '].isPrefixOf t = false)
      (done : ['[', 'x', ']', ' '].isPrefixOf t = false) : Boxed t false t

/-- The card of an item between the lines above and those below it. -/
structure IsCardAt (above : List Text) (item : Text) (below : List Text) (id : Text)
    (card : Card) : Prop where
  id : card.id = id
  box : Boxed (textAfter itemMark item) card.done card.title
  description : card.description =
    trimEnd (unlines ((notesBelow (isTitled above) below).map trimStart))

/-- The column of a heading between the lines above and those below it. It has a card at
the place of every item line, and as many cards as there are item lines. -/
structure IsColumnAt (above : List Text) (heading : Text) (below : List Text) (c : Column) :
    Prop where
  id : c.id = columnId (above.countP headingMark.isPrefixOf + 1)
  title : c.title = textAfter headingMark heading
  length : c.cards.length = (columnBelow below).countP itemMark.isPrefixOf
  cards : ∀ since item rest, below = since ++ item :: rest →
    (∀ l ∈ since, headingMark.isPrefixOf l = false) → itemMark.isPrefixOf item = true →
    ∃ card, c.cards[since.countP itemMark.isPrefixOf]? = some card ∧
      IsCardAt (above ++ heading :: since) item rest
        (cardId c.id (since.countP itemMark.isPrefixOf + 1)) card

/-- A board with the title and the columns of some lines. It has a column at the place of
every heading, and as many columns as there are headings. -/
structure IsBoardOf (body : List Text) (b : Board) : Prop where
  title : b.title = ((body.find? givesTitle).map (textAfter titleMark)).getD []
  length : b.columns.length = body.countP headingMark.isPrefixOf
  columns : ∀ above heading below, body = above ++ heading :: below →
    headingMark.isPrefixOf heading = true →
    ∃ c, b.columns[above.countP headingMark.isPrefixOf]? = some c ∧
      IsColumnAt above heading below c

/-- The box and the title of an item are read off its text. -/
theorem boxed_readBox (t : Text) : Boxed t (readBox t).1 (readBox t).2 := by
  unfold readBox
  split
  · next rest h =>
    rw [← List.isPrefixOf?_eq_some_iff_append_eq.mp h]
    exact .undone rest
  · next h1 =>
    split
    · next rest h =>
      rw [← List.isPrefixOf?_eq_some_iff_append_eq.mp h]
      exact .done rest
    · next h2 =>
      exact .unboxed t (isPrefixOf_eq_false_iff.mpr h1) (isPrefixOf_eq_false_iff.mpr h2)

/-- What comes after a mark is the line without it. -/
theorem isPrefixOf?_eq (mark l : Text) :
    mark.isPrefixOf? l = if mark.isPrefixOf l then some (l.drop mark.length) else none := by
  cases h : mark.isPrefixOf? l with
  | none => simp [isPrefixOf_eq_false_iff.mpr h]
  | some rest =>
    rw [List.isPrefixOf?_eq_some_iff_append_eq] at h
    rw [← h, if_pos (List.isPrefixOf_iff_prefix.mpr ⟨rest, rfl⟩), List.drop_left]

/-- The mark of a line is told by what it starts with. -/
theorem ofLine_eq (titled : Bool) (l : Text) : Mark.ofLine titled l =
    if !titled && titleMark.isPrefixOf l then .title (textAfter titleMark l)
    else if headingMark.isPrefixOf l then .heading (textAfter headingMark l)
    else if itemMark.isPrefixOf l then .item l
    else .plain l := by
  unfold Mark.ofLine
  rw [isPrefixOf?_eq titleMark, isPrefixOf?_eq headingMark]
  cases titled <;> cases titleMark.isPrefixOf l <;> cases headingMark.isPrefixOf l <;> rfl

/-- A heading gives no title. -/
theorem givesTitle_of_heading {l : Text} (h : headingMark.isPrefixOf l = true) :
    givesTitle l = false := by
  obtain ⟨rest, rfl⟩ := List.isPrefixOf_iff_prefix.mp h
  rfl

/-- An item gives no title. -/
theorem givesTitle_of_item {l : Text} (h : itemMark.isPrefixOf l = true) :
    givesTitle l = false := by
  obtain ⟨rest, rfl⟩ := List.isPrefixOf_iff_prefix.mp h
  rfl

/-- The title is known after a line if it was known before or the line gives it. -/
theorem or_settlesTitle (titled : Bool) (l : Text) :
    (titled || (Mark.ofLine titled l).settlesTitle) = (titled || givesTitle l) := by
  cases titled with
  | true => rfl
  | false =>
    rw [ofLine_eq, givesTitle]
    cases titleMark.isPrefixOf l with
    | true => rfl
    | false =>
      cases headingMark.isPrefixOf l with
      | true => rfl
      | false => cases itemMark.isPrefixOf l <;> rfl

/-- The outline of some lines, when the title is or is not yet known. -/
def outlineFrom (titled : Bool) (ls : List Text) : Outline := Outline.ofMarks (marks titled ls)

/-- A line is put above the outline of the lines below it. -/
theorem outlineFrom_cons (titled : Bool) (l : Text) (ls : List Text) :
    outlineFrom titled (l :: ls) =
      Outline.addAbove (Mark.ofLine titled l) (outlineFrom (titled || givesTitle l) ls) := by
  rw [← or_settlesTitle]
  rfl

section

variable {titled : Bool} {l : Text} {ls : List Text}

/-- A heading begins a section with the items below it. -/
theorem outlineFrom_heading (h : headingMark.isPrefixOf l = true) :
    outlineFrom titled (l :: ls) =
      ⟨[], [], ⟨textAfter headingMark l, (outlineFrom titled ls).items⟩ ::
        (outlineFrom titled ls).sections⟩ := by
  have ht := givesTitle_of_heading h
  obtain ⟨rest, rfl⟩ := List.isPrefixOf_iff_prefix.mp h
  rw [outlineFrom_cons, ht, Bool.or_false, ofLine_headingMark]
  rfl

/-- An item takes the text below it. -/
theorem outlineFrom_item (h : itemMark.isPrefixOf l = true) :
    outlineFrom titled (l :: ls) =
      { outlineFrom titled ls with
        notes := []
        items := ⟨l, (outlineFrom titled ls).notes⟩ :: (outlineFrom titled ls).items } := by
  have ht := givesTitle_of_item h
  obtain ⟨rest, rfl⟩ := List.isPrefixOf_iff_prefix.mp h
  rw [outlineFrom_cons, ht, Bool.or_false, ofLine_itemMark]
  rfl

/-- Any other line ends the text above it or is part of it. -/
theorem outlineFrom_other (hh : headingMark.isPrefixOf l = false)
    (hi : itemMark.isPrefixOf l = false) :
    outlineFrom titled (l :: ls) =
      { outlineFrom (titled || givesTitle l) ls with
        notes := if endsNotes titled l then []
          else l :: (outlineFrom (titled || givesTitle l) ls).notes } := by
  rw [outlineFrom_cons, ofLine_eq, endsNotes, hh, hi]
  cases !titled && titleMark.isPrefixOf l <;> rfl

/-- Only a heading begins a section. -/
theorem sections_outlineFrom_cons (hh : headingMark.isPrefixOf l = false) :
    (outlineFrom titled (l :: ls)).sections =
      (outlineFrom (titled || givesTitle l) ls).sections := by
  cases hi : itemMark.isPrefixOf l with
  | true => rw [outlineFrom_item hi, givesTitle_of_item hi, Bool.or_false]
  | false => rw [outlineFrom_other hh hi]

end

/-- The section of a heading is found at the number of headings above it. -/
theorem sections_getElem? (titled : Bool) (above : List Text) {heading : Text} (below : List Text)
    (h : headingMark.isPrefixOf heading = true) :
    (outlineFrom titled (above ++ heading :: below)).sections[above.countP
        headingMark.isPrefixOf]? =
      some ⟨textAfter headingMark heading, (outlineFrom (titled || isTitled above) below).items⟩ := by
  induction above generalizing titled with
  | nil =>
    rw [List.nil_append, outlineFrom_heading h]
    simp [isTitled]
  | cons l above ih =>
    have hi := ih (titled || givesTitle l)
    rw [Bool.or_assoc] at hi
    rw [List.cons_append, isTitled, List.any_cons, ← isTitled, ← hi]
    cases hl : headingMark.isPrefixOf l with
    | true =>
      rw [outlineFrom_heading hl, List.countP_cons_of_pos hl, List.getElem?_cons_succ,
        givesTitle_of_heading hl, Bool.or_false]
    | false => rw [sections_outlineFrom_cons hl, List.countP_cons_of_neg (by simp [hl])]

/-- The item of an item line is found at the number of items above it, if no heading is
above it. -/
theorem items_getElem? (titled : Bool) {since : List Text} {item : Text} (rest : List Text)
    (hs : ∀ l ∈ since, headingMark.isPrefixOf l = false) (h : itemMark.isPrefixOf item = true) :
    (outlineFrom titled (since ++ item :: rest)).items[since.countP itemMark.isPrefixOf]? =
      some ⟨item, (outlineFrom (titled || isTitled since) rest).notes⟩ := by
  induction since generalizing titled with
  | nil =>
    rw [List.nil_append, outlineFrom_item h]
    simp [isTitled]
  | cons l since ih =>
    have hi := ih (titled || givesTitle l) (fun m hm => hs m (List.mem_cons_of_mem _ hm))
    have hh := hs l List.mem_cons_self
    rw [Bool.or_assoc] at hi
    rw [List.cons_append, isTitled, List.any_cons, ← isTitled, ← hi]
    cases hl : itemMark.isPrefixOf l with
    | true =>
      rw [outlineFrom_item hl, List.countP_cons_of_pos hl, List.getElem?_cons_succ,
        givesTitle_of_item hl, Bool.or_false]
    | false => rw [outlineFrom_other hh hl, List.countP_cons_of_neg (by simp [hl])]

/-- There are as many items above the first heading as item lines. -/
theorem length_items (titled : Bool) (ls : List Text) :
    (outlineFrom titled ls).items.length = (columnBelow ls).countP itemMark.isPrefixOf := by
  induction ls generalizing titled with
  | nil => rfl
  | cons l ls ih =>
    unfold columnBelow at ih ⊢
    cases hh : headingMark.isPrefixOf l with
    | true =>
      rw [outlineFrom_heading hh, List.takeWhile_cons_of_neg (by simp [hh])]
      rfl
    | false =>
      rw [List.takeWhile_cons_of_pos (by simp [hh])]
      cases hi : itemMark.isPrefixOf l with
      | true => rw [outlineFrom_item hi, List.countP_cons_of_pos hi, List.length_cons, ih]
      | false => rw [outlineFrom_other hh hi, List.countP_cons_of_neg (by simp [hi]), ih]

/-- The text above everything else is the lines up to the first that ends it. -/
theorem notes_outlineFrom (titled : Bool) (ls : List Text) :
    (outlineFrom titled ls).notes = notesBelow titled ls := by
  induction ls generalizing titled with
  | nil => rfl
  | cons l ls ih =>
    unfold notesBelow at ih ⊢
    cases he : endsNotes titled l with
    | true =>
      rw [List.takeWhile_cons_of_neg (by simp [he])]
      cases hh : headingMark.isPrefixOf l with
      | true => rw [outlineFrom_heading hh]
      | false =>
        cases hi : itemMark.isPrefixOf l with
        | true => rw [outlineFrom_item hi]
        | false => rw [outlineFrom_other hh hi, he, if_pos rfl]
    | false =>
      -- the line gives no title, so the title is not known below it if it was not above
      obtain ⟨⟨hh, hi⟩, ht⟩ : (headingMark.isPrefixOf l = false ∧ itemMark.isPrefixOf l = false) ∧
          (titled = false → titleMark.isPrefixOf l = false) := by
        simpa [endsNotes] using he
      have hg : (titled || givesTitle l) = titled := by
        cases titled with
        | true => rfl
        | false => simp [givesTitle, ht rfl]
      rw [outlineFrom_other hh hi, he, List.takeWhile_cons_of_pos (by simp [he]), hg, ih]
      rfl

/-- The title is given by the first line that gives one. -/
theorem titleOf_marks (ls : List Text) :
    titleOf (marks false ls) = ((ls.find? givesTitle).map (textAfter titleMark)).getD [] := by
  induction ls with
  | nil => rfl
  | cons l ls ih =>
    have hs := or_settlesTitle false l
    rw [Bool.false_or, Bool.false_or] at hs
    rw [marks, titleOf_cons, Bool.false_or, hs]
    cases hg : givesTitle l with
    | true =>
      obtain ⟨ht, hn⟩ : titleMark.isPrefixOf l = true ∧ (textAfter titleMark l).isEmpty = false := by
        simpa [givesTitle] using hg
      rw [List.find?_cons_of_pos hg, ofLine_eq, ht]
      simp [hn]
    | false =>
      rw [List.find?_cons_of_neg (by simp [hg]), ← ih, ofLine_eq]
      cases ht : titleMark.isPrefixOf l with
      | true =>
        have hn : (textAfter titleMark l).isEmpty = true := by simpa [givesTitle, ht] using hg
        simp [hn]
      | false =>
        cases headingMark.isPrefixOf l with
        | true => rfl
        | false => cases itemMark.isPrefixOf l <;> rfl

/-- The title is known below a heading and more lines if it is known above it or these
lines give it. -/
theorem isTitled_append_heading (above since : List Text) {heading : Text}
    (h : headingMark.isPrefixOf heading = true) :
    isTitled (above ++ heading :: since) = (isTitled above || isTitled since) := by
  unfold isTitled
  rw [List.any_append, List.any_cons, givesTitle_of_heading h, Bool.false_or]

/-- The card of an item with the text below it is the one of its item line. -/
theorem isCardAt_card (above : List Text) (item : Text) (below : List Text) (id : Text) :
    IsCardAt above item below id (Item.card ⟨item, notesBelow (isTitled above) below⟩ id) :=
  ⟨rfl, boxed_readBox _, rfl⟩

/-- The column of a section with the items below its heading is the one of the heading. -/
theorem isColumnAt_column (above : List Text) {heading : Text} (below : List Text)
    (h : headingMark.isPrefixOf heading = true) :
    IsColumnAt above heading below
      (Section.column ⟨textAfter headingMark heading, (outlineFrom (isTitled above) below).items⟩
        (columnId (above.countP headingMark.isPrefixOf + 1))) := by
  refine ⟨rfl, rfl, ?_, fun since item rest hbelow hsince hitem => ?_⟩
  · exact List.length_mapIdx.trans (length_items _ below)
  · have hi := items_getElem? (isTitled above) rest hsince hitem
    rw [notes_outlineFrom, ← isTitled_append_heading above since h, ← hbelow] at hi
    unfold Section.column
    rw [List.getElem?_mapIdx, hi, Option.map_some]
    exact ⟨_, rfl, isCardAt_card _ _ _ _⟩

/-- A text is read as the board of the lines between its front matter and its footer. -/
theorem Divides.isBoardOf_read {t : Text} {front body footer : List Text}
    (h : Divides (Text.lines t) front body footer) : IsBoardOf body (read t).board := by
  have hb : (Parts.ofLines (Text.lines t)).body = body := (divides_iff.mp h).2.1
  have htitle : (read t).board.title = titleOf (marks false body) := by
    rw [← hb]
    rfl
  have hcolumns : (read t).board.columns = (outlineFrom false body).sections.mapIdx
      fun i s => s.column (columnId (i + 1)) := by
    rw [← hb]
    rfl
  refine ⟨htitle.trans (titleOf_marks body), ?_, fun above heading below hbody hh => ?_⟩
  · rw [length_columns_read, hb]
  · have hs := sections_getElem? false above below hh
    rw [Bool.false_or, ← hbody] at hs
    rw [hcolumns, List.getElem?_mapIdx, hs, Option.map_some]
    exact ⟨_, rfl, isColumnAt_column above below hh⟩

/-- Every text is read line by line as its marks say. Its lines are divided into front
matter, body and footer in one way; the board has the title that the body gives, a column
with an id by place for every heading, and in it a card with an id by place for every item
line up to the next heading, with its box and its description. No two columns and no two
cards have the same id. -/
theorem read_segments (t : Text) :
    (∃ front body footer, Divides (Text.lines t) front body footer) ∧
    (∀ front body footer, Divides (Text.lines t) front body footer →
      IsBoardOf body (read t).board) ∧
    (read t).board.columnIds.Nodup ∧ ((read t).board.cards.map Card.id).Nodup :=
  ⟨⟨_, _, _, divides_ofLines _⟩, fun _ _ _ h => h.isBoardOf_read, nodup_columnIds_read t,
    nodup_cardIds_read t⟩

/-- The front matter of a file, with lines that would be read elsewhere. -/
def oddFront : List Text := ["---".toList, "## Draft".toList, "%% none".toList, "--- #".toList]

/-- The lines of a body with a title line that is empty, one that gives the title below a
card, and one that is text. -/
def oddBody : List Text :=
  ["- stray".toList, "# ".toList, "##  Todo".toList, "- [x] [ ] Call".toList, "    at noon".toList,
    "  # soon".toList, "# Plan".toList, "lost".toList, "- Ask".toList, "# kept".toList, [],
    "## Todo".toList, "-  [x] Tell ".toList]

/-- The footer of the file, with lines that would be read elsewhere. -/
def oddFooter : List Text := ["%% end".toList, "## Done".toList, "---".toList]

/-- The file with these parts. -/
def oddFile : Text := unlines (oddFront ++ (oddBody ++ oddFooter))

/-- The file is read as the board of its body. -/
theorem oddFile_segments : Divides (Text.lines oddFile) oddFront oddBody oddFooter ∧
    IsBoardOf oddBody (read oddFile).board ∧ (read oddFile).board.title = "Plan".toList ∧
    (read oddFile).board.cards.map Card.description =
      ["at noon\n# soon".toList, "# kept".toList, []] := by
  have hd : Divides (Text.lines oddFile) oddFront oddBody oddFooter := by
    have hf : StartsFooter oddFooter := by
      unfold StartsFooter
      decide
    refine ⟨by decide, Or.inr (Or.inl ?_), by decide, hf⟩
    exact ⟨_, ["## Draft".toList, "%% none".toList], _, rfl, by decide, by decide, by decide⟩
  obtain ⟨-, hs, -⟩ := read_segments oddFile
  have hb := hs _ _ _ hd
  exact ⟨hd, hb, hb.title.trans (by decide), by decide⟩

end GatherBoard.Markdown
