import GatherBoard.Proofs.Markdown.Stored

/-!
# From boards to files and back

A board with trimmed titles, none of them missing on a card, is read back
from its file. Nothing a description says is taken for a mark: all that
happens to it is that its lines lose their indentation and its end is
trimmed. Ids are replaced by those of the places.
-/

namespace GatherBoard.Markdown

open Text

/-- A card under another id, as its file keeps it. -/
def renumberedCard (id : Text) (c : Card) : Card :=
  ⟨id, c.title, dedent c.description, c.done⟩

/-- A column under another id, with its cards numbered from top to bottom. -/
def renumberedColumn (id : Text) (c : Column) : Column :=
  ⟨id, c.title, c.cards.mapIdx fun i card => renumberedCard (cardId id (i + 1)) card⟩

/-- A board with columns and cards numbered by place and descriptions dedented. -/
def renumbered (b : Board) : Board :=
  { b with columns := b.columns.mapIdx fun i c => renumberedColumn (columnId (i + 1)) c }

/-- All cards have a title. -/
def AllTitled (b : Board) : Prop := ∀ card ∈ b.cards, card.title ≠ []

/-- No description changes when it is written and read. -/
def IsDedented (b : Board) : Prop := ∀ card ∈ b.cards, dedent card.description = card.description

/-- A box before a title is read as the box and the title. -/
theorem readBox_boxedTitle {c : Card} (h : IsTrimmed c.title) (hne : c.title ≠ []) :
    readBox (trim (boxedTitle c)) = (c.done, c.title) := by
  have ht : trim (boxedTitle c) = boxedTitle c := by
    have he := h.trimEnd_append hne ['[', if c.done then 'x' else ' ', ']', ' ']
    rw [boxedTitle, trim_cons_of_not_blank _ (by decide)]
    exact he
  have hs : trim c.title = c.title := h
  rw [ht]
  unfold readBox boxedTitle
  cases c.done <;> simp [List.isPrefixOf?, hs]

/-- A card with a title is read back under its new id. -/
theorem cardOf_cardContent {c : Card} (h : IsTrimmed c.title) (hne : c.title ≠ []) (id : Text) :
    cardOf (cardContent c) id = renumberedCard id c := by
  have hb := readBox_boxedTitle h hne
  simp only [cardOf, cardContent, hb, renumberedCard]

/-- A column of cards with titles is read back under its new id. -/
theorem columnOf_columnContent {c : Column} (h : IsWritableColumn c)
    (hne : ∀ card ∈ c.cards, card.title ≠ []) (id : Text) :
    columnOf (columnContent c) id = renumberedColumn id c := by
  unfold columnOf columnContent renumberedColumn
  simp only [mapIdx_map]
  congr 1
  refine mapIdx_congr (fun i card hm => ?_)
  exact cardOf_cardContent (h.cards card hm).title.trimmed (hne card hm) _

/-- Columns of cards with titles are read back under their new ids. -/
theorem IsWritable.storedColumns_eq {b : Board} (h : IsWritable b) (ht : AllTitled b) :
    storedColumns b = (renumbered b).columns := by
  refine mapIdx_congr (fun i c hm => ?_)
  have hne : ∀ card ∈ c.cards, card.title ≠ [] :=
    fun card hc => ht card (List.mem_flatMap.mpr ⟨c, hm, hc⟩)
  exact columnOf_columnContent (h.columns c hm) hne _

/-- A board with columns, titles, front matter and footer that its file keeps.
Nothing is asked of ids, and of descriptions only that they hold no carriage
returns. -/
structure IsStorable (b : Board) : Prop where
  /-- The title is empty or one trimmed line. -/
  title : IsTitle b.title
  /-- So are the titles of columns. -/
  columns : ∀ c ∈ b.columns, IsTitle c.title
  /-- Cards have titles, each one trimmed line. -/
  cards : ∀ card ∈ b.cards, IsTitle card.title ∧ card.title ≠ []
  /-- Descriptions are any text without carriage returns. -/
  descriptions : ∀ card ∈ b.cards, '\r' ∉ card.description
  /-- Front matter is closed, and trimmed at its end if nothing follows it. -/
  header : ∀ header, b.header = some header →
    IsClosedFront header ∧ (IsBare b → trimEnd header = header)
  /-- The footer starts with its mark and ends in a break. -/
  footer : ∀ footer, b.footer = some footer →
    footerMark.isPrefixOf footer = true ∧ '\r' ∉ footer ∧ ['\n'].isSuffixOf footer = true
  /-- Without a footer the last column has a title or a card. -/
  keepsEnd : KeepsEnd b

/-- What can be stored can be written. -/
theorem IsStorable.isWritable {b : Board} (h : IsStorable b) : IsWritable b where
  title := h.title
  columns c hc := by
    refine ⟨h.columns c hc, fun card hcard => ?_⟩
    have hm : card ∈ b.cards := List.mem_flatMap.mpr ⟨c, hc, hcard⟩
    exact ⟨(h.cards card hm).1, h.descriptions card hm⟩
  header header hh := Or.inl (h.header header hh).1
  footer footer hf := ⟨(h.footer footer hf).1, (h.footer footer hf).2.1⟩

/-- A board that can be stored is read back from its file, under ids by place
and with dedented descriptions. -/
theorem read_write_of_isStorable {b : Board} (h : IsStorable b) :
    (read (write b)).board = renumbered b := by
  have hw := h.isWritable
  have hc := hw.storedColumns_eq (fun card hcard => (h.cards card hcard).2)
  have hh : b.header.map (storedHeader b) = b.header := by
    cases hb : b.header with
    | none => rfl
    | some header =>
      obtain ⟨hclosed, htrim⟩ := h.header header hb
      rw [Option.map_some, storedHeader, hclosed.isOpenFront_eq]
      by_cases hbare : isBare b = true
      · simp [hbare, htrim (isBare_iff.mp hbare)]
      · simp [hbare]
  have hf : b.footer.map storedFooter = b.footer := by
    cases hb : b.footer with
    | none => rfl
    | some footer => rw [Option.map_some, storedFooter, if_pos (h.footer footer hb).2.2]
  rw [hw.read_write h.keepsEnd, stored, hc, hh, hf]
  rfl

/-- A board whose descriptions are full of marks. -/
def hostileBoard : Board where
  columns := [
    ⟨"a".toList, "To do #gather_x".toList, [
      ⟨"x".toList, "[x] # ## - %%".toList, "## a\n- b\n  # c\n\n%%\n---\n".toList, true⟩,
      ⟨"x".toList, "---".toList, " \n ".toList, false⟩]⟩,
    ⟨"a".toList, [], [⟨[], "-".toList, "\n%% d".toList, false⟩]⟩]
  title := []
  header := some "---\nkanban: board\n---".toList
  footer := none

/-- It can be stored, and is read back with nothing of its descriptions in its
structure. -/
theorem hostileBoard_read_write :
    IsStorable hostileBoard ∧ (read (write hostileBoard)).board = renumbered hostileBoard := by
  have h : IsStorable hostileBoard := by
    refine ⟨by decide, by decide, by decide, by decide, ?_, ?_, ?_⟩
    · intro header hh
      cases hh
      have hs : "---\nkanban: board\n---".toList.splitOn '\n' =
          "---".toList :: (["kanban: board".toList] ++ ["---".toList]) := by decide
      refine ⟨⟨by decide, _, _, _, hs, by decide, by decide, by decide⟩, fun hb => ?_⟩
      exact absurd hb.columns (by decide)
    · intro footer hf
      cases hf
    · intro _ last hl
      cases hl
      right
      decide
  exact ⟨h, read_write_of_isStorable h⟩

end GatherBoard.Markdown
