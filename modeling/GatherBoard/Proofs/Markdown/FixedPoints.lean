import GatherBoard.Proofs.Markdown.EndLoss

/-!
# What survives the round trip

A file that was read and written is a fixed point of doing so again exactly
if every card has a title and the file does not end in an empty heading. The
board is a fixed point exactly if moreover its front matter and its footer end
as they would be written.
-/

namespace GatherBoard.Markdown

open Text

/-- Ids are not written. -/
theorem writeColumn_renumberedColumn {c : Column}
    (h : ∀ card ∈ c.cards, dedent card.description = card.description) (id : Text) :
    writeColumn (renumberedColumn id c) = writeColumn c := by
  have hc : ((renumberedColumn id c).cards.map writeCard) = c.cards.map writeCard := by
    refine map_mapIdx_eq (fun i card hcard => ?_)
    unfold writeCard renumberedCard
    rw [h card hcard]
  rw [writeColumn, List.flatMap_def, hc, writeColumn, List.flatMap_def]
  rfl

/-- Renumbered columns are written as before. -/
theorem flatMap_writeColumn_renumbered {b : Board} (h : IsDedented b) :
    (renumbered b).columns.flatMap writeColumn = b.columns.flatMap writeColumn := by
  rw [List.flatMap_def, List.flatMap_def]
  congr 1
  refine map_mapIdx_eq (fun i c hc => ?_)
  exact writeColumn_renumberedColumn
    (fun card hcard => h card (List.mem_flatMap.mpr ⟨c, hc, hcard⟩)) _

/-- Only the end of front matter is lost by trimming it. -/
theorem trimEnd_writeHeader (b : Board) : trimEnd (writeHeader b) = trimEnd (b.header.getD []) := by
  unfold writeHeader
  cases b.header with
  | none => rfl
  | some header =>
    by_cases h : header.isEmpty = true
    · rw [List.isEmpty_iff] at h
      simp [h]
    · simp [h, trimEnd_line]

/-- Front matter that is stored has the same text before its end. -/
theorem trimEnd_storedHeader (b : Board) (header : Text) :
    trimEnd (storedHeader b header) = trimEnd header := by
  unfold storedHeader
  split
  · split
    · rw [trimEnd_line, trimEnd_trimEnd]
    · exact trimEnd_trimEnd header
  · rfl

/-- A footer that is stored is written as before. -/
theorem writeWithFooter_storedFooter (body footer : Text) :
    writeWithFooter body (storedFooter footer) = writeWithFooter body footer := by
  unfold writeWithFooter
  rw [if_pos (isSuffixOf_storedFooter footer), storedFooter]

/-- The footer of a stored board is a footer as well. -/
theorem storedFooter_ne_nil {footer : Text} (h : footer ≠ []) : storedFooter footer ≠ [] := by
  unfold storedFooter
  split
  · exact h
  · simp [line]

/-- The file of a board with nothing but front matter. -/
theorem write_of_bare {b : Board} (h : IsBare b) :
    write b = line (trimEnd (b.header.getD [])) := by
  rw [write, h.footer, Option.filter_none, writeBody, writeTitle, h.title, h.columns,
    ← trimEnd_writeHeader]
  simp

/-- A stored bare board is bare. -/
theorem IsBare.stored {b : Board} (h : IsBare b) : IsBare (stored b) where
  title := h.title
  columns := by rw [Markdown.stored, storedColumns, h.columns, List.mapIdx_nil]
  footer := by rw [Markdown.stored, h.footer, Option.map_none]

/-- A bare board that is read back is written as before. -/
theorem IsBare.write_stored {b : Board} (h : IsBare b) : write (Markdown.stored b) = write b := by
  rw [write_of_bare h, write_of_bare h.stored, Markdown.stored]
  cases b.header with
  | none => rfl
  | some header => rw [Option.map_some, Option.getD_some, trimEnd_storedHeader, Option.getD_some]

/-- A board that is read back is written as before. -/
theorem IsWritable.write_stored {b : Board} (h : IsWritable b) (ht : AllTitled b)
    (hd : IsDedented b) : write (stored b) = write b := by
  by_cases hb : IsBare b
  · exact hb.write_stored
  · have hh : (stored b).header = b.header := map_storedHeader_of_not_bare hb
    have hc : (stored b).columns.flatMap writeColumn = b.columns.flatMap writeColumn := by
      rw [stored, h.storedColumns_eq ht]
      exact flatMap_writeColumn_renumbered hd
    have hbody : writeBody (stored b) = writeBody b := by
      rw [writeBody, hc, writeBody, writeHeader, writeHeader, hh]
      rfl
    cases hf : b.footer with
    | none =>
      have hf' : (stored b).footer = none := by rw [stored, hf, Option.map_none]
      rw [write, write, hbody, hf, hf']
    | some footer =>
      have hf' : (stored b).footer = some (storedFooter footer) := by
        rw [stored, hf, Option.map_some]
      have hne := h.footer_ne_nil hf
      rw [write_of_footer hf hne, write_of_footer hf' (storedFooter_ne_nil hne), hbody,
        writeWithFooter_storedFooter]

/-- Storing a board keeps its end. -/
theorem KeepsEnd.stored {b : Board} (h : KeepsEnd b) : KeepsEnd (stored b) := by
  intro hf last hl
  have hf' : b.footer = none := by simpa [Markdown.stored] using hf
  unfold Markdown.stored storedColumns at hl
  rw [List.getLast?_mapIdx, Option.map_eq_some_iff] at hl
  obtain ⟨c, hc, rfl⟩ := hl
  rcases h hf' c hc with ht | hn
  · exact Or.inl ht
  · right
    simpa [columnOf, columnContent] using hn

/-- A card without a title gets its box for a title. -/
theorem cardContent_cardOf_ne {c : Card} (h : c.title = []) (id : Text) :
    cardContent (cardOf (cardContent c) id) ≠ cardContent c := by
  intro he
  have hb := congrArg Prod.fst he
  simp only [cardContent, cardOf, boxedTitle, h] at hb
  revert hb
  cases c.done <;> decide

/-- What is read of the cards of a column that was read before. -/
theorem columnContent_columnOf (c : Column) (id : Text) :
    (columnContent (columnOf (columnContent c) id)).2 =
      (c.cards.mapIdx fun j card => cardOf (cardContent card) (cardId id (j + 1))).map
        cardContent := by
  simp only [columnContent, columnOf, mapIdx_map]

/-- If a file stays as it is when it is read and written, all of its cards have
titles. -/
theorem IsWritable.allTitled {b : Board} (h : IsWritable b) (he : KeepsEnd b)
    (hw : write (stored b) = write b) : AllTitled b := by
  have hs : IsWritable (stored b) := by
    rw [← h.read_write he]
    exact isWritable_read (write b)
  have hc := (hs.holds he.stored).content_eq hs
  rw [hw, (h.holds he).content_eq h] at hc
  intro card hcard ht
  obtain ⟨c, hcol, hcard⟩ := List.mem_flatMap.mp hcard
  -- what is read of the column, and then of the card, would be the same twice
  obtain ⟨i, hi⟩ := exists_of_map_mapIdx_eq hc.symm hcol
  have hcards := congrArg Prod.snd hi
  rw [columnContent_columnOf] at hcards
  obtain ⟨j, hj⟩ := exists_of_map_mapIdx_eq hcards hcard
  exact cardContent_cardOf_ne ht _ hj

/-- Front matter is closed or open, and not both. -/
theorem IsClosed.not_isOpen {ls : List Text} (h : IsClosed ls) : ¬ IsOpen ls := by
  rintro ⟨first', rest, hls, -, hr⟩
  obtain ⟨first, inner, last, rfl, -, hl, -⟩ := h
  rw [List.cons.injEq] at hls
  rw [hr last (by rw [← hls.2]; simp)] at hl
  cases hl

/-- The footer ends as it is written. -/
def FooterKept (b : Board) : Prop :=
  ∀ footer, b.footer = some footer → ['\n'].isSuffixOf footer = true

/-- Front matter ends as it is written: in one break if it is open, and without
white space if it is closed and there is nothing else. -/
def HeaderKept (b : Board) : Prop :=
  (∀ header, b.header = some header → IsOpen (header.splitOn '\n') →
    header = trimEnd header ++ ['\n']) ∧
  ∀ header, b.header = some header → IsClosed (header.splitOn '\n') → IsBare b →
    trimEnd header = header

/-- Storing a footer changes nothing if it ends as it is written. -/
theorem map_storedFooter_eq_iff {b : Board} : b.footer.map storedFooter = b.footer ↔ FooterKept b := by
  unfold FooterKept
  cases b.footer with
  | none => simp
  | some footer =>
    rw [Option.map_some, Option.some.injEq]
    constructor
    · rintro h _ ⟨⟩
      rw [← h]
      exact isSuffixOf_storedFooter footer
    · intro h
      rw [storedFooter, if_pos (h footer rfl)]

/-- Closed front matter is kept if it ends as it is written. -/
theorem IsClosedFront.storedHeader_eq_iff {b : Board} {header : Text} (h : IsClosedFront header) :
    storedHeader b header = header ↔ (IsBare b → trimEnd header = header) := by
  rw [storedHeader, h.isOpenFront_eq, ← isBare_iff]
  by_cases hb : isBare b = true
  · simp [hb]
  · simp [hb]

/-- Open front matter is kept if it ends as it is written. -/
theorem IsOpenFront.storedHeader_eq_iff {b : Board} {header : Text} (h : IsOpenFront header)
    (hb : IsBare b) : storedHeader b header = header ↔ header = trimEnd header ++ ['\n'] := by
  rw [storedHeader, h.isOpenFront_eq, if_pos (isBare_iff.mpr hb), if_pos rfl]
  exact eq_comm

/-- Storing front matter changes nothing if it ends as it is written. -/
theorem IsWritable.map_storedHeader_eq_iff {b : Board} (h : IsWritable b) :
    b.header.map (storedHeader b) = b.header ↔ HeaderKept b := by
  unfold HeaderKept
  cases hh : b.header with
  | none => simp
  | some header =>
    rw [Option.map_some, Option.some.injEq]
    rcases h.header header hh with hc | ⟨ho, hb⟩
    · rw [hc.storedHeader_eq_iff]
      constructor
      · intro hk
        refine ⟨?_, ?_⟩
        · rintro _ ⟨⟩ ho
          exact absurd ho hc.2.not_isOpen
        · rintro _ ⟨⟩ -
          exact hk
      · rintro ⟨-, hk⟩
        exact hk header rfl hc.2
    · rw [ho.storedHeader_eq_iff hb]
      constructor
      · intro hk
        refine ⟨?_, ?_⟩
        · rintro _ ⟨⟩ -
          exact hk
        · rintro _ ⟨⟩ hc
          exact absurd ho.2 hc.not_isOpen
      · rintro ⟨hk, -⟩
        exact hk header rfl ho.2

/-- The file of a board that can be written is a fixed point exactly if all cards have
titles and the end of the file is kept. -/
theorem IsWritable.write_read_write_eq_iff {b : Board} (h : IsWritable b) (hd : IsDedented b) :
    write (read (write b)).board = write b ↔ AllTitled b ∧ KeepsEnd b := by
  constructor
  · intro hw
    have he : KeepsEnd b := by
      by_contra he
      exact h.write_ne he hw
    rw [h.read_write he] at hw
    exact ⟨h.allTitled he hw, he⟩
  · rintro ⟨ht, he⟩
    rw [h.read_write he, h.write_stored ht hd]

/-- A numbered board whose file is a fixed point is one itself exactly if front
matter and footer end as they are written. -/
theorem IsWritable.read_write_eq_iff {b : Board} (h : IsWritable b) (hn : renumbered b = b)
    (ht : AllTitled b) (he : KeepsEnd b) :
    (read (write b)).board = b ↔ FooterKept b ∧ HeaderKept b := by
  have hc : storedColumns b = b.columns := by rw [h.storedColumns_eq ht, hn]
  rw [h.read_write he, ← map_storedFooter_eq_iff, ← h.map_storedHeader_eq_iff, stored, hc]
  constructor
  · intro hb
    exact ⟨congrArg Board.footer hb, congrArg Board.header hb⟩
  · rintro ⟨hf, hh⟩
    rw [hf, hh]

/-- For every text: writing what was read is undone and redone without a change
exactly if all cards have titles and the end of the file is kept, and reading
gives the very same board again exactly if moreover front matter and footer end
as they are written. -/
theorem read_write_extent (t : Text) :
    (write (read (write (read t).board)).board = write (read t).board ↔
      AllTitled (read t).board ∧ KeepsEnd (read t).board) ∧
    ((read (write (read t).board)).board = (read t).board ↔
      (AllTitled (read t).board ∧ KeepsEnd (read t).board) ∧
        FooterKept (read t).board ∧ HeaderKept (read t).board) := by
  have h := isWritable_read t
  have hfile := h.write_read_write_eq_iff (isDedented_read t)
  refine ⟨hfile, ?_⟩
  constructor
  · intro hb
    -- a board that stays as it is has a file that does
    obtain ⟨ht, he⟩ := hfile.mp (by rw [hb])
    exact ⟨⟨ht, he⟩, (h.read_write_eq_iff (renumbered_read t) ht he).mp hb⟩
  · rintro ⟨⟨ht, he⟩, hk⟩
    exact (h.read_write_eq_iff (renumbered_read t) ht he).mpr hk

end GatherBoard.Markdown
