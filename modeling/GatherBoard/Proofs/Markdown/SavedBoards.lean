import GatherBoard.Proofs.Board.Resorting
import GatherBoard.Proofs.Markdown.FixedPoints
import GatherBoard.Proofs.Markdown.PlaceIds

/-!
# Boards that are sorted and saved

A board that was read and rearranged can be written as well. Read again it has
the same columns with cards of the same texts, under new ids of cards, and it
would be written as before.
-/

namespace GatherBoard.Markdown

open Text

/-- There is a footer, or no column, or the last column has a title. -/
def EndsTitled (b : Board) : Prop :=
  b.footer = none → ∀ last, b.columns.getLast? = some last → last.title ≠ []

section

variable {b b' : Board} {landing : Text → Text → Text}

/-- A rearranged board has the titles of columns of before. -/
theorem exists_column_of_rearranged (hr : b.Rearranged landing b') {c' : Column}
    (hc : c' ∈ b'.columns) : ∃ c ∈ b.columns, (c.id, c.title) = (c'.id, c'.title) := by
  have hm : (c'.id, c'.title) ∈ b'.columns.map fun c => (c.id, c.title) :=
    List.mem_map_of_mem (f := fun c : Column => (c.id, c.title)) hc
  rw [hr.columns] at hm
  exact List.mem_map.mp hm

/-- A rearranged board is bare if the board is, and only then. -/
theorem isBare_iff_of_rearranged (hr : b.Rearranged landing b') : IsBare b' ↔ IsBare b := by
  have hc : b'.columns = [] ↔ b.columns = [] := by
    rw [← List.map_eq_nil_iff, hr.columns, List.map_eq_nil_iff]
  constructor
  · intro h
    exact ⟨hr.title.symm.trans h.title, hc.mp h.columns, hr.footer.symm.trans h.footer⟩
  · intro h
    exact ⟨hr.title.trans h.title, hc.mpr h.columns, hr.footer.trans h.footer⟩

/-- A rearranged board can be written if the board can. -/
theorem IsWritable.rearranged (h : IsWritable b) (hr : b.Rearranged landing b')
    (hp : b'.cards.Perm b.cards) : IsWritable b' := by
  refine ⟨hr.title ▸ h.title, fun c' hc' => ?_, fun header hh => ?_, hr.footer ▸ h.footer⟩
  · obtain ⟨c, hc, he⟩ := exists_column_of_rearranged hr hc'
    have ht : c.title = c'.title := congrArg Prod.snd he
    refine ⟨ht ▸ (h.columns c hc).title, fun card hcard => ?_⟩
    have hm := hp.subset (List.mem_flatMap.mpr ⟨c', hc', hcard⟩)
    obtain ⟨d, hd, hcard⟩ := List.mem_flatMap.mp hm
    exact (h.columns d hd).cards card hcard
  · rw [hr.header] at hh
    rcases h.header header hh with hc | ⟨ho, hb⟩
    · exact Or.inl hc
    · exact Or.inr ⟨ho, (isBare_iff_of_rearranged hr).mpr hb⟩

/-- The end of a rearranged board is kept if the last column has a title. -/
theorem EndsTitled.keepsEnd (h : EndsTitled b) (hr : b.Rearranged landing b') : KeepsEnd b' := by
  intro hf last' hl'
  have hm := congrArg List.getLast? hr.columns
  rw [List.getLast?_map, List.getLast?_map, hl', Option.map_some, eq_comm,
    Option.map_eq_some_iff] at hm
  obtain ⟨last, hl, he⟩ := hm
  have ht : last.title = last'.title := congrArg Prod.snd he
  left
  rw [← ht]
  exact h (hr.footer ▸ hf) last hl

/-- A board that was read and rearranged has the same columns when it is read
again, with cards of the same texts. -/
theorem forall₂_sameColumn_stored {t : Text} (hr : (read t).board.Rearranged landing b')
    (hw : IsWritable b') (ht : AllTitled b') (hd : IsDedented b') :
    List.Forall₂ SameColumn b'.columns (stored b').columns := by
  have hcols : (stored b').columns = (renumbered b').columns := hw.storedColumns_eq ht
  rw [hcols]
  refine forall₂_mapIdx (fun i hi => ?_)
  have hids : b'.columnIds[i]? = some (columnId (i + 1)) := by
    have hl : b'.columns.length = (read t).board.columns.length := by
      simpa using congrArg List.length hr.columns
    rw [hr.columnIds_eq, columnIds_read, ← hl]
    simp [hi]
  have hid : b'.columns[i].id = columnId (i + 1) := by
    rw [Board.columnIds, List.getElem?_map, List.getElem?_eq_getElem hi, Option.map_some,
      Option.some.injEq] at hids
    exact hids
  refine ⟨by rw [hid]; rfl, forall₂_mapIdx (fun j hj => ⟨rfl, ?_⟩)⟩
  have hm : b'.columns[i].cards[j] ∈ b'.cards :=
    List.mem_flatMap.mpr ⟨_, List.getElem_mem hi, List.getElem_mem hj⟩
  exact (hd _ hm).symm

/-- A board that was read, sorted, written and read again is sorted by a plan without
moves, which leaves it as it is, and would be written as before. -/
theorem resort_saved {t : Text} {today : Date} {source : TagSource} {reorder : Bool} {plan : Plan}
    (hs : (read t).board.sort today source = .ok plan)
    (ha : (read t).board.apply plan source reorder = .ok b')
    (ht : AllTitled (read t).board) (he : EndsTitled (read t).board) :
    (∃ plan', (read (write b')).board.sort today source = .ok plan' ∧ plan'.moves = [] ∧
      (read (write b')).board.apply plan' source reorder = .ok (read (write b')).board) ∧
    write (read (write b')).board = write b' := by
  have hn := nodup_columnIds_read t
  have hr := Board.rearranged_of_apply ha
  have hp := Board.cards_perm_of_apply ha hn
  have hw := (isWritable_read t).rearranged hr hp
  have ht' : AllTitled b' := fun card hc => ht card (hp.subset hc)
  have hd' : IsDedented b' := fun card hc => isDedented_read t card (hp.subset hc)
  have hread := hw.read_write (he.keepsEnd hr)
  have hsame := forall₂_sameColumn_stored hr hw ht' hd'
  rw [← hread] at hsame
  refine ⟨?_, by rw [hread, hw.write_stored ht' hd']⟩
  obtain ⟨plan', hs', hm⟩ := Board.exists_sort_of_apply (nodup_cardIds_read t) hs ha hsame
  exact ⟨plan', hs', hm, Board.apply_of_apply ha hn hsame hm⟩

end

end GatherBoard.Markdown
