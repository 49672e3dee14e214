import GatherBoard.Proofs.Board.Targets
import Mathlib.Data.List.Find

/-!
# Titles on a rearranged board

Reports show cards and columns by their titles, which are looked up by id.
Where no two cards have the same id, a plan changes no title that is found:
it moves cards and puts them in order, and neither shows in the titles.
-/

namespace GatherBoard.Board

variable {b b' : Board} {landing : Text → Text → Text} {p plan : Plan} {select : TextSelector}
  {today : Date} {reorder : Bool}

/-- The title of a column is looked up among the ids and titles of all columns. -/
theorem columnTitle?_eq (b : Board) (id : Text) : b.columnTitle? id =
    ((b.columns.map fun c => (c.id, c.title)).reverse.find? fun x => x.1 == id).map Prod.snd := by
  rw [← List.map_reverse, List.find?_map, Option.map_map]
  rfl

/-- Rearranging a board leaves the titles of its columns. -/
theorem Rearranged.columnTitle?_eq (h : b.Rearranged landing b') (id : Text) :
    b'.columnTitle? id = b.columnTitle? id := by
  rw [Board.columnTitle?_eq, Board.columnTitle?_eq, h.columns]

/-- Cards in another order have the same titles if no two of them have the same id. -/
theorem cardTitle?_eq_of_perm (hp : b'.cards.Perm b.cards) (hn : (b.cards.map Card.id).Nodup)
    (id : Text) : b'.cardTitle? id = b.cardTitle? id := by
  have hp' : b.cards.reverse.Perm b'.cards.reverse :=
    (List.reverse_perm _).trans (hp.symm.trans (List.reverse_perm _).symm)
  unfold cardTitle?
  rw [List.find?_eq_find?_of_perm hp']
  rintro x ⟨hx, hxi⟩ y ⟨hy, hyi⟩
  rw [beq_iff_eq] at hxi hyi
  exact List.inj_on_of_nodup_map hn (List.mem_reverse.mp hx) (List.mem_reverse.mp hy)
    (hxi.trans hyi.symm)

/-- A board after a plan has the titles of before, for cards and for columns, if no
two of its columns and no two of its cards have the same id. -/
theorem titles_of_apply (h : b.apply p select reorder = .ok b') (hc : b.columnIds.Nodup)
    (hn : (b.cards.map Card.id).Nodup) :
    b'.cardTitle? = b.cardTitle? ∧ b'.columnTitle? = b.columnTitle? := by
  have hp := cards_perm_of_apply h hc
  exact ⟨funext (cardTitle?_eq_of_perm hp hn), funext (rearranged_of_apply h).columnTitle?_eq⟩

/-- What has the key of an element is found, also from the end. -/
theorem exists_find?_reverse {α : Type} (key : α → Text) {l : List α} {a : α} (h : a ∈ l) :
    ∃ x ∈ l, (l.reverse.find? fun y => key y == key a) = some x := by
  have hs : (l.reverse.find? fun y => key y == key a).isSome = true :=
    List.find?_isSome.mpr ⟨a, List.mem_reverse.mpr h, by simp⟩
  obtain ⟨x, hx⟩ := Option.isSome_iff_exists.mp hs
  exact ⟨x, List.mem_reverse.mp (List.mem_of_find?_eq_some hx), hx⟩

/-- A card of the board has a title, which is that of one of its cards. -/
theorem exists_cardTitle? {card : Card} (h : card ∈ b.cards) :
    ∃ shown ∈ b.cards, b.cardTitle? card.id = some shown.title := by
  obtain ⟨shown, hs, hf⟩ := exists_find?_reverse Card.id h
  exact ⟨shown, hs, by rw [cardTitle?, hf]; rfl⟩

/-- A column of the board has a title, which is that of one of its columns. -/
theorem exists_columnTitle? {id : Text} (h : id ∈ b.columnIds) :
    ∃ shown ∈ b.columns, b.columnTitle? id = some shown.title := by
  obtain ⟨column, hc, rfl⟩ := List.mem_map.mp h
  obtain ⟨shown, hs, hf⟩ := exists_find?_reverse Column.id hc
  exact ⟨shown, hs, by rw [columnTitle?, hf]; rfl⟩

/-- A move of a plan that sorts a board takes one of its cards from one of its
columns to one of its columns. -/
theorem move_of_sort (h : b.sort today select = .ok plan) {move : Placement}
    (hm : move ∈ plan.moves) : ∃ card ∈ b.cards, move.card = card.id ∧
      move.source ∈ b.columnIds ∧ ∃ target ∈ b.columnIds, move.target = some target := by
  obtain ⟨hp, hmove⟩ := List.mem_filter.mp hm
  obtain ⟨rs, hr, hf, -⟩ := sort_eq_ok_iff.mp h
  obtain ⟨x, hx, target, ht, rfl⟩ := exists_of_forall₂_of_mem hf hp
  have hcard : x.2 ∈ b.cards := map_snd_traversal b ▸ List.mem_map_of_mem hx
  obtain ⟨id, rfl⟩ := Placement.exists_target hmove
  refine ⟨x.2, hcard, rfl, id_mem_of_mem_traversal hx, id, ?_, rfl⟩
  rw [← map_id_of_ruledColumns hr]
  exact mem_of_targetId? ht

end GatherBoard.Board
