import GatherBoard.Proofs.Board.Rearrangement
import GatherBoard.Proofs.Markdown.ReadBoards

/-!
# Ids by place

The ids of a board that was read are made of places. No two columns of it
have the same id, and no two cards of it do.
-/

namespace GatherBoard.Markdown

open Text

/-- A number can be read off its digits. -/
theorem ofNat_injective : Function.Injective Text.ofNat := by
  intro m n h
  rw [← Nat.ofDigitChars_ten_toDigits (n := m), ← Nat.ofDigitChars_ten_toDigits (n := n)]
  exact congrArg (fun digits => Nat.ofDigitChars 10 digits 0) h

/-- Digits are no dashes. -/
theorem dash_not_mem_ofNat (n : Nat) : '-' ∉ Text.ofNat n := by
  intro h
  have hd := Nat.isDigit_of_mem_toDigits (by decide) (by decide) h
  exact absurd hd (by decide)

/-- Different places of columns have different ids. -/
theorem columnId_injective : Function.Injective columnId := by
  intro m n h
  exact ofNat_injective (List.append_cancel_left h)

/-- The parts around the last dash of a text are the same. -/
theorem eq_of_append_dash_eq {s s' t t' : Text} (ht : '-' ∉ t) (ht' : '-' ∉ t')
    (h : s ++ '-' :: t = s' ++ '-' :: t') : s = s' ∧ t = t' := by
  have hr (s t : Text) (ht : '-' ∉ t) :
      (s ++ '-' :: t).reverse.takeWhile (· != '-') = t.reverse := by
    have hr : '-' ∉ t.reverse := fun hm => ht (List.mem_reverse.mp hm)
    rw [List.reverse_append, List.reverse_cons, List.append_assoc, List.singleton_append,
      takeWhile_append_cons hr]
  have htt : t = t' := by
    rw [← List.reverse_inj, ← hr s t ht, h, hr s' t' ht']
  rw [htt] at h
  exact ⟨List.append_cancel_right h, htt⟩

/-- The id of a card tells its column and its place. -/
theorem cardId_inj {c c' : Text} {n n' : Nat} (h : cardId c n = cardId c' n') :
    c = c' ∧ n = n' := by
  have hs (c : Text) (n : Nat) : cardId c n = (c ++ "-card".toList) ++ '-' :: Text.ofNat n := by
    unfold cardId
    rw [List.append_assoc, List.append_assoc]
    rfl
  rw [hs, hs] at h
  obtain ⟨hc, hn⟩ := eq_of_append_dash_eq (dash_not_mem_ofNat n) (dash_not_mem_ofNat n') h
  exact ⟨List.append_cancel_right hc, ofNat_injective hn⟩

/-- The columns of a board that was read are numbered from left to right. -/
theorem columnIds_read (t : Text) : (read t).board.columnIds =
    (List.range (read t).board.columns.length).map fun i => columnId (i + 1) := by
  have hl : (read t).board.columns.length =
      (Outline.ofMarks (marks false (Parts.ofLines (lines t)).body)).sections.length :=
    List.length_mapIdx
  rw [hl]
  exact map_mapIdx_eq_range (by intro _ _; rfl) _

/-- No two columns of a board that was read have the same id. -/
theorem nodup_columnIds_read (t : Text) : (read t).board.columnIds.Nodup := by
  rw [columnIds_read]
  exact List.nodup_range.map (fun _ _ h => Nat.succ_injective (columnId_injective h))

/-- The ids of the cards in a column of a board that was read name the column. -/
theorem exists_cardId {t : Text} {c : Column} (hc : c ∈ (read t).board.columns) {card : Card}
    (hcard : card ∈ c.cards) : ∃ n, card.id = cardId c.id n := by
  obtain ⟨s, -, id, rfl⟩ := exists_section hc
  obtain ⟨i, hi, rfl⟩ := List.mem_mapIdx.mp hcard
  exact ⟨i + 1, rfl⟩

/-- No two cards in a column of a board that was read have the same id. -/
theorem nodup_cardIds_column {t : Text} {c : Column} (hc : c ∈ (read t).board.columns) :
    (c.cards.map Card.id).Nodup := by
  obtain ⟨s, -, id, rfl⟩ := exists_section hc
  have hr : (s.column id).cards.map Card.id =
      (List.range s.items.length).map fun i => cardId id (i + 1) :=
    map_mapIdx_eq_range (by intro _ _; rfl) _
  rw [hr]
  exact List.nodup_range.map (fun _ _ h => Nat.succ_injective (cardId_inj h).2)

/-- No two cards of a board that was read have the same id. -/
theorem nodup_cardIds_read (t : Text) : ((read t).board.cards.map Card.id).Nodup := by
  have hc := nodup_columnIds_read t
  unfold Board.columnIds at hc
  rw [List.Nodup, List.pairwise_map] at hc
  rw [Board.cards, List.map_flatMap, List.nodup_flatMap]
  refine ⟨fun c hc => nodup_cardIds_column hc, hc.imp_of_mem (fun {c d} hmc hmd hne => ?_)⟩
  intro id hid hid'
  obtain ⟨card, hcard, rfl⟩ := List.mem_map.mp hid
  obtain ⟨card', hcard', he⟩ := List.mem_map.mp hid'
  obtain ⟨n, hn⟩ := exists_cardId hmc hcard
  obtain ⟨n', hn'⟩ := exists_cardId hmd hcard'
  rw [hn, hn'] at he
  exact hne (cardId_inj he).1.symm

end GatherBoard.Markdown
