import GatherBoard.Proofs.Board.Arrivals

/-!
# Applying a plan again

On a board after a plan each card that the plan takes to a column is in that column. The same plan
takes these cards out of their column and puts them back after the others. Since the column was
put in order with its cards in such a sequence, the orders of its header bring every card back to
its place.
-/

namespace GatherBoard

namespace Board

variable {b b' : Board} {p : Plan} {select : TextSelector} {reorder : Bool} {c : Column}

/-- Every card that a plan takes to a column of the board is in that column. -/
def Follows (b : Board) (p : Plan) : Prop :=
  ∀ x ∈ b.traversal, ∀ target ∈ b.columnIds, p.LastMove x.2.id target → x.1.id = target

/-- A board after a plan follows it. -/
theorem follows_of_apply (h : b.apply p select reorder = .ok b') : b'.Follows p := by
  intro x hx target htarget hmove
  have hr := rearranged_of_apply h
  -- the card has landed in its column, and its last move says where it lands
  obtain ⟨y, -, hcard, hland⟩ := hr.exists_of_mem_traversal hx
  rw [hr.columnIds_eq] at htarget
  rw [← hcard] at hmove
  rw [← hland]
  exact Plan.landing_of_moved hmove htarget y.1.id

/-- On a board that follows a plan the cards that arrive in a column are those of the column that
the plan takes to some column. -/
theorem Follows.arrivingCards_eq (h : b.Follows p) (hn : b.columnIds.Nodup) (hc : c ∈ b.columns) :
    b.arrivingCards p c.id = c.cards.filter fun card => p.Takes b.columnIds card.id := by
  have hhome : ∀ x ∈ b.traversal, p.LastMove x.2.id c.id ↔
      p.Takes b.columnIds x.2.id ∧ x.1.id = c.id := by
    intro x hx
    constructor
    · intro hmove
      have hid : c.id ∈ b.columnIds := List.mem_map_of_mem hc
      exact ⟨⟨c.id, hid, hmove⟩, h x hx c.id hid hmove⟩
    · rintro ⟨⟨target, htarget, hmove⟩, hx'⟩
      rwa [← hx', h x hx target htarget hmove]
  rw [arrivingCards, ← map_snd_traversal, List.filter_map, ← cardsWhere_home hn hc, cardsWhere,
    List.filter_map, List.filter_filter]
  refine congrArg (List.map Prod.snd) (List.filter_congr fun x hx => ?_)
  rw [Bool.eq_iff_iff, Bool.and_eq_true, Function.comp_apply, Function.comp_apply,
    decide_eq_true_iff, decide_eq_true_iff, beq_iff_eq, hhome x hx]

/-- If the cards that a plan takes to a column are put after the others in the column after the
plan, then the orders of the column bring all of them back. -/
theorem orderAll_refilled (p : Plan) (orders : List CardOrder) (select : TextSelector)
    (hc : c ∈ b.columns) {cards : List Card}
    (h : orderAll orders select (b.cardsAfter p c.id) = cards) :
    orderAll orders select ((cards.filter fun card => ¬ p.Takes b.columnIds card.id) ++
      cards.filter fun card => p.Takes b.columnIds card.id) = cards := by
  have hkept : ∀ card ∈ b.keptCards p c.id, decide (p.Takes b.columnIds card.id) = false :=
    fun card hm => decide_eq_false (of_decide_eq_true (List.mem_filter.mp hm).2)
  have harriving : ∀ card ∈ b.arrivingCards p c.id, decide (p.Takes b.columnIds card.id) = true :=
    fun card hm => decide_eq_true
      ⟨c.id, List.mem_map_of_mem hc, of_decide_eq_true (List.mem_filter.mp hm).2⟩
  simp only [decide_not]
  rw [← h, cardsAfter_eq_append (List.mem_map_of_mem hc), orderAll_eq_mergeSort,
    orderAll_eq_mergeSort]
  exact (isSortOrder_allLe orders select).mergeSort_filter_append_filter hkept harriving

/-- A plan leaves the board that it has led to as it is. -/
theorem apply_of_apply_self (hn : b.columnIds.Nodup) (h : b.apply p select reorder = .ok b') :
    b'.apply p select reorder = .ok b' := by
  have hids : b'.columnIds = b.columnIds := (rearranged_of_apply h).columnIds_eq
  have hfollows : b'.Follows p := follows_of_apply h
  have hn' : b'.columnIds.Nodup := hids ▸ hn
  refine apply_eq_ok_iff.mpr ⟨b'.columns, List.forall₂_same.mpr fun c' hc' => ?_, rfl⟩
  have hafter : b'.cardsAfter p c'.id =
      (c'.cards.filter fun card => ¬ p.Takes b.columnIds card.id) ++
        c'.cards.filter fun card => p.Takes b.columnIds card.id := by
    rw [cardsAfter_eq_append (List.mem_map_of_mem hc'), keptCards_of_mem hn' hc',
      hfollows.arrivingCards_eq hn' hc', hids]
  obtain ⟨columns, hf, rfl⟩ := apply_eq_ok_iff.mp h
  obtain ⟨c, hc, orders, horders, rfl⟩ := exists_of_forall₂_of_mem hf hc'
  refine ⟨orders, horders, ?_⟩
  rw [hafter, orderAll_refilled p orders select hc rfl]

/-- A board after a plan stays as it is however often the plan is applied again. -/
theorem applyAll_replicate {call : PlanCall} (hn : b.columnIds.Nodup)
    (h : b.applyCall call = .ok b') (n : Nat) : b'.applyAll (List.replicate n call) = .ok b' := by
  have hself : b'.applyCall call = .ok b' := apply_of_apply_self hn h
  induction n with
  | zero => rfl
  | succ n ih =>
    rw [List.replicate_succ, applyAll, List.foldlM_cons, hself]
    exact ih

/-- Applying any plan to a board with distinct column ids twice is applying it once: the board after
the plan is left as it is, with the cards of each column in their places. Nothing but a header that
cannot be read, when order tags are obeyed, stands in the way of applying it. -/
theorem apply_idempotent (hn : b.columnIds.Nodup) (p : Plan) (select : TextSelector)
    (reorder : Bool) :
    (∃ b', b.apply p select reorder = .ok b' ∧ b'.apply p select reorder = .ok b') ∨
      ∃ cause, b.apply p select reorder = .error cause ∧ reorder = true ∧
        ∃ c ∈ b.columns, ColumnRules.read c.title = .error cause := by
  cases h : b.apply p select reorder with
  | error cause =>
    right
    exact ⟨cause, rfl, exists_of_apply_eq_error h⟩
  | ok b' =>
    left
    exact ⟨b', rfl, apply_of_apply_self hn h⟩

end Board

/-- The board of chores stays as it is when its plan is applied again, although the cards that
arrive have gone before the card that was kept. -/
theorem choreBoard_applied_twice :
    choreBoard.columnIds.Nodup ∧ ∃ b', choreBoard.apply chorePlan TagSource.title true = .ok b' ∧
      b'.apply chorePlan TagSource.title true = .ok b' := by
  have hn : choreBoard.columnIds.Nodup := by decide
  have hread : ∀ c ∈ choreBoard.columns, (ColumnRules.read c.title).isOk = true := by
    decide +kernel
  refine ⟨hn, ?_⟩
  rcases Board.apply_idempotent hn chorePlan TagSource.title true with h | ⟨cause, -, -, c, hc, he⟩
  · exact h
  · have hok := hread c hc
    rw [he] at hok
    cases hok

end GatherBoard
