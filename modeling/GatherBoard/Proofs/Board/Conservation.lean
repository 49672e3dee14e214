import GatherBoard.Proofs.Board.Rearrangement
import GatherBoard.Proofs.Outcome

/-!
# Plans lose no cards

Whatever plan is applied to a board, the board keeps its columns and all of
its cards, and each card is where its last move leads. So it is after any run
of plans. Applying a plan fails only if a header cannot be read whose order
tags are wanted.
-/

namespace GatherBoard

/-- Putting cards in an order keeps them. -/
theorem orderAll_perm (orders : List CardOrder) (select : TextSelector) (cards : List Card) :
    (orderAll orders select cards).Perm cards := by
  induction orders generalizing cards with
  | nil => exact .refl cards
  | cons order orders ih => exact (ih _).trans (List.mergeSort_perm cards _)

/-- The orders that a column with this header is put in. -/
def ordersFor (reorder : Bool) (header : Text) : Except Overlong (List CardOrder) :=
  if reorder then (ColumnRules.read header).map ColumnRules.orders else .ok []

/-- Reading the orders of a header fails only if they are wanted. -/
theorem ordersFor_eq_error_iff {reorder : Bool} {header : Text} {cause : Overlong} :
    ordersFor reorder header = .error cause ↔
      reorder = true ∧ ColumnRules.read header = .error cause := by
  unfold ordersFor
  cases reorder with
  | false => simp
  | true => cases ColumnRules.read header <;> simp [Except.map]

namespace Board

variable {b b' : Board} {p : Plan} {select : TextSelector} {reorder : Bool}

/-- A column after a plan is the column with its cards after the moves, in its
orders. -/
theorem columnAfter_eq (b : Board) (p : Plan) (select : TextSelector) (reorder : Bool) (c : Column) :
    b.columnAfter p select reorder c = (ordersFor reorder c.title).map fun orders =>
      { c with cards := orderAll orders select (b.cardsAfter p c.id) } := by
  unfold columnAfter ordersFor
  cases reorder with
  | false => rfl
  | true => cases ColumnRules.read c.title <;> rfl

/-- A plan that can be applied changes the columns one by one. -/
theorem apply_eq_ok_iff : b.apply p select reorder = .ok b' ↔
    ∃ columns, List.Forall₂ (fun c c' => ∃ orders, ordersFor reorder c.title = .ok orders ∧
      c' = { c with cards := orderAll orders select (b.cardsAfter p c.id) }) b.columns columns ∧
      b' = { b with columns := columns } := by
  have hc (c c' : Column) : b.columnAfter p select reorder c = .ok c' ↔
      ∃ orders, ordersFor reorder c.title = .ok orders ∧
        c' = { c with cards := orderAll orders select (b.cardsAfter p c.id) } := by
    rw [columnAfter_eq]
    cases ordersFor reorder c.title with
    | error cause => simp [Except.map]
    | ok orders => simp [Except.map, eq_comm]
  unfold apply
  rw [bind_eq_ok_iff]
  simp only [mapM_eq_ok_iff, hc]
  constructor
  · rintro ⟨columns, hf, ⟨⟩⟩
    exact ⟨columns, hf, rfl⟩
  · rintro ⟨columns, hf, rfl⟩
    exact ⟨columns, hf, rfl⟩

/-- A plan that cannot be applied needs a header that cannot be read. -/
theorem exists_of_apply_eq_error {cause : Overlong} (h : b.apply p select reorder = .error cause) :
    reorder = true ∧ ∃ c ∈ b.columns, ColumnRules.read c.title = .error cause := by
  unfold apply at h
  rcases bind_eq_error_iff.mp h with h | ⟨columns, -, ⟨⟩⟩
  obtain ⟨c, hc, he⟩ := exists_of_mapM_eq_error h
  rw [columnAfter_eq] at he
  have ho : ordersFor reorder c.title = .error cause := by
    cases ho : ordersFor reorder c.title with
    | error cause' =>
      rw [ho] at he
      cases he
      rfl
    | ok orders =>
      rw [ho] at he
      cases he
  rw [ordersFor_eq_error_iff] at ho
  exact ⟨ho.1, c, hc, ho.2⟩

/-- A card leaves its column for the column of the board that it lands in. -/
theorem newColumn?_eq (b : Board) (p : Plan) (card : Card) :
    b.newColumn? p card =
      (p.destination? card.id).filter fun target => decide (target ∈ b.columnIds) := by
  unfold newColumn? columnIds
  congr 1
  funext target
  rw [Bool.eq_iff_iff, decide_eq_true_iff]
  simp only [List.any_eq_true, beq_iff_eq, List.mem_map]

/-- The cards of a column after the moves, taken from the traversal. -/
theorem cardsAfter_eq (b : Board) (p : Plan) (c : Text) :
    b.cardsAfter p c =
      ((b.traversal.filter fun x => x.1.id == c && (b.newColumn? p x.2).isNone) ++
        b.traversal.filter fun x => b.newColumn? p x.2 == some c).map Prod.snd := rfl

/-- After the moves a column has the cards that land in it. -/
theorem cardsAfter_perm (b : Board) (p : Plan) (c : Text) :
    (b.cardsAfter p c).Perm (b.cardsWhere fun card home => p.landing b.columnIds card home == c) := by
  rw [cardsAfter_eq]
  refine ((filter_append_filter_perm (fun x _ hs => ?_)).trans (.of_eq ?_)).map Prod.snd
  · rw [Bool.and_eq_true, Option.isNone_iff_eq_none] at hs
    rw [hs.2]
    rfl
  · refine List.filter_congr (fun x _ => ?_)
    have hx : p.landing b.columnIds x.2.id x.1.id = (b.newColumn? p x.2).getD x.1.id := by
      rw [newColumn?_eq]
      rfl
    simp only [hx]
    cases b.newColumn? p x.2 with
    | none => simp
    | some target => simp

/-- A board after a plan is a rearrangement by where the plan lands its cards. -/
theorem rearranged_of_apply (h : b.apply p select reorder = .ok b') :
    b.Rearranged (p.landing b.columnIds) b' := by
  obtain ⟨columns, hf, rfl⟩ := apply_eq_ok_iff.mp h
  refine ⟨rfl, rfl, rfl, (map_eq_of_forall₂ (hf.imp ?_)).symm, fun c' hc' => ?_⟩
  · rintro c c' ⟨orders, -, rfl⟩
    rfl
  · obtain ⟨c, hc, orders, -, rfl⟩ := exists_of_forall₂_of_mem hf hc'
    exact (orderAll_perm orders select _).trans (b.cardsAfter_perm p c.id)

/-- A board after a plan has the cards of before, if no two columns have the same id. -/
theorem cards_perm_of_apply (h : b.apply p select reorder = .ok b') (hn : b.columnIds.Nodup) :
    b'.cards.Perm b.cards :=
  (rearranged_of_apply h).cards_perm hn fun card _ hm => Plan.landing_mem hm p card

end Board

/-- A plan and how to apply it. -/
structure PlanCall where
  plan : Plan
  /-- Which text of a card carries its tags. -/
  select : TextSelector
  /-- Are order tags obeyed? -/
  reorder : Bool

namespace Board

variable {b b' : Board}

/-- Apply a plan as it says. -/
def applyCall (b : Board) (call : PlanCall) : Except Overlong Board :=
  b.apply call.plan call.select call.reorder

/-- Apply some plans, one after the other. -/
def applyAll (b : Board) (calls : List PlanCall) : Except Overlong Board :=
  calls.foldlM applyCall b

/-- A board after some plans is a rearrangement by where the plans land its
cards. -/
theorem rearranged_of_applyAll (hn : b.columnIds.Nodup) {calls : List PlanCall}
    (h : b.applyAll calls = .ok b') :
    b.Rearranged (fun card home => landingAfter b.columnIds card (calls.map PlanCall.plan) home) b' := by
  induction calls generalizing b with
  | nil =>
    cases h
    exact .refl hn
  | cons call calls ih =>
    obtain ⟨b₁, h₁, h⟩ := bind_eq_ok_iff.mp h
    have hr := rearranged_of_apply h₁
    have hi := ih (hr.columnIds_eq ▸ hn) h
    rw [hr.columnIds_eq] at hi
    exact hr.trans hi hn (fun card home hm => Plan.landing_mem hm call.plan card)

/-- Plans that cannot all be applied need a header that cannot be read. -/
theorem exists_of_applyAll_eq_error {calls : List PlanCall} {cause : Overlong}
    (h : b.applyAll calls = .error cause) :
    ∃ call ∈ calls, call.reorder = true ∧
      ∃ c ∈ b.columns, ColumnRules.read c.title = .error cause := by
  induction calls generalizing b with
  | nil => cases h
  | cons call calls ih =>
    rcases bind_eq_error_iff.mp h with h | ⟨b₁, h₁, h⟩
    · obtain ⟨hr, hc⟩ := exists_of_apply_eq_error h
      exact ⟨call, List.mem_cons_self, hr, hc⟩
    · obtain ⟨call', hm, hr, c, hc, he⟩ := ih h
      refine ⟨call', List.mem_cons_of_mem call hm, hr, ?_⟩
      -- the headers are those of the board before
      have ht := congrArg (List.map Prod.snd) (rearranged_of_apply h₁).columns
      rw [List.map_map, List.map_map] at ht
      have hct : c.title ∈ b₁.columns.map (Prod.snd ∘ fun c => (c.id, c.title)) :=
        List.mem_map_of_mem (f := Prod.snd ∘ fun c : Column => (c.id, c.title)) hc
      rw [ht] at hct
      obtain ⟨d, hd, hdt⟩ := List.mem_map.mp hct
      have hdt' : d.title = c.title := hdt
      exact ⟨d, hd, by rw [hdt', he]⟩

/-- A board with the same title, front matter, footer and columns, and with the
same cards, each in the column where it lands. -/
structure Conserved (b : Board) (lands : Text → Text → Text → Prop)
    [∀ card home c, Decidable (lands card home c)] (b' : Board) : Prop where
  title : b'.title = b.title
  header : b'.header = b.header
  footer : b'.footer = b.footer
  columns : (b'.columns.map fun c => (c.id, c.title)) = b.columns.map fun c => (c.id, c.title)
  /-- No card is lost, duplicated or changed. -/
  cards : b'.cards.Perm b.cards
  /-- The cards of a column are those that land in it. -/
  landed : ∀ c ∈ b'.columns,
    c.cards.Perm (b.cardsWhere fun card home => decide (lands card home c.id))

/-- Rearranging a board conserves it. -/
theorem Rearranged.conserved {landing : Text → Text → Text} {lands : Text → Text → Text → Prop}
    [∀ card home c, Decidable (lands card home c)] (h : b.Rearranged landing b')
    (hn : b.columnIds.Nodup) (hm : ∀ card, ∀ home ∈ b.columnIds, landing card home ∈ b.columnIds)
    (hl : ∀ card home c, lands card home c ↔ landing card home = c) : b.Conserved lands b' := by
  refine ⟨h.title, h.header, h.footer, h.columns, h.cards_perm hn hm, fun c hc => ?_⟩
  have hd : (fun card home => decide (lands card home c.id)) =
      fun card home => landing card home == c.id := by
    funext card home
    rw [Bool.eq_iff_iff, decide_eq_true_iff, beq_iff_eq, hl]
  rw [hd]
  exact h.landed c hc

/-- Applying any plan to a board with distinct column ids conserves the board: each
card is where its last move leads if that is a column of the board, and else
where it was. The same holds after any run of plans. Nothing but a header that
cannot be read, when order tags are obeyed, stands in the way. -/
theorem apply_conserves (hn : b.columnIds.Nodup) :
    (∀ (p : Plan) (select : TextSelector) (reorder : Bool),
      (∃ b', b.apply p select reorder = .ok b' ∧ b.Conserved (p.Lands b.columnIds) b') ∨
      ∃ cause, b.apply p select reorder = .error cause ∧ reorder = true ∧
        ∃ c ∈ b.columns, ColumnRules.read c.title = .error cause) ∧
    ∀ calls : List PlanCall,
      (∃ b', b.applyAll calls = .ok b' ∧
        b.Conserved (fun card home c =>
          LandsAfter b.columnIds card (calls.map PlanCall.plan) home c) b') ∨
      ∃ cause, b.applyAll calls = .error cause ∧ (∃ call ∈ calls, call.reorder = true) ∧
        ∃ c ∈ b.columns, ColumnRules.read c.title = .error cause := by
  constructor
  · intro p select reorder
    cases h : b.apply p select reorder with
    | error cause =>
      right
      exact ⟨cause, rfl, exists_of_apply_eq_error h⟩
    | ok b' =>
      left
      refine ⟨b', rfl, (rearranged_of_apply h).conserved hn ?_ (fun _ _ _ => Plan.lands_iff)⟩
      exact fun card home hm => Plan.landing_mem hm p card
  · intro calls
    cases h : b.applyAll calls with
    | error cause =>
      right
      obtain ⟨call, hm, hr, hc⟩ := exists_of_applyAll_eq_error h
      exact ⟨cause, rfl, ⟨call, hm, hr⟩, hc⟩
    | ok b' =>
      left
      refine ⟨b', rfl, (rearranged_of_applyAll hn h).conserved hn ?_ (fun _ _ _ => landsAfter_iff)⟩
      exact fun card home hm => landingAfter_mem hm _ card

end Board

/-- Two columns with a card each, both of the same id. -/
def twinBoard : Board where
  columns := [
    ⟨"a".toList, "To do".toList, [⟨"x".toList, "one".toList, [], false⟩]⟩,
    ⟨"b".toList, "Done".toList, [⟨"x".toList, "two".toList, [], true⟩]⟩]
  title := []
  header := none
  footer := none

/-- A plan of another board: its last move of the cards leads nowhere. -/
def stalePlan : Plan where
  placements := [
    ⟨"x".toList, "a".toList, some "b".toList⟩,
    ⟨"y".toList, "a".toList, some "b".toList⟩,
    ⟨"x".toList, "b".toList, some "c".toList⟩]
  diagnostics := []

/-- The board of twins is conserved by the plan of another board. -/
theorem twinBoard_conserved :
    twinBoard.columnIds.Nodup ∧
      ∃ b', twinBoard.apply stalePlan TagSource.title false = .ok b' ∧
        twinBoard.Conserved (stalePlan.Lands twinBoard.columnIds) b' := by
  have hn : twinBoard.columnIds.Nodup := by decide
  refine ⟨hn, ?_⟩
  rcases (Board.apply_conserves hn).1 stalePlan TagSource.title false with h | ⟨_, _, hr, _⟩
  · exact h
  · cases hr

end GatherBoard
