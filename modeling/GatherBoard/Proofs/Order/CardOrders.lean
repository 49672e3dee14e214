import GatherBoard.Apply
import GatherBoard.Proofs.Order.StableSort
import GatherBoard.Proofs.Outcome

/-!
# The orders of cards

Cards are ordered by dates and by names, and by both in turn. Cards that are in
order stay as they are, and so do other cards with the same texts.
-/

namespace GatherBoard

/-- Dates can be sorted. -/
theorem isSortOrder_date : IsSortOrder Date.le := by
  constructor
  · intro a b c hab hbc
    simp only [Date.le, Bool.or_eq_true, Bool.and_eq_true, decide_eq_true_eq, beq_iff_eq] at *
    omega
  · intro a b
    simp only [Date.le, Bool.or_eq_true, Bool.and_eq_true, decide_eq_true_eq, beq_iff_eq]
    omega

/-- Due dates can be sorted, with no date after all dates. -/
theorem isSortOrder_dueLe : IsSortOrder dueLe := by
  constructor
  · intro a b c hab hbc
    cases a with
    | none =>
      cases b with
      | none => exact hbc
      | some b => cases hab
    | some a =>
      cases b with
      | none =>
        cases c with
        | none => rfl
        | some c => cases hbc
      | some b =>
        cases c with
        | none => rfl
        | some c => exact isSortOrder_date.trans a b c hab hbc
  · intro a b
    cases a with
    | none => cases b <;> rfl
    | some a =>
      cases b with
      | none => rfl
      | some b => exact isSortOrder_date.total a b

/-- Texts can be sorted. -/
theorem isSortOrder_textLe : IsSortOrder Text.le := by
  have hle (s t : Text) : Text.le s t = true ↔ List.le s t := by
    unfold Text.le
    rw [Bool.not_eq_true', decide_eq_false_iff_not]
  constructor
  · intro r s t hrs hst
    rw [hle] at *
    exact List.le_trans hrs hst
  · intro s t
    rw [Bool.or_eq_true, hle, hle]
    exact List.le_total s t

/-- Sorting by a key needs an order of the keys. -/
theorem IsSortOrder.on {α κ : Type} {le : κ → κ → Bool} (h : IsSortOrder le) (key : α → κ) :
    IsSortOrder fun a b => le (key a) (key b) :=
  ⟨fun a b c => h.trans (key a) (key b) (key c), fun a b => h.total (key a) (key b)⟩

/-- Cards can be sorted by each order. -/
theorem isSortOrder_le (order : CardOrder) (select : TextSelector) :
    IsSortOrder (order.le select) := by
  cases order with
  | byDate => exact isSortOrder_dueLe.on fun c : Card => (select.factsOf c).dueDate
  | byName => exact isSortOrder_textLe.on fun c : Card => Text.fold c.title

/-- All orders in turn, the last of them first. -/
def CardOrder.allLe (orders : List CardOrder) (select : TextSelector) : Card → Card → Bool :=
  inTurn (orders.map fun order => order.le select)

/-- Cards can be sorted by each of some orders. -/
theorem isSortOrder_of_mem {orders : List CardOrder} {select : TextSelector}
    {le : Card → Card → Bool} (h : le ∈ orders.map fun order => order.le select) :
    IsSortOrder le := by
  obtain ⟨order, -, rfl⟩ := List.mem_map.mp h
  exact isSortOrder_le order select

/-- Orders in turn can be sorted by. -/
theorem isSortOrder_allLe (orders : List CardOrder) (select : TextSelector) :
    IsSortOrder (CardOrder.allLe orders select) :=
  isSortOrder_inTurn fun _ h => isSortOrder_of_mem h

/-- Putting cards in one order after another is sorting them once. -/
theorem orderAll_eq_mergeSort (orders : List CardOrder) (select : TextSelector)
    (cards : List Card) :
    orderAll orders select cards = cards.mergeSort (CardOrder.allLe orders select) := by
  rw [CardOrder.allLe, ← foldl_mergeSort (fun _ h => isSortOrder_of_mem h), List.foldl_map]
  rfl

/-- Cards that were put in some orders are in order. -/
theorem pairwise_orderAll (orders : List CardOrder) (select : TextSelector) (cards : List Card) :
    (orderAll orders select cards).Pairwise fun a b => CardOrder.allLe orders select a b = true := by
  rw [orderAll_eq_mergeSort]
  exact (isSortOrder_allLe orders select).pairwise_mergeSort cards

/-- Cards that are in order stay as they are. -/
theorem orderAll_of_pairwise {orders : List CardOrder} {select : TextSelector} {cards : List Card}
    (h : cards.Pairwise fun a b => CardOrder.allLe orders select a b = true) :
    orderAll orders select cards = cards := by
  rw [orderAll_eq_mergeSort, List.mergeSort_of_pairwise h]

/-- Cards that were put in some orders stay as they are in these orders. -/
theorem orderAll_orderAll (orders : List CardOrder) (select : TextSelector) (cards : List Card) :
    orderAll orders select (orderAll orders select cards) = orderAll orders select cards :=
  orderAll_of_pairwise (pairwise_orderAll orders select cards)

/-- Two cards with the same title and description. -/
def SameText (a b : Card) : Prop := a.title = b.title ∧ a.description = b.description

/-- Cards with the same texts have the same tags, in whichever text tags are. -/
theorem TagSource.textOf_eq (source : TagSource) {a b : Card} (h : SameText a b) :
    source.textOf a = source.textOf b := by
  cases source with
  | title => exact h.1
  | titleAndDescription => simp only [TagSource.textOf, Card.fullText, h.1, h.2]

/-- Cards with the same texts have the same places in every order. -/
theorem CardOrder.le_eq (order : CardOrder) (source : TagSource) {a a' b b' : Card}
    (ha : SameText a a') (hb : SameText b b') : order.le source a b = order.le source a' b' := by
  cases order with
  | byDate => simp only [le, TextSelector.factsOf, source.textOf_eq ha, source.textOf_eq hb]
  | byName => rw [le, ha.1, hb.1, le]

/-- Cards with the same texts have the same places in orders in turn. -/
theorem CardOrder.allLe_eq (orders : List CardOrder) (source : TagSource) {a a' b b' : Card}
    (ha : SameText a a') (hb : SameText b b') :
    allLe orders source a b = allLe orders source a' b' := by
  unfold allLe
  induction orders generalizing a a' b b' with
  | nil => rfl
  | cons order orders ih =>
    rw [List.map_cons, inTurn, inTurn, thenBy, thenBy, ih ha hb, ih hb ha, order.le_eq source ha hb]

/-- What holds for all pairs of a list holds for those of a related one. -/
theorem pairwise_of_forall₂ {α : Type} {S R : α → α → Prop} {l l' : List α}
    (h : List.Forall₂ S l l') (hr : ∀ a a' b b', S a a' → S b b' → R a b → R a' b')
    (hl : l.Pairwise R) : l'.Pairwise R := by
  induction h with
  | nil => exact .nil
  | @cons a a' l l' ha h ih =>
    obtain ⟨hal, hl⟩ := List.pairwise_cons.mp hl
    refine List.pairwise_cons.mpr ⟨fun b' hb' => ?_, ih hl⟩
    obtain ⟨b, hb, hs⟩ := exists_of_forall₂_of_mem h hb'
    exact hr a a' b b' ha hs (hal b hb)

/-- Cards stay as they are if cards with the same texts do, since they were put in
these orders. -/
theorem orderAll_of_sameText (orders : List CardOrder) (source : TagSource) {cards cards' : List Card}
    (h : List.Forall₂ SameText (orderAll orders source cards) cards') :
    orderAll orders source cards' = cards' := by
  refine orderAll_of_pairwise (pairwise_of_forall₂ h (fun a a' b b' ha hb hab => ?_)
    (pairwise_orderAll orders source cards))
  rwa [← CardOrder.allLe_eq orders source ha hb]

end GatherBoard
