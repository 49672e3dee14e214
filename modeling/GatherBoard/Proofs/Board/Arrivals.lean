import GatherBoard.Proofs.Board.Conservation
import GatherBoard.Proofs.Order.SortKeys

/-!
# Kept and arriving cards

After a plan a column has the cards that it kept, in their old order, and then those that arrive,
in board order. Its order tags then put all of them in order, which is one stable sort by the keys
of all tags.
-/

namespace GatherBoard

/-- Whether the last move of a card leads to a target can be computed. -/
instance (p : Plan) (card target : Text) : Decidable (p.LastMove card target) :=
  decidable_of_iff _ Plan.destination?_eq_some_iff

/-- The last move of a card leads to one of some columns. -/
def Plan.Takes (p : Plan) (ids : List Text) (card : Text) : Prop :=
  ∃ target ∈ ids, p.LastMove card target

/-- Whether a plan takes a card to one of some columns can be computed. -/
instance (p : Plan) (ids : List Text) (card : Text) : Decidable (p.Takes ids card) :=
  inferInstanceAs (Decidable (∃ target ∈ ids, p.LastMove card target))

namespace Board

variable {b : Board} {p : Plan} {card : Card} {id target : Text} {c : Column}

/-- The cards of a column that a plan takes to no column of the board, in their order. -/
def keptCards (b : Board) (p : Plan) (id : Text) : List Card :=
  (b.cardsWhere fun _ home => home == id).filter fun card => ¬ p.Takes b.columnIds card.id

/-- The cards of the board whose last move leads to a column, in board order. -/
def arrivingCards (b : Board) (p : Plan) (id : Text) : List Card :=
  b.cards.filter fun card => p.LastMove card.id id

/-- A column with the cards that it kept and then those that arrive, put in some orders. -/
def refilled (b : Board) (p : Plan) (select : TextSelector) (c : Column)
    (orders : List CardOrder) : Column :=
  { c with cards := orderAll orders select (b.keptCards p c.id ++ b.arrivingCards p c.id) }

/-- A card goes to a new column if its last move leads there and the column is on the board. -/
theorem newColumn?_eq_some_iff :
    b.newColumn? p card = some target ↔ p.LastMove card.id target ∧ target ∈ b.columnIds := by
  rw [newColumn?_eq, Option.filter_eq_some_iff, Plan.destination?_eq_some_iff, decide_eq_true_iff]

/-- A card stays if the plan takes it to no column of the board. -/
theorem newColumn?_eq_none_iff :
    b.newColumn? p card = none ↔ ¬ p.Takes b.columnIds card.id := by
  rw [Option.eq_none_iff_forall_ne_some, Plan.Takes, not_exists]
  refine forall_congr' fun target => ?_
  rw [ne_eq, newColumn?_eq_some_iff, and_comm]

/-- After the moves a column of the board has the cards it kept and then those that arrive. -/
theorem cardsAfter_eq_append (h : id ∈ b.columnIds) :
    b.cardsAfter p id = b.keptCards p id ++ b.arrivingCards p id := by
  have hkept : (b.traversal.filter fun x => x.1.id == id && (b.newColumn? p x.2).isNone).map
      Prod.snd = b.keptCards p id := by
    rw [keptCards, cardsWhere, List.filter_map, List.filter_filter]
    refine congrArg (List.map Prod.snd) (List.filter_congr fun x _ => ?_)
    rw [Bool.eq_iff_iff, Bool.and_eq_true, Bool.and_eq_true, Option.isNone_iff_eq_none,
      newColumn?_eq_none_iff, Function.comp_apply, decide_eq_true_iff, and_comm]
  have harriving : (b.traversal.filter fun x => b.newColumn? p x.2 == some id).map Prod.snd =
      b.arrivingCards p id := by
    rw [arrivingCards, ← map_snd_traversal, List.filter_map]
    refine congrArg (List.map Prod.snd) (List.filter_congr fun x _ => ?_)
    rw [Bool.eq_iff_iff, beq_iff_eq, newColumn?_eq_some_iff, Function.comp_apply,
      decide_eq_true_iff, and_iff_left h]
  rw [cardsAfter_eq, List.map_append, hkept, harriving]

/-- Where no two columns have the same id, a column keeps those of its own cards that the plan
takes nowhere. -/
theorem keptCards_of_mem (hn : b.columnIds.Nodup) (hc : c ∈ b.columns) (p : Plan) :
    b.keptCards p c.id = c.cards.filter fun card => ¬ p.Takes b.columnIds card.id := by
  rw [keptCards, cardsWhere_home hn hc]

/-- Applying a plan refills each column, in the orders of its header. -/
theorem apply_eq (b : Board) (p : Plan) (select : TextSelector) (reorder : Bool) :
    b.apply p select reorder =
      (b.columns.mapM fun c => (ordersFor reorder c.title).map (b.refilled p select c)).map
        fun columns => { b with columns := columns } := by
  have hcolumns : b.columns.mapM (b.columnAfter p select reorder) =
      b.columns.mapM fun c => (ordersFor reorder c.title).map (b.refilled p select c) := by
    refine mapM_congr fun c hc => ?_
    rw [columnAfter_eq, cardsAfter_eq_append (List.mem_map_of_mem hc)]
    rfl
  rw [apply, hcolumns]
  rfl

/-- Orders of cards are one stable sort. Applying them by their names, one after the other, leaves
the only list that has the cards in the order of all their keys, the key of the last order first,
and cards with the same keys in their places among each other. Of each order only the last
occurrence counts, and once in order the cards stay as they are. Applying a plan does this in each
column, with the orders of its header, to the cards that it kept and then those that arrive. -/
theorem orders_sort_once (select : TextSelector) :
    (∀ orders cards,
      orders.foldl (fun cards order => orderCardsBy (some order.label) select cards) cards =
        orderAll orders select cards ∧
      IsStableSort (List.Lex SortKey.Before) (CardOrder.keys orders select) cards
        (orderAll orders select cards) ∧
      (∀ sorted,
        IsStableSort (List.Lex SortKey.Before) (CardOrder.keys orders select) cards sorted →
          sorted = orderAll orders select cards) ∧
      orderAll orders.dedup select cards = orderAll orders select cards ∧
      orderAll orders select (orderAll orders select cards) = orderAll orders select cards) ∧
    ∀ (b : Board) (p : Plan) (reorder : Bool),
      b.apply p select reorder =
        (b.columns.mapM fun c => (ordersFor reorder c.title).map (b.refilled p select c)).map
          (fun columns => { b with columns := columns }) ∧
      (b.columnIds.Nodup → ∀ c ∈ b.columns,
        b.keptCards p c.id = c.cards.filter fun card => ¬ p.Takes b.columnIds card.id) := by
  constructor
  · intro orders cards
    exact ⟨foldl_orderCardsBy orders select cards, isStableSort_orderAll orders select cards,
      fun sorted h => h.eq_orderAll, orderAll_dedup orders select cards,
      orderAll_orderAll orders select cards⟩
  · intro b p reorder
    exact ⟨apply_eq b p select reorder, fun hn c hc => keptCards_of_mem hn hc p⟩

end Board

/-- A card with a due date in its title. -/
def sweepCard : Card := ⟨"1".toList, "Sweep @2033-04-02".toList, [], false⟩

/-- A card with the same id and another title. -/
def annCard : Card := ⟨"1".toList, "sweep @Ann".toList, [], true⟩

/-- A card without tags. -/
def washCard : Card := ⟨"2".toList, "Wash".toList, [], false⟩

/-- A column with two cards of one id, and a column in two orders, one of them twice. -/
def choreBoard : Board where
  columns := [
    ⟨"t".toList, "Todo #sort-byname".toList, [sweepCard, annCard]⟩,
    ⟨"d".toList, "Done #sort-byname #sort-bydate #sort-bydate".toList, [washCard]⟩]
  title := []
  header := none
  footer := none

/-- A plan with a column that is on no board, a card that is on no board, and placements that
contradict each other. -/
def chorePlan : Plan where
  placements := [
    ⟨"1".toList, "t".toList, some "x".toList⟩,
    ⟨"1".toList, "t".toList, some "d".toList⟩,
    ⟨"1".toList, "d".toList, some "d".toList⟩,
    ⟨"2".toList, "d".toList, some "t".toList⟩,
    ⟨"2".toList, "d".toList, some "x".toList⟩,
    ⟨"3".toList, "t".toList, some "d".toList⟩]
  diagnostics := []

/-- The orders of the second column. -/
def choreOrders : List CardOrder := [.byName, .byDate, .byDate]

/-- The second column keeps its card before the two that arrive, and has the dated card first when
it is put in order, as by two of its three orders. -/
theorem choreBoard_sorted_once :
    (choreBoard.columnIds.Nodup ∧ ∀ c ∈ choreBoard.columns, choreBoard.keptCards chorePlan c.id =
      c.cards.filter fun card => ¬ chorePlan.Takes choreBoard.columnIds card.id) ∧
    choreBoard.keptCards chorePlan "d".toList = [washCard] ∧
    choreBoard.arrivingCards chorePlan "d".toList = [sweepCard, annCard] ∧
    ordersFor true "Done #sort-byname #sort-bydate #sort-bydate".toList = .ok choreOrders ∧
    orderAll choreOrders TagSource.title [washCard, sweepCard, annCard] =
      [sweepCard, annCard, washCard] ∧
    orderAll [.byName, .byDate] TagSource.title [washCard, sweepCard, annCard] =
      [sweepCard, annCard, washCard] := by
  have hn : choreBoard.columnIds.Nodup := by decide
  obtain ⟨horders, happly⟩ := Board.orders_sort_once TagSource.title
  obtain ⟨-, -, -, hdedup, -⟩ := horders choreOrders [washCard, sweepCard, annCard]
  obtain ⟨-, hkept⟩ := happly choreBoard chorePlan true
  have hsorted : orderAll choreOrders TagSource.title [washCard, sweepCard, annCard] =
      [sweepCard, annCard, washCard] := by
    have hws : CardOrder.allLe choreOrders TagSource.title washCard sweepCard = false := by
      decide +kernel
    have hwa : CardOrder.allLe choreOrders TagSource.title washCard annCard = false := by
      decide +kernel
    have hsa : CardOrder.allLe choreOrders TagSource.title sweepCard annCard = true := by
      decide +kernel
    rw [orderAll_eq_mergeSort]
    simp [List.mergeSort, List.MergeSort.Internal.splitInTwo, hws, hwa, hsa]
  exact ⟨⟨hn, hkept hn⟩, by decide +kernel, by decide +kernel, by decide +kernel, hsorted,
    hdedup.trans hsorted⟩

end GatherBoard
