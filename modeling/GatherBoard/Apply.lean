import GatherBoard.Plan

/-!
# Carrying out a plan

Applying a plan moves every card whose last move names a column of the
board; it joins that column after the cards that stay there, in board
order. The order tags of each column then reorder its cards, one stable
sort for each tag. Any plan can be applied, also a stale one: what names no
card or no column of the board has no effect.
-/

namespace GatherBoard

/-- The order of due dates, with no date after all dates. -/
def dueLe : Option Date → Option Date → Bool
  | some a, some b => a.le b
  | some _, none => true
  | none, some _ => false
  | none, none => true

/-- Does one card go before another, or equal with it? -/
def CardOrder.le (order : CardOrder) (select : TextSelector) (a b : Card) : Bool :=
  match order with
  | .byDate => dueLe (select.factsOf a).dueDate (select.factsOf b).dueDate
  | .byName => Text.le (Text.fold a.title) (Text.fold b.title)

/-- The cards in the given order; cards that are equal in it do not change
places. -/
def orderCards (order : CardOrder) (select : TextSelector) (cards : List Card) : List Card :=
  cards.mergeSort (order.le select)

/-- The cards in the order of this name. Without a name, and for one that is
not known, they stay as they are. -/
def orderCardsBy (name : Option Text) (select : TextSelector) (cards : List Card) : List Card :=
  match name.bind CardOrder.read? with
  | some order => orderCards order select cards
  | none => cards

/-- The cards in one order after another, so that the last has the most
weight. -/
def orderAll (orders : List CardOrder) (select : TextSelector) (cards : List Card) : List Card :=
  orders.foldl (fun cards order => orderCards order select cards) cards

/-- Where the last move of a card leads. -/
def Plan.destination? (p : Plan) (card : Text) : Option Text :=
  (p.moves.reverse.find? fun move => move.card == card).bind Placement.target

/-- The column of the board that a card leaves its own for. -/
def Board.newColumn? (b : Board) (p : Plan) (card : Card) : Option Text :=
  (p.destination? card.id).filter fun target => b.columns.any fun column => column.id == target

/-- The cards of the column named by an id after the moves: those that stay,
and then those that arrive. -/
def Board.cardsAfter (b : Board) (p : Plan) (column : Text) : List Card :=
  let staying := b.traversal.filter fun (home, card) =>
    home.id == column && (b.newColumn? p card).isNone
  let arriving := b.traversal.filter fun (_, card) => b.newColumn? p card == some column
  (staying ++ arriving).map Prod.snd

/-- A column of the board after a plan. With `reorder`, the order tags of the
column put its cards in order. -/
def Board.columnAfter (b : Board) (p : Plan) (select : TextSelector) (reorder : Bool)
    (column : Column) : Except Overlong Column := do
  let cards := b.cardsAfter p column.id
  if reorder then
    let rules ← ColumnRules.read column.title
    return { column with cards := orderAll rules.orders select cards }
  else
    return { column with cards := cards }

/-- The board after a plan. -/
def Board.apply (b : Board) (p : Plan) (select : TextSelector) (reorder : Bool) :
    Except Overlong Board := do
  let columns ← b.columns.mapM (b.columnAfter p select reorder)
  return { b with columns := columns }

end GatherBoard
