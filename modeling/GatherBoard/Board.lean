import GatherBoard.Facts

/-!
# Boards

A board is a list of columns and a column is a list of cards. The title,
front matter and footer of the board's file go along unread. Cards and
columns are named by ids; nothing keeps two of them from having one id.
-/

namespace GatherBoard

/-- A card on the board. -/
structure Card where
  /-- The name of the card in plans. -/
  id : Text
  /-- One line of text. -/
  title : Text
  /-- More text, possibly none. -/
  description : Text
  /-- Is the card's box ticked? -/
  done : Bool
  deriving DecidableEq, Repr

/-- A column; its title carries its rules. -/
structure Column where
  /-- The name of the column in plans. -/
  id : Text
  /-- The heading, tags included. -/
  title : Text
  /-- The cards from top to bottom. -/
  cards : List Card
  deriving DecidableEq, Repr

/-- A board with what its file holds around it. -/
structure Board where
  /-- The columns from left to right. -/
  columns : List Column
  /-- The title, possibly none. -/
  title : Text
  /-- The front matter of the file, its marks included. -/
  header : Option Text
  /-- The end of the file from the footer mark on. -/
  footer : Option Text
  deriving DecidableEq, Repr

/-- Title and description with a space between, or the title alone. -/
def Card.fullText (c : Card) : Text :=
  if c.description.isEmpty then c.title else c.title ++ ' ' :: c.description

/-- Which text of a card carries its tags: any function will do. -/
abbrev TextSelector := Card → Text

/-- The facts of a card. -/
def TextSelector.factsOf (select : TextSelector) (c : Card) : Facts := Facts.ofText (select c)

/-- The two selectors that have a name. -/
inductive TagSource where
  | title
  | titleAndDescription
  deriving DecidableEq, Repr

/-- The text of a card that carries its tags. -/
def TagSource.textOf (source : TagSource) (c : Card) : Text :=
  match source with
  | .title => c.title
  | .titleAndDescription => c.fullText

/-- A name stands for its selector. -/
instance : Coe TagSource TextSelector := ⟨TagSource.textOf⟩

namespace Board

/-- A board without anything. -/
def empty : Board := ⟨[], [], none, none⟩

/-- The cards in board order, each with its column. -/
def traversal (b : Board) : List (Column × Card) :=
  b.columns.flatMap fun column => column.cards.map fun card => (column, card)

/-- The cards in board order. -/
def cards (b : Board) : List Card := b.columns.flatMap Column.cards

/-- The title of the last card with this id. -/
def cardTitle? (b : Board) (id : Text) : Option Text :=
  (b.cards.reverse.find? fun card => card.id == id).map Card.title

/-- The title of the last column with this id. -/
def columnTitle? (b : Board) (id : Text) : Option Text :=
  (b.columns.reverse.find? fun column => column.id == id).map Column.title

end Board

end GatherBoard
