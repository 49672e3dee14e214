import GatherBoard.Event
import GatherBoard.Text.Blank
import GatherBoard.Text.Lines

/-!
# Reading a board file

A file is front matter, then a body, then a footer. The body is read line
by line into marks: the title, headings of columns, items, and other text.
Text after an item is its description. Ids are given by position, so that a
file that has not changed gives the same ids again.
-/

namespace GatherBoard.Markdown

/-- What begins and ends front matter. -/
def frontMark : Text := ['-', '-', '-']

/-- What begins the footer. -/
def footerMark : Text := ['%', '%']

/-- What begins the title line. -/
def titleMark : Text := ['#', ' ']

/-- What begins the heading of a column. -/
def headingMark : Text := ['#', '#', ' ']

/-- What begins an item. -/
def itemMark : Text := ['-', ' ']

/-- The three parts of a file, in lines. -/
structure Parts where
  /-- The front matter with its marks. -/
  front : List Text
  /-- Is the front matter without its closing mark? -/
  isOpen : Bool
  /-- The lines between front matter and footer. -/
  body : List Text
  /-- The footer from its mark on. -/
  footer : List Text
  deriving DecidableEq, Repr

/-- Cut lines after the first one with the closing mark, if there is one. -/
def closeFront? : List Text → Option (List Text × List Text)
  | [] => none
  | line :: rest =>
    if frontMark.isPrefixOf line then some ([line], rest)
    else (closeFront? rest).map fun (front, body) => (line :: front, body)

/-- Cut lines before the first one with the footer mark. -/
def cutFooter (ls : List Text) : List Text × List Text :=
  ls.span fun line => !footerMark.isPrefixOf line

/-- Cut a file into its three parts. Front matter is only at the very top,
and without a closing mark it is all of the file. -/
def Parts.ofLines : List Text → Parts
  | [] => ⟨[], false, [], []⟩
  | first :: rest =>
    if frontMark.isPrefixOf first then
      match closeFront? rest with
      | some (front, rest) =>
        let (body, footer) := cutFooter rest
        ⟨first :: front, false, body, footer⟩
      | none => ⟨first :: rest, true, [], []⟩
    else
      let (body, footer) := cutFooter (first :: rest)
      ⟨[], false, body, footer⟩

/-- What a line of the body is. -/
inductive Mark where
  /-- A title line with its trimmed text. -/
  | title (t : Text)
  /-- The heading of a column with its trimmed text. -/
  | heading (t : Text)
  /-- A whole item line. -/
  | item (line : Text)
  /-- Any other line. -/
  | plain (line : Text)
  deriving DecidableEq, Repr

/-- What a line is, when the title is or is not yet known. -/
def Mark.ofLine (titled : Bool) (line : Text) : Mark :=
  match if titled then none else titleMark.isPrefixOf? line with
  | some rest => .title (Text.trim rest)
  | none =>
    match headingMark.isPrefixOf? line with
    | some rest => .heading (Text.trim rest)
    | none => if itemMark.isPrefixOf line then .item line else .plain line

/-- Is the title known after this mark? -/
def Mark.settlesTitle : Mark → Bool
  | .title t => !t.isEmpty
  | _ => false

/-- The marks of the lines of a body. A title line counts as one as long as
all titles before it are empty. -/
def marks (titled : Bool) : List Text → List Mark
  | [] => []
  | line :: rest =>
    let mark := Mark.ofLine titled line
    mark :: marks (titled || mark.settlesTitle) rest

/-- An item line and the lines of text after it. -/
structure Item where
  line : Text
  notes : List Text
  deriving DecidableEq, Repr

/-- A heading and the items below it. -/
structure Section where
  heading : Text
  items : List Item
  deriving DecidableEq, Repr

/-- A body from some line on, grouped as far as it can be told. -/
structure Outline where
  /-- Text that belongs to the item above, if there is one. -/
  notes : List Text
  /-- Items that belong to the heading above, if there is one. -/
  items : List Item
  /-- The sections further down. -/
  sections : List Section
  deriving DecidableEq, Repr

/-- Put one mark above an outline. A title line ends a description. -/
def Outline.addAbove (mark : Mark) (outline : Outline) : Outline :=
  match mark with
  | .title _ => { outline with notes := [] }
  | .heading t => ⟨[], [], ⟨t, outline.items⟩ :: outline.sections⟩
  | .item line => { outline with notes := [], items := ⟨line, outline.notes⟩ :: outline.items }
  | .plain line => { outline with notes := line :: outline.notes }

/-- The outline of all marks of a body. -/
def Outline.ofMarks (ms : List Mark) : Outline := ms.foldr Outline.addAbove ⟨[], [], []⟩

/-- The title among some marks: the first that is not empty. -/
def titleOf (ms : List Mark) : Text :=
  (ms.findSome? fun mark =>
    match mark with
    | .title t => if t.isEmpty then none else some t
    | _ => none).getD []

/-- The box and the title of an item, from the trimmed text of its line. -/
def readBox (t : Text) : Bool × Text :=
  match ['[', ' ', ']', ' '].isPrefixOf? t with
  | some rest => (false, Text.trim rest)
  | none =>
    match ['[', 'x', ']', ' '].isPrefixOf? t with
    | some rest => (true, Text.trim rest)
    | none => (false, t)

/-- A description: its lines without indentation, and no blank end. -/
def describe (notes : List Text) : Text :=
  Text.trimEnd (Text.unlines (notes.map Text.trimStart))

/-- The id of the column at a place counted from 1. -/
def columnId (place : Nat) : Text := "col-".toList ++ Text.ofNat place

/-- The id of the card at a place in a column. -/
def cardId (column : Text) (place : Nat) : Text := column ++ "-card-".toList ++ Text.ofNat place

/-- The card of an item with the given id. -/
def Item.card (item : Item) (id : Text) : Card :=
  let (done, title) := readBox (Text.trim (item.line.drop 2))
  ⟨id, title, describe item.notes, done⟩

/-- The column of a section with the given id. -/
def Section.column (s : Section) (id : Text) : Column :=
  ⟨id, s.heading, s.items.mapIdx fun i item => item.card (cardId id (i + 1))⟩

/-- A part of a file as one text, if it has any lines. -/
def block? (ls : List Text) : Option Text := if ls.isEmpty then none else some (Text.unlines ls)

/-- A board that was read, and what there is to say about its file. -/
structure Reading where
  board : Board
  events : List Event
  deriving DecidableEq, Repr

/-- Read the text of a board file. -/
def read (t : Text) : Reading :=
  let parts := Parts.ofLines (Text.lines t)
  let ms := marks false parts.body
  let outline := Outline.ofMarks ms
  { board :=
      { columns := outline.sections.mapIdx fun i s => s.column (columnId (i + 1))
        title := titleOf ms
        header := block? parts.front
        footer := block? parts.footer }
    events := outline.items.map (fun item => Event.strayCard item.line) ++
      (if parts.isOpen then [Event.openFrontMatter] else []) }

end GatherBoard.Markdown
