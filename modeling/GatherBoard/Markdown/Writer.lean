import GatherBoard.Board
import GatherBoard.Text.Blank
import GatherBoard.Text.Lines

/-!
# Writing a board file

A board is written as front matter, title, one section for each column and
footer. Descriptions are indented, which keeps their lines from being read
as anything else. Without a footer the file ends in exactly one line break.
-/

namespace GatherBoard.Markdown

/-- One line with its break. -/
def line (t : Text) : Text := t ++ ['\n']

/-- A description, each line indented; a blank one is not written. -/
def writeDescription (description : Text) : Text :=
  if (Text.trim description).isEmpty then []
  else (description.splitOn '\n').flatMap fun part => line (' ' :: ' ' :: part)

/-- A card as an item with a box and its description. -/
def writeCard (c : Card) : Text :=
  line ("- [".toList ++ [if c.done then 'x' else ' '] ++ "] ".toList ++ c.title) ++
    writeDescription c.description

/-- A column as a heading with its cards and an empty line. -/
def writeColumn (c : Column) : Text :=
  line ("## ".toList ++ c.title) ++ c.cards.flatMap writeCard ++ ['\n']

/-- The front matter with an empty line, if there is any. -/
def writeHeader (b : Board) : Text :=
  match b.header with
  | some header => if header.isEmpty then [] else line (line header)
  | none => []

/-- The title with an empty line, if there is one. -/
def writeTitle (b : Board) : Text :=
  if b.title.isEmpty then [] else line (line ("# ".toList ++ b.title))

/-- All of a board but its footer. -/
def writeBody (b : Board) : Text :=
  writeHeader b ++ writeTitle b ++ b.columns.flatMap writeColumn

/-- The body with a footer: no empty line before it, and a break after. -/
def writeWithFooter (body footer : Text) : Text :=
  (if ['\n', '\n'].isSuffixOf body then body.dropLast else body) ++
    (if ['\n'].isSuffixOf footer then footer else line footer)

/-- The text of a board file. -/
def write (b : Board) : Text :=
  match b.footer.filter fun footer => !footer.isEmpty with
  | some footer => writeWithFooter (writeBody b) footer
  | none => line (Text.trimEnd (writeBody b))

end GatherBoard.Markdown
