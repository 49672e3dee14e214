import GatherBoard.Text.Basic

/-!
# Reports in JSON

A report is a tree of texts, truth values, lists and records whose fields
keep their order. It is written with two spaces of indentation for every
level, and with ASCII characters only.
-/

namespace GatherBoard

/-- A report. -/
inductive Json where
  | null
  | bool (b : Bool)
  | text (t : Text)
  | list (items : List Json)
  | record (fields : List (Text × Json))

namespace Json

/-- A sixteen-bit unit by its number. -/
def unit (n : Nat) : Text := '\\' :: 'u' :: Text.hex 4 n

/-- One character inside a JSON text. Characters past the sixteen-bit codes
are written as the two units of a surrogate pair. -/
def escape (c : Char) : Text :=
  let n := c.toNat
  if c = '"' || c = '\\' then ['\\', c]
  else if c = '\n' then ['\\', 'n']
  else if c = '\r' then ['\\', 'r']
  else if c = '\t' then ['\\', 't']
  else if n = 8 then ['\\', 'b']
  else if n = 12 then ['\\', 'f']
  else if 32 ≤ n && n < 127 then [c]
  else if n < 0x10000 then unit n
  else unit (0xD800 + (n - 0x10000) / 0x400) ++ unit (0xDC00 + (n - 0x10000) % 0x400)

/-- A text between double quotes. -/
def quote (t : Text) : Text := '"' :: t.flatMap escape ++ ['"']

/-- A line break and the indentation of a level. -/
def newLine (level : Nat) : Text := '\n' :: List.replicate (2 * level) ' '

/-- Parts between brackets, each on lines of its own. -/
def enclose (level : Nat) (opening closing : Char) (parts : List Text) : Text :=
  if parts.isEmpty then [opening, closing]
  else
    opening :: newLine (level + 1) ++ Text.joinWith (',' :: newLine (level + 1)) parts ++
      newLine level ++ [closing]

mutual

/-- A report that stands at a level of indentation. -/
def writeAt (level : Nat) : Json → Text
  | .null => "null".toList
  | .bool b => if b then "true".toList else "false".toList
  | .text t => quote t
  | .list items => enclose level '[' ']' (writeItems (level + 1) items)
  | .record fields => enclose level '\x7b' '\x7d' (writeFields (level + 1) fields)

/-- The items of a list. -/
def writeItems (level : Nat) : List Json → List Text
  | [] => []
  | item :: more => writeAt level item :: writeItems level more

/-- The fields of a record. -/
def writeFields (level : Nat) : List (Text × Json) → List Text
  | [] => []
  | (key, value) :: more =>
    (quote key ++ ": ".toList ++ writeAt level value) :: writeFields level more

end

/-- The text of a report. -/
def write (j : Json) : Text := writeAt 0 j

/-- The text of a value, or null for none. -/
def ofOption {α : Type} (write : α → Text) : Option α → Json
  | some a => .text (write a)
  | none => .null

end Json

end GatherBoard
