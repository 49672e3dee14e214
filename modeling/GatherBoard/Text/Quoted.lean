import GatherBoard.Text.Basic
import GatherBoard.Text.PrintableTable

/-!
# Quoted texts

Messages show a piece of input between quote marks. The mark is a single
quote, or a double quote where the text holds single quotes only; inside,
the mark and the backslash are escaped, and characters without a printed
form are written by their number.
-/

namespace GatherBoard.Text

/-- Characters that stand for themselves in a quoted text. -/
def isPrinted (c : Char) : Bool :=
  let n := c.toNat
  if n < 127 then 32 ≤ n else !(unprintedRanges.any fun range => range.1 ≤ n && n ≤ range.2)

/-- A character by its number, in the shortest of the three widths. -/
def escapeByCode (c : Char) : Text :=
  let n := c.toNat
  if n < 0x100 then '\\' :: 'x' :: hex 2 n
  else if n < 0x10000 then '\\' :: 'u' :: hex 4 n
  else '\\' :: 'U' :: hex 8 n

/-- One character between two marks. -/
def quoteChar (mark c : Char) : Text :=
  if c = mark || c = '\\' then ['\\', c]
  else if c = '\n' then ['\\', 'n']
  else if c = '\r' then ['\\', 'r']
  else if c = '\t' then ['\\', 't']
  else if isPrinted c then [c]
  else escapeByCode c

/-- The mark that needs the least escaping, a single quote in doubt. -/
def quoteMark (t : Text) : Char :=
  if t.contains '\'' && !t.contains '"' then '"' else '\''

/-- The text between quote marks. -/
def quoted (t : Text) : Text :=
  let mark := quoteMark t
  mark :: t.flatMap (quoteChar mark) ++ [mark]

end GatherBoard.Text
