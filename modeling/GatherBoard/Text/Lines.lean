import GatherBoard.Text.Basic

/-!
# Lines

A board file is cut at line feeds, carriage returns and pairs of both. A
settings file is cut, after the same unification, at every character that
ends a line anywhere, such as a form feed or a line separator.
-/

namespace GatherBoard.Text

/-- A carriage return, alone or before a line feed, becomes a line feed. -/
def unifyBreaks : Text → Text
  | [] => []
  | '\r' :: '\n' :: rest => '\n' :: unifyBreaks rest
  | c :: rest => (if c = '\r' then '\n' else c) :: unifyBreaks rest

/-- The lines of a text with unified breaks. -/
def lines (t : Text) : List Text := (unifyBreaks t).splitOn '\n'

/-- Lines put together again, with a break between neighbours. -/
def unlines (ls : List Text) : Text := joinWith ['\n'] ls

/-- The characters that end a line of a settings file. -/
def endsLine (c : Char) : Bool :=
  let n := c.toNat
  (10 ≤ n && n ≤ 13) || (28 ≤ n && n ≤ 30) || n == 0x85 || n == 0x2028 || n == 0x2029

/-- The lines of a settings file. An ending at the very end of the file
adds an empty line, which says nothing there. -/
def settingLines (t : Text) : List Text := (unifyBreaks t).splitOnP endsLine

end GatherBoard.Text
