import GatherBoard.Text.Basic

/-!
# White space

The characters that separate words and that trimming takes off, together
with the cuts defined by them. The set is the one of Unicode's white space
with the four information separators `U+001C` to `U+001F` added.
-/

namespace GatherBoard.Text

/-- The white-space characters. -/
def isBlank (c : Char) : Bool :=
  let n := c.toNat
  (9 ≤ n && n ≤ 13) || (28 ≤ n && n ≤ 32) || n == 0x85 || n == 0xA0 || n == 0x1680 ||
    (0x2000 ≤ n && n ≤ 0x200A) || n == 0x2028 || n == 0x2029 || n == 0x202F ||
    n == 0x205F || n == 0x3000

/-- The maximal runs of characters that are not white space. -/
def words (t : Text) : List Text := (t.splitOnP isBlank).filter fun w => !w.isEmpty

/-- The text without its leading white space. -/
def trimStart (t : Text) : Text := t.dropWhile isBlank

/-- The text without its trailing white space. -/
def trimEnd (t : Text) : Text := (t.reverse.dropWhile isBlank).reverse

/-- The text without white space at either end. -/
def trim (t : Text) : Text := trimEnd (trimStart t)

end GatherBoard.Text
