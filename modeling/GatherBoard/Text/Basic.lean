/-!
# Texts as character lists

A text is the list of its characters, so that scanning a text is recursion
on a list. This module holds what the readers and writers below share.
Texts are ordered by the codes of their characters, first difference first:
this is the order of lists of characters.
-/

namespace GatherBoard

/-- A text is the list of its characters. -/
abbrev Text := List Char

namespace Text

/-- Put `mark` between neighbours. -/
def joinWith (mark : Text) (parts : List Text) : Text := mark.intercalate parts

/-- Does a text come before another in the order of texts, or equal it? -/
def le (s t : Text) : Bool := !decide (t < s)

/-- A final line break, if there is one, is left off. -/
def dropFinalBreak (t : Text) : Text :=
  if t.getLast? = some '\n' then t.dropLast else t

/-- The ASCII letters. -/
def isLetter (c : Char) : Bool := ('A' ≤ c && c ≤ 'Z') || ('a' ≤ c && c ≤ 'z')

/-- The digits of a natural number in base ten. -/
def ofNat (n : Nat) : Text := Nat.toDigits 10 n

/-- An integer in base ten, with a minus sign if it is negative. -/
def ofInt : Int → Text
  | .ofNat n => ofNat n
  | .negSucc n => '-' :: ofNat (n + 1)

/-- A natural number in base ten, filled up with zeros to a least width. -/
def padded (width n : Nat) : Text :=
  let digits := ofNat n
  List.replicate (width - digits.length) '0' ++ digits

/-- One lower-case hexadecimal digit. -/
def hexDigit (n : Nat) : Char :=
  if n < 10 then Char.ofNat (48 + n) else Char.ofNat (87 + n)

/-- The last `width` hexadecimal digits of a number. -/
def hex : Nat → Nat → Text
  | 0, _ => []
  | width + 1, n => hex width (n / 16) ++ [hexDigit (n % 16)]

end Text

end GatherBoard
