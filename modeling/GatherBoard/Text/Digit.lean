import GatherBoard.Text.Basic

/-!
# Decimal digits and integers

Integers may be written in any script's decimal digits, also mixed. A
reading knows how many digits it has before it knows its value, because a
numeral with more than `maxDigits` digits is refused instead of read.
-/

namespace GatherBoard.Text

/-- The codes of the digit zero in the scripts of Unicode 14; the digits one
to nine follow each. -/
def zeroCodes : List Nat :=
  [0x30, 0x660, 0x6F0, 0x7C0, 0x966, 0x9E6, 0xA66, 0xAE6, 0xB66, 0xBE6, 0xC66, 0xCE6, 0xD66,
  0xDE6, 0xE50, 0xED0, 0xF20, 0x1040, 0x1090, 0x17E0, 0x1810, 0x1946, 0x19D0, 0x1A80, 0x1A90,
  0x1B50, 0x1BB0, 0x1C40, 0x1C50, 0xA620, 0xA8D0, 0xA900, 0xA9D0, 0xA9F0, 0xAA50, 0xABF0, 0xFF10,
  0x104A0, 0x10D30, 0x11066, 0x110F0, 0x11136, 0x111D0, 0x112F0, 0x11450, 0x114D0, 0x11650,
  0x116C0, 0x11730, 0x118E0, 0x11950, 0x11C50, 0x11D50, 0x11DA0, 0x16A60, 0x16AC0, 0x16B50,
  0x1D7CE, 0x1D7D8, 0x1D7E2, 0x1D7EC, 0x1D7F6, 0x1E140, 0x1E2F0, 0x1E950, 0x1FBF0]

/-- The value of a decimal digit of any script. -/
def digitValue? (c : Char) : Option Nat :=
  let n := c.toNat
  if n < 128 then (if 48 ≤ n && n ≤ 57 then some (n - 48) else none)
  else (zeroCodes.find? fun start => start ≤ n && n < start + 10).map (n - ·)

/-- The decimal digits of all scripts. -/
def isDigit (c : Char) : Bool := (digitValue? c).isSome

/-- The value of a digit, and nothing for any other character. -/
def digitValue (c : Char) : Nat := (digitValue? c).getD 0

/-- The number that a run of digits writes in base ten. -/
def digitsValue (t : Text) : Nat := t.foldl (fun n c => 10 * n + digitValue c) 0

/-- A non-empty run of decimal digits. -/
def isDigits (t : Text) : Bool := !t.isEmpty && t.all isDigit

/-- The most digits that a numeral may have. -/
def maxDigits : Nat := 4300

/-- An integer as it is written: a sign and a run of digits. -/
structure Numeral where
  /-- Is the number marked by a minus sign? -/
  negative : Bool
  /-- The digits, the most significant first, with leading zeros. -/
  digits : Text
  deriving DecidableEq, Repr

/-- Read an optional sign and one or more digits. -/
def Numeral.read? (t : Text) : Option Numeral :=
  let (negative, digits) :=
    match t with
    | '-' :: rest => (true, rest)
    | '+' :: rest => (false, rest)
    | _ => (false, t)
  if isDigits digits then some ⟨negative, digits⟩ else none

/-- The integer that a numeral writes. -/
def Numeral.value (n : Numeral) : Int :=
  if n.negative then -(digitsValue n.digits : Int) else digitsValue n.digits

/-- Does the numeral keep to the limit on its length? -/
def Numeral.isShort (n : Numeral) : Bool := n.digits.length ≤ maxDigits

end GatherBoard.Text
