import GatherBoard.Text.Basic
import GatherBoard.Text.CaseTable
import GatherBoard.Text.SigmaTable

/-!
# Lower case, upper case and case folding

The three full case mappings: a letter may become several characters, and a
capital sigma at the end of a word becomes the final form of the small
sigma. ASCII letters are mapped by arithmetic, all others by table.
-/

namespace GatherBoard.Text

/-- Is the code inside one of the ranges? -/
def inRanges (ranges : List (Nat × Nat)) (n : Nat) : Bool :=
  ranges.any fun range => range.1 ≤ n && n ≤ range.2

/-- The image of a letter under the first run that holds it. -/
def mapByRuns (n : Nat) : List CaseRun → Option Char
  | [] => none
  | run :: more =>
    if run.first ≤ n && n ≤ run.last && (n - run.first) % run.step == 0 then
      some (Char.ofNat ((n : Int) + run.offset).toNat)
    else mapByRuns n more

/-- The image of a character beyond ASCII; a character in neither table
stays as it is. -/
def mapByTables (runs : List CaseRun) (expansions : List (Nat × List Nat)) (c : Char) : Text :=
  match mapByRuns c.toNat runs with
  | some image => [image]
  | none =>
    match expansions.find? fun expansion => expansion.1 == c.toNat with
    | some expansion => expansion.2.map Char.ofNat
    | none => [c]

/-- The lower-case image of one character, a sigma taken as inside a word. -/
def lowerChar (c : Char) : Text :=
  if c.toNat < 128 then [if 'A' ≤ c && c ≤ 'Z' then Char.ofNat (c.toNat + 32) else c]
  else mapByTables lowerRuns lowerExpansions c

/-- The upper-case image of one character. -/
def upperChar (c : Char) : Text :=
  if c.toNat < 128 then [if 'a' ≤ c && c ≤ 'z' then Char.ofNat (c.toNat - 32) else c]
  else mapByTables upperRuns upperExpansions c

/-- The case-folded image of one character. -/
def foldChar (c : Char) : Text :=
  if c.toNat < 128 then lowerChar c else mapByTables foldRuns foldExpansions c

/-- Marks that are looked through in the search for a sigma's neighbours. -/
def isIgnorable (c : Char) : Bool :=
  if c.toNat < 128 then c == '\'' || c == '.' || c == ':' || c == '^' || c.toNat == 0x60
  else inRanges ignorableRanges c.toNat

/-- Letters that have a case. -/
def isCased (c : Char) : Bool :=
  if c.toNat < 128 then isLetter c else inRanges casedRanges c.toNat

/-- Is the first character that is not looked through a cased letter? -/
def casedAhead (t : Text) : Bool :=
  match t.dropWhile isIgnorable with
  | [] => false
  | c :: _ => isCased c

/-- Lower-case a text, told whether a cased letter comes just before it. A
capital sigma is final if one comes before it and none after. -/
def lowerAfter (casedBehind : Bool) : Text → Text
  | [] => []
  | c :: rest =>
    let image := if c = 'Σ' then [if casedBehind && !casedAhead rest then 'ς' else 'σ'] else lowerChar c
    image ++ lowerAfter (if isIgnorable c then casedBehind else isCased c) rest

/-- The text in lower case. -/
def lower (t : Text) : Text := lowerAfter false t

/-- The text in upper case. -/
def upper (t : Text) : Text := t.flatMap upperChar

/-- The text in the form in which letters that differ by case are equal. -/
def fold (t : Text) : Text := t.flatMap foldChar

end GatherBoard.Text
