import GatherBoard.Rule.Diagnostic
import GatherBoard.Text.Blank

/-!
# Column headers

A column header carries gather expressions, fallback tags and order tags
among its words. An expression is a list of segments of which one has to
hold; a segment is a list of atoms which all have to hold. A segment that
cannot be read is dropped and reported, and the others are kept.
-/

namespace GatherBoard

/-- A way to order the cards of a column. -/
inductive CardOrder where
  /-- By due date, cards without one last. -/
  | byDate
  /-- By title, without regard to case. -/
  | byName
  deriving DecidableEq, Repr

/-- The name of an order in tags. -/
def CardOrder.label : CardOrder → Text
  | .byDate => "bydate".toList
  | .byName => "byname".toList

/-- The order of this name. -/
def CardOrder.read? (t : Text) : Option CardOrder :=
  if t = CardOrder.byDate.label then some .byDate
  else if t = CardOrder.byName.label then some .byName
  else none

/-- An integer of this many digits stops the reading of a header. -/
structure Overlong where
  /-- Number of digits, all scripts and leading zeros counted. -/
  digits : Nat
  deriving DecidableEq, Repr

/-- The refusal of an overlong integer in words. -/
def Overlong.message (o : Overlong) : Text :=
  "Exceeds the limit (".toList ++ Text.ofNat Text.maxDigits ++
    " digits) for integer string conversion: value has ".toList ++ Text.ofNat o.digits ++
    " digits; use sys.set_int_max_str_digits() to increase the limit".toList

/-- What begins a gather tag. -/
def gatherMark : Text := "#gather_".toList

/-- One of the two tags of a fallback column. -/
def ungatheredTag : Text := "#ungathered".toList

/-- The other tag of a fallback column. -/
def unsortedTag : Text := "#unsorted".toList

/-- What begins an order tag. -/
def orderMark : Text := "#sort-".toList

/-- The non-empty parts of a segment, each the text of an atom. -/
def atomTexts (segment : Text) : List Text :=
  (segment.splitOn '&').filter fun part => !part.isEmpty

/-- Read the atoms of a segment, up to the first that cannot be read. -/
def readAtoms : List Text → Except AtomError (List Atom)
  | [] => .ok []
  | part :: more => do
    let atom ← Atom.read part
    let atoms ← readAtoms more
    return atom :: atoms

/-- Clauses that were read and problems that were found on the way. -/
structure Expression where
  /-- The clauses, of which one has to hold. -/
  clauses : List Clause
  /-- The problems, in the order of the text. -/
  diagnostics : List Diagnostic
  deriving DecidableEq, Repr

/-- Read the segments of an expression that stands in the given tag. -/
def readSegments (tag : Text) : List Text → Except Overlong Expression
  | [] => .ok ⟨[], []⟩
  | segment :: more =>
    let parts := atomTexts segment
    if parts.isEmpty then readSegments tag more
    else
      match readAtoms parts with
      | .error (.overlong digits) => .error ⟨digits⟩
      | .error (.malformed cause) => do
        let rest ← readSegments tag more
        return ⟨rest.clauses, ⟨tag, .dropped segment cause⟩ :: rest.diagnostics⟩
      | .ok atoms => do
        let rest ← readSegments tag more
        return ⟨⟨atoms⟩ :: rest.clauses, rest.diagnostics⟩

/-- Read an expression that stands in the given tag. An expression without
segments is itself a problem. -/
def Expression.read (tag expression : Text) : Except Overlong Expression := do
  let e ← readSegments tag (expression.splitOn '|')
  return if e.clauses.isEmpty && e.diagnostics.isEmpty then ⟨[], [⟨tag, .noClause⟩]⟩ else e

/-- Read an expression by itself. Without a tag that holds it, it is taken
to be all of a gather tag. -/
def Expression.readUnder (tag : Option Text) (expression : Text) : Except Overlong Expression :=
  let whole := gatherMark ++ expression
  Expression.read ((tag.filter fun t => !t.isEmpty).getD whole) expression

/-- The rules of one column. -/
structure ColumnRules where
  /-- The clauses of all gather tags, of which one has to hold. -/
  clauses : List Clause
  /-- Does the first fallback tag occur? -/
  ungathered : Bool
  /-- Does the second fallback tag occur? -/
  unsorted : Bool
  /-- The order tags, in order. -/
  orders : List CardOrder
  /-- The problems of all gather tags, in order. -/
  diagnostics : List Diagnostic
  deriving DecidableEq, Repr

namespace ColumnRules

/-- A column without rules. -/
def empty : ColumnRules := ⟨[], false, false, [], []⟩

/-- Add what one word of the header says. -/
def addWord (rules : ColumnRules) (word : Text) : Except Overlong ColumnRules :=
  match gatherMark.isPrefixOf? word with
  | some expression => do
    let e ← Expression.read word expression
    return { rules with
      clauses := rules.clauses ++ e.clauses
      diagnostics := rules.diagnostics ++ e.diagnostics }
  | none =>
    if word = ungatheredTag then .ok { rules with ungathered := true }
    else if word = unsortedTag then .ok { rules with unsorted := true }
    else
      match (orderMark.isPrefixOf? word).bind CardOrder.read? with
      | some order => .ok { rules with orders := rules.orders ++ [order] }
      | none => .ok rules

/-- The rules that a column header states. -/
def read (header : Text) : Except Overlong ColumnRules :=
  (Text.words header).foldlM addWord empty

/-- Do unmatched cards go to this column? -/
def isFallback (rules : ColumnRules) : Bool := rules.ungathered || rules.unsorted

/-- The tag that makes the column a fallback column. -/
def fallbackTag? (rules : ColumnRules) : Option Text :=
  if rules.ungathered then some ungatheredTag
  else if rules.unsorted then some unsortedTag
  else none

/-- Does the column gather no cards? -/
def isEmpty (rules : ColumnRules) : Bool := rules.clauses.isEmpty

/-- The canonical gather expression of the clauses. -/
def describe (rules : ColumnRules) : Text :=
  Text.joinWith ['|'] (rules.clauses.map Clause.describe)

end ColumnRules

end GatherBoard
