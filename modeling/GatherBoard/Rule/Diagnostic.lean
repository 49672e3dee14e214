import GatherBoard.Rule.Reader

/-!
# Diagnostics

A problem with a tag in a column header does not stop the sorting of a
board. It is kept with the tag it concerns and can be put into words.
-/

namespace GatherBoard

/-- What is wrong with a tag of a column header. -/
inductive Problem where
  /-- One segment of a gather expression is not a clause. -/
  | dropped (segment : Text) (cause : Malformed)
  /-- A gather expression has no clause at all. -/
  | noClause
  /-- Another column is already the fallback column. -/
  | secondFallback (title : Text)
  deriving DecidableEq, Repr

/-- A problem in words. -/
def Problem.reason : Problem → Text
  | .dropped segment cause =>
    "clause '".toList ++ segment ++ "' dropped: ".toList ++ cause.reason
  | .noClause => "empty gather expression".toList
  | .secondFallback title =>
    "ignored: fallback column is already '".toList ++ title ++ ['\'']

/-- A tag of a column header and what is wrong with it. -/
structure Diagnostic where
  /-- The tag as it is written. -/
  tag : Text
  /-- What is wrong with it. -/
  problem : Problem
  deriving DecidableEq, Repr

/-- The diagnostic in words. -/
def Diagnostic.message (d : Diagnostic) : Text := d.tag ++ ": ".toList ++ d.problem.reason

end GatherBoard
