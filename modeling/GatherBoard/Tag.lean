import GatherBoard.Calendar.Spelling
import GatherBoard.Text.Blank
import GatherBoard.Text.Case

/-!
# Card tags

A tag starts at an at sign and runs to the next white space. Its body marks
the card as sticky, dates it, or names a person; a body that looks like a
date but names no day is a person.
-/

namespace GatherBoard

/-- What a tag says about its card. -/
inductive Tag where
  /-- The card is never moved. -/
  | sticky
  /-- The card has a date of this kind. -/
  | date (kind : Text) (day : Date)
  /-- The card belongs to this person. -/
  | person (name : Text)
  deriving DecidableEq

namespace Tag

/-- The body of the sticky tag. -/
def stickyBody : Text := "sticky".toList

/-- The kind of a date that stands in a tag alone. -/
def dueKind : Text := "due".toList

/-- Bodies of the tags of a text, the first `skip` characters of which
belong to a tag already taken. An at sign before white space starts none. -/
def bodiesFrom : Nat → Text → List Text
  | _, [] => []
  | skip + 1, _ :: rest => bodiesFrom skip rest
  | 0, c :: rest =>
    if c = '@' then
      let body := rest.takeWhile fun c => !Text.isBlank c
      if body.isEmpty then bodiesFrom 0 rest else body :: bodiesFrom body.length rest
    else bodiesFrom 0 rest

/-- Bodies of the tags of a text, in order. -/
def bodies (t : Text) : List Text := bodiesFrom 0 t

/-- Characters that may begin a kind of date. -/
def startsKind (c : Char) : Bool := Text.isLetter c || c == '_'

/-- Characters that may follow in a kind of date. -/
def continuesKind (c : Char) : Bool := startsKind c || ('0' ≤ c && c ≤ '9')

/-- Split a body into a kind and what stands after its sign. -/
def splitKind? (body : Text) : Option (Text × Text) :=
  match body with
  | [] => none
  | c :: rest =>
    if startsKind c then
      match rest.dropWhile continuesKind with
      | [] => none
      | sign :: value =>
        if (sign == '=' || sign == ':') && !value.isEmpty then
          some (c :: rest.takeWhile continuesKind, value)
        else none
    else none

/-- The date of a body, with its kind in lower case. -/
def readDate? (body : Text) : Option (Text × Date) :=
  match Date.read? body with
  | some day => some (dueKind, day)
  | none =>
    match splitKind? body with
    | some (kind, value) => (Date.read? value).map fun day => (Text.lower kind, day)
    | none => none

/-- What a tag with this body says. -/
def ofBody (body : Text) : Tag :=
  if body = stickyBody then .sticky
  else
    match readDate? body with
    | some (kind, day) => .date kind day
    | none => .person body

end Tag

end GatherBoard
