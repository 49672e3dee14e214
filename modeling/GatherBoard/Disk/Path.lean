import GatherBoard.Text.Basic

/-!
# Paths

A path is an optional root and a list of names. Reading one drops empty
names and single dots; a double dot stays, since what it means depends on
the disk. The written form is what messages show. A first name with a tilde
in front stands for a home directory.
-/

namespace GatherBoard

/-- A path in normal form. -/
structure Path where
  /-- The slashes in front: none, one, or exactly two. -/
  root : Text
  /-- The names between slashes, none of them empty or a single dot. -/
  names : List Text
  deriving DecidableEq, Repr

namespace Path

/-- The path that a text spells. Three or more slashes in front count as
one. -/
def read (t : Text) : Path :=
  let slashes := (t.takeWhile (· == '/')).length
  let root := if slashes = 0 then [] else if slashes = 2 then ['/', '/'] else ['/']
  ⟨root, (t.splitOn '/').filter fun name => !name.isEmpty && name != ['.']⟩

/-- The written form of a path; the empty path is a single dot. -/
def text (p : Path) : Text :=
  if p.root.isEmpty && p.names.isEmpty then ['.'] else p.root ++ Text.joinWith ['/'] p.names

/-- The path that names lead to from the end of a path. -/
def below (p : Path) (names : List Text) : Path := { p with names := p.names ++ names }

/-- The directory that a text gives for a home. Slashes at its end do not
count, and a text with a tilde in front gives none. -/
def readHome? (t : Text) : Option Path :=
  let directory := (t.reverse.dropWhile (· == '/')).reverse
  if directory.head? = some '~' then none
  else some (read (if directory.isEmpty then ['/'] else directory))

end Path

/-- The home directories. The program does not start without one for who
runs it. -/
structure Homes where
  /-- The home directory of who runs the program. -/
  own : Path
  /-- The home directory of a user, if there is a user of this name who has
  one. -/
  ofUser? : Text → Option Path

/-- The home directory that a name stands for. No name stands for who runs
the program. -/
def Homes.find? (homes : Homes) (user : Text) : Option Path :=
  if user.isEmpty then some homes.own else homes.ofUser? user

/-- The path with its home directory in place of a tilde in front. There is
none if the user behind the tilde has no home directory. -/
def Path.expand? (homes : Homes) (p : Path) : Option Path :=
  match p.root, p.names with
  | [], ('~' :: user) :: names => (homes.find? user).map (·.below names)
  | _, _ => some p

end GatherBoard
