import GatherBoard.Disk.Path
import GatherBoard.Text.Quoted
import GatherBoard.Text.Utf8

/-!
# The disk

A disk holds files and directories at places. A place is the list of names
that lead to it from the root, which is itself the empty list. Paths are
resolved name by name, from the root or from the working directory, so a
file has one place whatever path leads to it: there are no links between
places. The program may lack the permission to look up names in a directory
and to read or write a file. It is told when it opens the file; once open,
a file is read or written to its end.
-/

namespace GatherBoard

/-- A file with its bytes, or a directory. -/
inductive Entry where
  | file (bytes : ByteArray)
  | directory

/-- Names that lead from the root to an entry. -/
abbrev Place := List Text

/-- The name that leads to the directory above. -/
def upName : Text := ['.', '.']

/-- What the program may want of a place. -/
inductive Access where
  /-- To look up names in a directory. -/
  | search
  /-- To read a file. -/
  | read
  /-- To write a file, or to make one. -/
  | write
  deriving DecidableEq, Repr

/-- A disk as the program finds it. -/
structure Disk where
  /-- The directory that paths without a root begin in. -/
  workingDirectory : Place
  /-- What is at each place. -/
  entryAt : Place → Option Entry
  /-- What the program has no permission for. -/
  denies : Access → Place → Bool

/-- Why the disk refuses a path. -/
inductive DiskError where
  /-- Nothing is there. -/
  | noEntry
  /-- A name is looked up in a file. -/
  | notDirectory
  /-- A directory is where a file has to be. -/
  | isDirectory
  /-- The path or one of its names has too many bytes. -/
  | nameTooLong
  /-- The program has no permission. -/
  | denied
  deriving DecidableEq, Repr

/-- The most bytes that one name may have. -/
def maxNameBytes : Nat := 255

/-- The most bytes that a whole path may have. -/
def maxPathBytes : Nat := 4095

/-- A refusal in words, for a path. -/
def DiskError.message (e : DiskError) (p : Path) : Text :=
  (match e with
    | .noEntry => "[Errno 2] No such file or directory: ".toList
    | .notDirectory => "[Errno 20] Not a directory: ".toList
    | .isDirectory => "[Errno 21] Is a directory: ".toList
    | .nameTooLong => "[Errno 36] File name too long: ".toList
    | .denied => "[Errno 13] Permission denied: ".toList) ++ Text.quoted p.text

namespace Disk

/-- A disk with nothing but the root. -/
def empty : Disk := ⟨[], fun _ => none, fun _ _ => false⟩

/-- What is at a place. The working directory and the directories above it
are always there. -/
def lookup? (disk : Disk) (place : Place) : Option Entry :=
  if place.isPrefixOf disk.workingDirectory then some .directory else disk.entryAt place

/-- Replace what is at a place. -/
def set (disk : Disk) (place : Place) (entry : Option Entry) : Disk :=
  { disk with entryAt := fun other => if other = place then entry else disk.entryAt other }

/-- Take a permission away. -/
def deny (disk : Disk) (access : Access) (place : Place) : Disk :=
  { disk with denies := fun access' place' =>
      (access', place') == (access, place) || disk.denies access' place' }

/-- The place of a name in a directory. Nothing is above the root. -/
def child (place : Place) (name : Text) : Place :=
  if name = upName then place.dropLast else place ++ [name]

/-- Follow names from a place on. All but the last have to lead to
directories; the last may lead nowhere. A name is looked at only in a
directory that may be searched, so what comes first is what is wrong with
the path. -/
def follow (disk : Disk) (place : Place) : List Text → Except DiskError Place
  | [] => .ok place
  | name :: more =>
    match disk.lookup? place with
    | none => .error .noEntry
    | some (.file _) => .error .notDirectory
    | some .directory =>
      if disk.denies .search place then .error .denied
      else if maxNameBytes < Text.byteLength name then .error .nameTooLong
      else follow disk (child place name) more

/-- Where a path begins. -/
def start (disk : Disk) (p : Path) : Place := if p.root.isEmpty then disk.workingDirectory else []

/-- The place that a path leads to, whether or not something is there. -/
def locate (disk : Disk) (p : Path) : Except DiskError Place :=
  if maxPathBytes < Text.byteLength p.text then .error .nameTooLong
  else follow disk (disk.start p) p.names

/-- What a path leads to. -/
def find (disk : Disk) (p : Path) : Except DiskError Entry := do
  match disk.lookup? (← disk.locate p) with
  | some entry => return entry
  | none => .error .noEntry

/-- Does a path lead to something? A path that is too long has no answer,
nor has one through a directory that may not be searched. -/
def holds (disk : Disk) (p : Path) : Except DiskError Bool :=
  match disk.find p with
  | .ok _ => .ok true
  | .error .nameTooLong => .error .nameTooLong
  | .error .denied => .error .denied
  | .error _ => .ok false

/-- The bytes of the file that a path leads to. -/
def readFile (disk : Disk) (p : Path) : Except DiskError ByteArray := do
  let place ← disk.locate p
  match disk.lookup? place with
  | none => .error .noEntry
  | some entry =>
    if disk.denies .read place then .error .denied
    else
      match entry with
      | .file bytes => return bytes
      | .directory => .error .isDirectory

/-- Give a file new bytes, or make one in a directory that is there. -/
def writeFile (disk : Disk) (p : Path) (bytes : ByteArray) : Except DiskError Disk := do
  let place ← disk.locate p
  match disk.lookup? place with
  | some .directory => .error .isDirectory
  | _ =>
    if disk.denies .write place then .error .denied
    else return disk.set place (some (.file bytes))

/-- Make the directories that lead along some names, where they are
missing. -/
def makeAlong (disk : Disk) (place : Place) : List Text → Disk
  | [] => disk
  | name :: more =>
    let next := child place name
    let disk := if (disk.lookup? next).isNone then disk.set next (some .directory) else disk
    makeAlong disk next more

/-- Make a directory and all those above it. -/
def makeDirectory (disk : Disk) (p : Path) : Disk := makeAlong disk (disk.start p) p.names

/-- Remove what a path leads to, and all below it. -/
def remove (disk : Disk) (p : Path) : Disk :=
  match disk.locate p with
  | .ok place =>
    { disk with
      entryAt := fun other => if place.isPrefixOf other then none else disk.entryAt other }
  | .error _ => disk

end Disk

end GatherBoard
