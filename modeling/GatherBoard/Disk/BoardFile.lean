import GatherBoard.Disk.Basic
import GatherBoard.Markdown.Reader
import GatherBoard.Markdown.Writer

/-!
# Board files on the disk

Loading and saving a board. What can go wrong with the file itself is a
board file error, and is told to the user in one line; bytes that are not a
text are a fault of another kind, and so is a home that nobody has.
-/

namespace GatherBoard

/-- What can go wrong with a board file. -/
inductive BoardFileError where
  /-- No such file. -/
  | notFound (path : Path)
  /-- The file is there and cannot be read. -/
  | unreadable (path : Path) (cause : DiskError)
  /-- The file cannot be written. -/
  | unwritable (path : Path) (cause : DiskError)
  deriving DecidableEq, Repr

/-- A board file error in words. -/
def BoardFileError.message : BoardFileError → Text
  | .notFound p => "Board file not found: ".toList ++ p.text
  | .unreadable p cause => "Cannot read ".toList ++ p.text ++ ": ".toList ++ cause.message p
  | .unwritable p cause => "Cannot write ".toList ++ p.text ++ ": ".toList ++ cause.message p

/-- Why a command cannot go on. -/
inductive Failure where
  /-- The board file cannot be read or written. -/
  | boardFile (cause : BoardFileError)
  /-- A file does not hold a text. -/
  | undecodable (cause : Text.ByteFault)
  /-- The disk refuses the path of a board or of the settings. -/
  | refused (path : Path) (cause : DiskError)
  /-- The path of the board begins in the home of a user who has none. -/
  | noHome
  /-- The board cannot be sorted. -/
  | unsortable (cause : SortError)
  deriving DecidableEq, Repr

/-- Why a board cannot be sorted, in words. -/
def SortError.message : SortError → Text
  | .overlong cause => cause.message
  | .mismatch cause => cause.message

/-- A failure in words. -/
def Failure.message : Failure → Text
  | .boardFile cause => cause.message
  | .undecodable cause => cause.message
  | .refused path cause => cause.message path
  | .noHome => "Could not determine home directory.".toList
  | .unsortable cause => cause.message

namespace Disk

/-- Load the board of a file. -/
def loadBoard (disk : Disk) (p : Path) : Except Failure Markdown.Reading := do
  let found ← (disk.holds p).mapError (.refused p)
  if !found then .error (.boardFile (.notFound p))
  let bytes ← (disk.readFile p).mapError fun e => .boardFile (.unreadable p e)
  let t ← (Text.decode bytes).mapError .undecodable
  return Markdown.read t

/-- Save a board to a file. -/
def saveBoard (disk : Disk) (p : Path) (b : Board) : Except Failure Disk :=
  (disk.writeFile p (Text.encode (Markdown.write b))).mapError fun e =>
    .boardFile (.unwritable p e)

end Disk

end GatherBoard
