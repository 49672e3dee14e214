import GatherBoard.Event
import GatherBoard.Text.Blank
import GatherBoard.Text.Case
import GatherBoard.Text.Lines

/-!
# Settings

A settings file assigns values to keys, one in a line. The last valid
assignment of a key counts; an invalid one leaves the setting as it is and
is reported. Unknown keys and lines of any other form say nothing.
-/

namespace GatherBoard

/-- How boards are sorted and how much is told about it. -/
structure Settings where
  /-- The text that carries the tags of a card. -/
  tagSource : TagSource
  /-- Are order tags obeyed? -/
  applyColumnOrder : Bool
  /-- The least level of events that are shown. -/
  logLevel : Level
  deriving DecidableEq, Repr

/-- The name of a tag source in settings. -/
def TagSource.label : TagSource → Text
  | .title => "title".toList
  | .titleAndDescription => "title+description".toList

/-- The tag source of this name, without regard to case. -/
def TagSource.read? (value : Text) : Option TagSource :=
  [TagSource.title, .titleAndDescription].find? fun s => s.label == Text.lower value

/-- The level of this name, without regard to case. -/
def Level.read? (value : Text) : Option Level :=
  Level.all.find? fun l => l.label == Text.upper value

/-- One of the words for yes or no, without regard to case. -/
def readSwitch? (value : Text) : Option Bool :=
  let v := Text.lower value
  if ["1".toList, "true".toList, "yes".toList, "on".toList].contains v then some true
  else if ["0".toList, "false".toList, "no".toList, "off".toList].contains v then some false
  else none

namespace Settings

/-- What holds without a settings file. -/
def default : Settings := ⟨.titleAndDescription, true, .warning⟩

/-- A value in writing. A quoted value ends at the closing mark, or with the
line if there is none; any other value ends at a number sign. -/
def readValue (t : Text) : Text :=
  match t with
  | [] => []
  | mark :: rest =>
    if mark = '"' || mark = '\'' then rest.takeWhile (· != mark)
    else if t.contains '#' then Text.trim (t.takeWhile (· != '#'))
    else t

/-- The key, in lower case, and the value of a line that assigns one. -/
def readLine? (line : Text) : Option (Text × Text) :=
  let t := Text.trim line
  if ['#'].isPrefixOf t then none
  else
    match t.dropWhile (· != '=') with
    | [] => none
    | _ :: value =>
      some (Text.lower (Text.trim (t.takeWhile (· != '='))), readValue (Text.trim value))

/-- What an assignment means. -/
inductive Meaning where
  | tagSource (s : TagSource)
  | columnOrder (b : Bool)
  | logLevel (l : Level)
  /-- The key is known and the value is not valid. -/
  | invalid (e : Event)
  /-- The key is not known. -/
  | nothing
  deriving DecidableEq, Repr

/-- The meaning of a key with a value. -/
def Meaning.of (key value : Text) : Meaning :=
  if key = "tag_source".toList then
    ((TagSource.read? value).map Meaning.tagSource).getD (.invalid (.badTagSource value))
  else if key = "apply_column_order".toList then
    ((readSwitch? value).map Meaning.columnOrder).getD (.invalid (.badColumnOrder value))
  else if key = "log_level".toList then
    ((Level.read? value).map Meaning.logLevel).getD (.invalid (.badLogLevel value))
  else .nothing

/-- The meaning of a line. -/
def Meaning.ofLine (line : Text) : Meaning :=
  match readLine? line with
  | some (key, value) => Meaning.of key value
  | none => .nothing

/-- The settings after one more assignment. -/
def assign (s : Settings) : Meaning → Settings
  | .tagSource source => { s with tagSource := source }
  | .columnOrder b => { s with applyColumnOrder := b }
  | .logLevel l => { s with logLevel := l }
  | .invalid _ | .nothing => s

/-- The event of an invalid assignment. -/
def Meaning.event? : Meaning → Option Event
  | .invalid e => some e
  | _ => none

/-- The settings that the text of a file states, and its invalid
assignments in order. -/
def read (t : Text) : Settings × List Event :=
  let meanings := (Text.settingLines t).map Meaning.ofLine
  (meanings.foldl assign default, meanings.filterMap Meaning.event?)

end Settings

end GatherBoard
