import GatherBoard.Calendar.Spelling
import GatherBoard.Command.Console
import GatherBoard.Text.Quoted
import GatherBoard.Text.Similar

/-!
# Command arguments

The words after the program's name are read in two steps. Those before the
name of a command belong to the program, those after it to the command.
Options begin with a hyphen, and may come before and after the board's path;
two hyphens end them. The first fault found is the one that is reported.
-/

namespace GatherBoard.Command

/-- The commands. -/
inductive Verb where
  | sort
  | facts
  | rules
  deriving DecidableEq, Repr

/-- The name of a command. -/
def Verb.label : Verb → Text
  | .sort => "sort".toList
  | .facts => "facts".toList
  | .rules => "rules".toList

/-- All commands in the order of their names. -/
def Verb.all : List Verb := [.facts, .rules, .sort]

/-- An option by its name, and whether a value belongs to it. -/
structure Switch where
  name : Text
  takesValue : Bool
  deriving DecidableEq, Repr

/-- The option that asks for help. -/
def helpName : Text := "--help".toList

/-- The option that asks for the version. -/
def versionName : Text := "--version".toList

/-- The option for the day to sort by. -/
def todayName : Text := "--today".toList

/-- The option to save the sorted board. -/
def writeName : Text := "--write".toList

/-- The option for a report in JSON. -/
def jsonName : Text := "--json".toList

/-- The option to show all events. -/
def debugName : Text := "--debug".toList

/-- The options of a command, or of the program itself. -/
def switchesOf : Option Verb → List Switch
  | none => [⟨versionName, false⟩, ⟨helpName, false⟩]
  | some .sort =>
    [⟨todayName, true⟩, ⟨writeName, false⟩, ⟨jsonName, false⟩, ⟨debugName, false⟩,
      ⟨helpName, false⟩]
  | some .facts => [⟨jsonName, false⟩, ⟨helpName, false⟩]
  | some .rules => [⟨helpName, false⟩]

/-- What is wrong with the arguments. -/
inductive UsageError where
  /-- No option has this name; some have similar ones. -/
  | noSuchOption (name : Text) (similar : List Text)
  /-- The value of an option is missing. -/
  | needsValue (name : Text)
  /-- The option has a value and should have none. -/
  | takesNoValue (name : Text)
  /-- No command has this name; some have similar ones. -/
  | noSuchCommand (name : Text) (similar : List Text)
  /-- There is no command. -/
  | missingCommand
  /-- There is no path to a board. -/
  | missingBoard
  /-- The day to sort by is no date. -/
  | badToday (value : Text)
  /-- The path leads to a directory. -/
  | boardIsDirectory (path : Text)
  /-- The path leads to a file that may not be read. -/
  | boardNotReadable (path : Text)
  /-- There are arguments after the path. -/
  | unexpected (extra : List Text)
  deriving DecidableEq, Repr

/-- Similar names as a suggestion, in the order of texts. -/
def suggestion (names : List Text) : Text :=
  match names.mergeSort Text.le with
  | [] => []
  | [name] => " Did you mean ".toList ++ Text.quoted name ++ ['?']
  | names =>
    " (Did you mean one of: ".toList ++ Text.joinWith ", ".toList (names.map Text.quoted) ++
      "?)".toList

/-- A usage error in words. -/
def UsageError.message : UsageError → Text
  | .noSuchOption name similar =>
    "No such option ".toList ++ Text.quoted name ++ ['.'] ++ suggestion similar
  | .needsValue name => "Option ".toList ++ Text.quoted name ++ " requires an argument.".toList
  | .takesNoValue name => "Option ".toList ++ Text.quoted name ++ " does not take a value.".toList
  | .noSuchCommand name similar =>
    "No such command ".toList ++ Text.quoted name ++ ['.'] ++ suggestion similar
  | .missingCommand => "Missing command.".toList
  | .missingBoard => "Missing argument 'BOARD_PATH'.".toList
  | .badToday value =>
    "Invalid value for '--today': ".toList ++ Text.quoted value ++
      " does not match the format '%Y-%m-%d'.".toList
  | .boardIsDirectory path =>
    "Invalid value for 'BOARD_PATH': File ".toList ++ Text.quoted path ++
      " is a directory.".toList
  | .boardNotReadable path =>
    "Invalid value for 'BOARD_PATH': File ".toList ++ Text.quoted path ++
      " is not readable.".toList
  | .unexpected extra =>
    "Got unexpected extra argument".toList ++ (if extra.length = 1 then [] else ['s']) ++
      " (".toList ++ Text.joinWith [' '] extra ++ [')']

/-- Faults of an option's value are told without the usage lines. -/
def UsageError.isBare : UsageError → Bool
  | .needsValue _ | .takesNoValue _ => true
  | _ => false

/-- The options and the other words among some arguments, in order. -/
structure Scan where
  options : List (Text × Option Text)
  words : List Text
  deriving DecidableEq, Repr

namespace Scan

/-- Put an option in front. -/
def addOption (name : Text) (value : Option Text) (s : Scan) : Scan :=
  { s with options := (name, value) :: s.options }

/-- Put a word in front. -/
def addWord (word : Text) (s : Scan) : Scan := { s with words := word :: s.words }

/-- Is the option among them? -/
def has (s : Scan) (name : Text) : Bool := s.options.any fun given => given.1 == name

/-- The last value of an option. -/
def value? (s : Scan) (name : Text) : Option Text :=
  (s.options.reverse.find? fun given => given.1 == name).bind Prod.snd

end Scan

/-- A word that begins with a hyphen is an option, a hyphen alone is not. -/
def isOption (arg : Text) : Bool := ['-'].isPrefixOf arg && arg != ['-']

/-- An option's name, and its value if one is joined to it. -/
def splitOption (arg : Text) : Text × Option Text :=
  match arg.dropWhile (· != '=') with
  | [] => (arg, none)
  | _ :: value => (arg.takeWhile (· != '='), some value)

/-- The fault of an option that is not known. Behind a single hyphen only
the first letter counts, and nothing is suggested for it. -/
def unknownOption (switches : List Switch) (arg : Text) : UsageError :=
  if ['-', '-'].isPrefixOf arg then
    let name := (splitOption arg).1
    .noSuchOption name (Text.similar (switches.map Switch.name) name)
  else .noSuchOption (arg.take 2) []

/-- Sort arguments into options and words. Without `mixed` the first word
ends the options. -/
def scan (switches : List Switch) (mixed : Bool) : List Text → Except UsageError Scan
  | [] => .ok ⟨[], []⟩
  | arg :: rest =>
    if arg = ['-', '-'] then .ok ⟨[], rest⟩
    else if isOption arg then
      let (name, value?) := splitOption arg
      match switches.find? fun switch => switch.name == name with
      | none => .error (unknownOption switches arg)
      | some switch =>
        match switch.takesValue, value? with
        | false, some _ => .error (.takesNoValue name)
        | true, none =>
          match rest with
          | [] => .error (.needsValue name)
          | value :: rest => (scan switches mixed rest).map (Scan.addOption name (some value))
        | _, value? => (scan switches mixed rest).map (Scan.addOption name value?)
    else if mixed then (scan switches mixed rest).map (Scan.addWord arg)
    else .ok ⟨[], arg :: rest⟩

/-- What the arguments ask for. -/
inductive Request where
  /-- There are no arguments. -/
  | nothing
  /-- The help page of a command, or of the program itself. -/
  | help (verb : Option Verb)
  /-- The version of the program. -/
  | version
  /-- A task. -/
  | task (t : Task)
  /-- The arguments are refused, by a command or by the program itself. -/
  | refused (verb : Option Verb) (cause : UsageError)
  deriving DecidableEq

/-- A month of the day to sort by, with one digit or two. -/
def isTodayMonth : Text → Bool
  | ['1', d] => '0' ≤ d && d ≤ '2'
  | ['0', d] => '1' ≤ d && d ≤ '9'
  | [d] => '1' ≤ d && d ≤ '9'
  | _ => false

/-- A day of its month, with one digit, two, or a space and one. -/
def isTodayDay : Text → Bool
  | ['3', d] => '0' ≤ d && d ≤ '1'
  | ['1', d] => Text.isDigit d
  | ['2', d] => Text.isDigit d
  | ['0', d] => '1' ≤ d && d ≤ '9'
  | [' ', d] => '1' ≤ d && d ≤ '9'
  | [d] => '1' ≤ d && d ≤ '9'
  | _ => false

/-- The day to sort by, year first. -/
def readToday? (t : Text) : Option Date :=
  match t.splitOn '-' with
  | [year, month, day] =>
    if Date.isYearGroup year && isTodayMonth month && isTodayDay day then
      Date.of? (Text.digitsValue year) (Text.digitsValue month) (Text.digitsValue day)
    else none
  | _ => none

/-- The task of a command whose arguments have been sorted out. -/
def Verb.task (verb : Verb) (s : Scan) (path : Text) (today : Option Date) : Task :=
  match verb with
  | .sort => .sort path today (s.has writeName) (s.has jsonName) (s.has debugName)
  | .facts => .facts path (s.has jsonName)
  | .rules => .rules path

/-- Read the arguments of a command. The day is checked before the path, and
the path before the number of arguments; `fault?` tells what is wrong with a
path. -/
def Verb.request (verb : Verb) (fault? : Text → Option UsageError) (args : List Text) : Request :=
  match scan (switchesOf (some verb)) true args with
  | .error cause => .refused (some verb) cause
  | .ok s =>
    if s.has helpName then .help (some verb)
    else
      let given := s.value? todayName
      let today := given.bind readToday?
      match given, today, s.words with
      | some value, none, _ => .refused (some verb) (.badToday value)
      | _, _, [] => .refused (some verb) .missingBoard
      | _, _, path :: extra =>
        match fault? path with
        | some cause => .refused (some verb) cause
        | none =>
          if !extra.isEmpty then .refused (some verb) (.unexpected extra)
          else .task (verb.task s path today)

/-- What the program's own options ask for: the first of them counts. -/
def ownRequest? (s : Scan) : Option Request :=
  match s.options with
  | [] => none
  | (name, _) :: _ => some (if name = versionName then .version else .help none)

/-- A word that names no command. Where it looks like an option, it is read
as one of the program's own first. -/
def unknownCommand (word : Text) (words : List Text) : Request :=
  let unknown := Request.refused none
    (.noSuchCommand word (Text.similar (Verb.all.map Verb.label) word))
  if ['-'].isPrefixOf word then
    match scan (switchesOf none) false words with
    | .error cause => .refused none cause
    | .ok s => (ownRequest? s).getD unknown
  else unknown

/-- What the words after the program's name ask for. -/
def Request.read (fault? : Text → Option UsageError) (args : List Text) : Request :=
  if args.isEmpty then .nothing
  else
    match scan (switchesOf none) false args with
    | .error cause => .refused none cause
    | .ok s =>
      match ownRequest? s, s.words with
      | some request, _ => request
      | none, [] => .refused none .missingCommand
      | none, word :: rest =>
        match Verb.all.find? fun verb => verb.label == word with
        | some verb => verb.request fault? rest
        | none => unknownCommand word (word :: rest)

end GatherBoard.Command
