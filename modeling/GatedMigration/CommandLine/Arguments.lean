/-!
# Command line arguments

The program takes four options: the path of the plan, the level of the log, the format of the output
and whether details are shown; help and version end it at once. Options are given by their long
names, and each at most once. The value of an option stands behind an equals sign or is the next
word. A next word is judged only once another option or the end is reached, so an unknown word
behind it is reported first.
-/

namespace GatedMigration.CommandLine

/-- How much is logged. -/
inductive LogLevel where
  | error
  | warn
  | info
  | debug
  | trace
deriving DecidableEq

namespace LogLevel

/-- The word for a level. -/
def word : LogLevel → String
  | error => "error"
  | warn => "warn"
  | info => "info"
  | debug => "debug"
  | trace => "trace"

/-- The level with a word. -/
def ofWord? (s : String) : Option LogLevel :=
  [error, warn, info, debug, trace].find? fun l => l.word == s

end LogLevel

/-- How the dependencies are shown. -/
inductive OutputFormat where
  | text
  | json
deriving DecidableEq

namespace OutputFormat

/-- The word for a format. -/
def word : OutputFormat → String
  | text => "text"
  | json => "json"

/-- The format with a word. -/
def ofWord? (s : String) : Option OutputFormat := [text, json].find? fun f => f.word == s

end OutputFormat

/-- Why arguments are not taken. -/
inductive UsageError where
  /-- Help was asked for. -/
  | displayHelp
  /-- The version was asked for. -/
  | displayVersion
  | unknownArgument
  /-- An option has no value or one that it does not know. -/
  | invalidValue
  /-- An option without value has one. -/
  | tooManyValues
  /-- An option is given twice. -/
  | argumentConflict
deriving DecidableEq

/-- The name of an error. -/
def UsageError.name : UsageError → String
  | .displayHelp => "DisplayHelp"
  | .displayVersion => "DisplayVersion"
  | .unknownArgument => "UnknownArgument"
  | .invalidValue => "InvalidValue"
  | .tooManyValues => "TooManyValues"
  | .argumentConflict => "ArgumentConflict"

/-- The options as they are given. -/
structure Given where
  config : Option String := none
  logLevel : Option LogLevel := none
  format : Option OutputFormat := none
  details : Bool := false

/-- The arguments of the program. -/
structure Arguments where
  /-- The path of the plan. -/
  config : String
  format : OutputFormat
  logLevel : Option LogLevel
  details : Bool
deriving DecidableEq

/-- The path of the plan unless another one is given. -/
def defaultConfig : String := "Migradag.toml"

/-- The arguments with what is not given filled in. -/
def Given.toArguments (g : Given) : Arguments where
  config := g.config.getD defaultConfig
  format := g.format.getD .text
  logLevel := g.logLevel
  details := g.details

/-- The options that have a value. -/
inductive ValueOption where
  | config
  | logLevel
  | format

/-- The options without a value. -/
inductive Flag where
  | details
  | help
  | version

/-- What is left open between two words. -/
inductive Pending where
  | nothing
  /-- The next word is the value of an option. -/
  | awaited (o : ValueOption)
  /-- A word is the value of an option. -/
  | found (o : ValueOption) (value : String)

/-- A value that is set once. -/
def setOnce {α : Type} (old new : Option α) : Except UsageError (Option α) :=
  if old.isSome then .error .argumentConflict
  else if new.isNone then .error .invalidValue
  else .ok new

namespace Given

/-- The value of an option taken. -/
def set (g : Given) (o : ValueOption) (value : String) : Except UsageError Given :=
  match o with
  | .config => (setOnce g.config (if value.isEmpty then none else some value)).map
      fun config => { g with config }
  | .logLevel => (setOnce g.logLevel (LogLevel.ofWord? value)).map
      fun logLevel => { g with logLevel }
  | .format => (setOnce g.format (OutputFormat.ofWord? value)).map
      fun format => { g with format }

/-- What was left open settled. -/
def settle (g : Given) : Pending → Except UsageError Given
  | .nothing => .ok g
  | .awaited _ => .error .invalidValue
  | .found o value => g.set o value

/-- An option without value taken. -/
def raise (g : Given) : Flag → Except UsageError Given
  | .details => if g.details then .error .argumentConflict else .ok { g with details := true }
  | .help => .error .displayHelp
  | .version => .error .displayVersion

end Given

/-- What a long name stands for. -/
def longName? (name : String) : Option (ValueOption ⊕ Flag) :=
  if name = "config" then some (.inl .config)
  else if name = "log-level" then some (.inl .logLevel)
  else if name = "format" then some (.inl .format)
  else if name = "details" then some (.inr .details)
  else if name = "help" then some (.inr .help)
  else if name = "version" then some (.inr .version)
  else none

/-- A name and the value behind the first equals sign. -/
def splitValue (cs : List Char) : String × Option String :=
  let name := cs.takeWhile (· != '=')
  match cs.dropWhile (· != '=') with
  | _ :: value => (String.ofList name, some (String.ofList value))
  | [] => (String.ofList name, none)

/-- A long option taken. -/
def takeLong (g : Given) (left : Pending) (cs : List Char) :
    Except UsageError (Given × Pending) :=
  match splitValue cs with
  | (name, value) =>
    match longName? name, value with
    | none, _ => .error .unknownArgument
    | some (.inr _), some _ => .error .tooManyValues
    | some (.inr flag), none => do
      let g ← g.settle left
      return (← g.raise flag, .nothing)
    | some (.inl o), some value => do
      let g ← g.settle left
      return (← g.set o value, .nothing)
    | some (.inl o), none => do
      let g ← g.settle left
      return (g, .awaited o)

/-- A group of short options taken; each of them ends the program. -/
def takeShort (g : Given) (left : Pending) (c : Char) : Except UsageError Given :=
  if c = 'h' then (g.settle left).bind fun g => g.raise .help
  else if c = 'V' then (g.settle left).bind fun g => g.raise .version
  else .error .unknownArgument

/-- The words read one after the other. -/
def readWords (g : Given) (left : Pending) : List String → Except UsageError Given
  | [] => g.settle left
  | word :: rest =>
    match word.toList with
    | ['-', '-'] => if rest.isEmpty then g.settle left else .error .unknownArgument
    | '-' :: '-' :: cs =>
      match takeLong g left cs with
      | .ok (g, left) => readWords g left rest
      | .error e => .error e
    | '-' :: c :: _ => takeShort g left c
    | _ =>
      match left with
      | .awaited o => readWords g (.found o word) rest
      | _ => .error .unknownArgument

/-- The arguments that the words of a command line are. -/
def Arguments.read (words : List String) : Except UsageError Arguments :=
  (readWords {} .nothing words).map Given.toArguments

end GatedMigration.CommandLine
