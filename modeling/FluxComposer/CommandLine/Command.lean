import FluxComposer.Query.Choices
/-
What the program can be told to do. There are five commands; each has
options of its own, and two options go with all of them.
-/
namespace FluxComposer.CommandLine

/-- The options. Each takes a value. -/
inductive Opt where
  | apiUrl
  | format
  | bucket
  | start
  | stop
  | measurement
  | field
  | output
  deriving DecidableEq, Repr

namespace Opt

/-- The name of an option behind two hyphens. -/
def name : Opt → String
  | .apiUrl => "api-url"
  | .format => "format"
  | .bucket => "bucket"
  | .start => "start"
  | .stop => "stop"
  | .measurement => "measurement"
  | .field => "field"
  | .output => "output"

/-- The letter of an option behind one hyphen. -/
def letter? : Opt → Option Char
  | .format => some 'f'
  | .bucket => some 'b'
  | .start => some 's'
  | .measurement => some 'm'
  | .output => some 'o'
  | .apiUrl | .stop | .field => none

/-- Whether an option may be given several times. -/
def repeats : Opt → Bool
  | .field => true
  | _ => false

/-- Whether the value of an option names a file. -/
def namesFile : Opt → Bool
  | .output => true
  | _ => false

/-- The options that go with every command. -/
def shared : List Opt := [.apiUrl, .format]

end Opt

/-- The names of the commands. -/
inductive CommandName where
  | translate
  | render
  | build
  | status
  | config
  deriving DecidableEq, Repr

namespace CommandName

def text : CommandName → String
  | .translate => "translate"
  | .render => "render"
  | .build => "build"
  | .status => "status"
  | .config => "config"

def all : List CommandName :=
  [.translate, .render, .build, .status, .config]

/-- The command that a text names. -/
def ofText? (text : String) : Option CommandName :=
  all.find? (·.text = text)

/-- The options of a command, besides the shared ones. -/
def options : CommandName → List Opt
  | .build => [.bucket, .start, .stop, .measurement, .field]
  | .config => [.output]
  | .translate | .render | .status => []

/-- Whether a command may be given a file to read. -/
def takesFile : CommandName → Bool
  | .translate | .render => true
  | .build | .status | .config => false

end CommandName

-- =========================================================== commands

/-- A command with what it needs to know. -/
inductive Command where
  /-- Shows the query that a text means. -/
  | translate (file : Option String)
  /-- Shows the text of a query. -/
  | render (file : Option String)
  /-- Shows the query that reads what is chosen. -/
  | build (choices : Choices)
  /-- Shows how the service is doing. -/
  | status
  /-- Writes a settings file. -/
  | config (output : Option String)
  deriving DecidableEq, Repr

/-- A command and the shared options. -/
structure Invocation where
  command : Command
  apiUrl : String := "http://localhost:3001"
  format : String := "text"
  deriving DecidableEq, Repr

/-- Why arguments are not understood. -/
inductive UsageError where
  | noCommand
  | unknownCommand (name : String)
  | unknownOption (argument : String)
  | unexpected (argument : String)
  | missingValue (option : Opt)
  | unwantedValue (argument : String)
  | emptyFileName
  | repeated (option : Opt)
  | missingOption (option : Opt)
  deriving DecidableEq, Repr

namespace UsageError

/-- The wording of an error. -/
def message : UsageError → String
  | .noCommand => "no command is given"
  | .unknownCommand name => "unknown command " ++ name
  | .unknownOption argument => "unknown option " ++ argument
  | .unexpected argument => "unexpected argument " ++ argument
  | .missingValue option => "--" ++ option.name ++ " needs a value"
  | .unwantedValue argument => argument ++ " takes no value"
  | .emptyFileName => "a file name is empty"
  | .repeated option => "--" ++ option.name ++ " is given twice"
  | .missingOption option => "--" ++ option.name ++ " is needed"

end UsageError

/-- Why arguments lead to no command that is carried out. -/
inductive Stop where
  | help
  | version
  | usage (error : UsageError)
  deriving DecidableEq, Repr

end FluxComposer.CommandLine
