import FluxComposer.CommandLine.Command
/-
Reading arguments. Words that begin with a hyphen are options, except
for the hyphen alone. The value of an option stands in the same word or
is the next one, which then has to be no option; so a value with a hyphen
in front can only be given in the same word:

    --start=-7d   -s=-7d   -s-7d

Two hyphens alone end the options. The shared options may stand before
the name of the command and behind it; where both are given, the one
behind it counts.
-/
namespace FluxComposer.CommandLine

-- ============================================================== words

/-- One argument, by how it begins. -/
inductive Word where
  | plain (text : String)
  | long (name : String) (value : Option String)
  | short (letter : Char) (value : Option String)
  | endOfOptions
  deriving DecidableEq, Repr

namespace Word

/-- A value that follows a letter in the same word. -/
def attached? : List Char → Option String
  | [] => none
  | '=' :: value => some (String.ofList value)
  | value => some (String.ofList value)

/-- A name and the value behind its first equals sign. -/
def named (text : List Char) : Word :=
  .long (String.ofList (text.takeWhile (· != '=')))
    (match text.dropWhile (· != '=') with
      | [] => none
      | _ :: value => some (String.ofList value))

/-- What an argument is. -/
def ofArgument (argument : String) : Word :=
  match argument.toList with
  | ['-', '-'] => .endOfOptions
  | '-' :: '-' :: text => named text
  | '-' :: letter :: rest => .short letter (attached? rest)
  | _ => .plain argument

def isPlain : Word → Bool
  | .plain _ => true
  | _ => false

/-- Whether a word asks for something that is done at once, whatever
else is given. -/
def stop? (showsVersion : Bool) : Word → Option Stop
  | .long "help" none | .short 'h' _ => some .help
  | .long "help" (some _) => some (.usage (.unwantedValue "--help"))
  | .long "version" none | .short 'V' _ =>
    if showsVersion then some .version else none
  | .long "version" (some _) =>
    if showsVersion then some (.usage (.unwantedValue "--version"))
    else none
  | _ => none

/-- The option among `options` that a word names, and the value in the
word. -/
def option? (options : List Opt) : Word → Option (Opt × Option String)
  | .long name value =>
    (options.find? (·.name = name)).map fun o => (o, value)
  | .short letter value =>
    (options.find? (·.letter? = some letter)).map fun o => (o, value)
  | .plain _ | .endOfOptions => none

end Word

-- ========================================================= collection

/-- What has been given so far. -/
structure Given where
  values : List (Opt × String) := []
  file : Option String := none

namespace Given

/-- All values of an option, in order. -/
def all (g : Given) (o : Opt) : List String :=
  (g.values.filter (·.1 = o)).map (·.2)

/-- The value of an option. -/
def value? (g : Given) (o : Opt) : Option String := (g.all o).head?

/-- Takes a value of an option. -/
def put (g : Given) (o : Opt) (value : String) : Except Stop Given :=
  if o.namesFile && value.isEmpty then .error (.usage .emptyFileName)
  else if !o.repeats && (g.value? o).isSome then
    .error (.usage (.repeated o))
  else .ok { g with values := g.values ++ [(o, value)] }

/-- Takes an argument that is no option. -/
def putFile (g : Given) (takesFile : Bool) (argument : String) :
    Except Stop Given :=
  if !takesFile || g.file.isSome then
    .error (.usage (.unexpected argument))
  else if argument.isEmpty then .error (.usage .emptyFileName)
  else .ok { g with file := some argument }

end Given

/-- Which arguments are taken at one place: those before the name of a
command, or those behind it. -/
structure Scope where
  command : Option CommandName

namespace Scope

/-- The options of a scope. -/
def options (s : Scope) : List Opt :=
  Opt.shared ++ (s.command.map CommandName.options).getD []

/-- Whether a scope takes the name of a file. -/
def takesFile (s : Scope) : Bool := s.command.any CommandName.takesFile

/-- Reads the arguments of a scope. Before the name of a command the
reading stops at the first argument that is no option. -/
def collect (s : Scope) (given : Given) :
    List String → Except Stop (Given × List String)
  | [] => .ok (given, [])
  | argument :: rest =>
    let word := Word.ofArgument argument
    match word with
    | .endOfOptions => do
      let given ← rest.foldlM (fun g a => g.putFile s.takesFile a) given
      return (given, [])
    | .plain _ =>
      if s.command.isNone then .ok (given, argument :: rest)
      else do
        let given ← given.putFile s.takesFile argument
        s.collect given rest
    | .long .. | .short .. =>
      match word.stop? s.command.isNone, word.option? s.options with
      | some stop, _ => .error stop
      | none, none => .error (.usage (.unknownOption argument))
      | none, some (o, some value) => do
        let given ← given.put o value
        s.collect given rest
      | none, some (o, none) =>
        match rest with
        | [] => .error (.usage (.missingValue o))
        | value :: rest =>
          if (Word.ofArgument value).isPlain then do
            let given ← given.put o value
            s.collect given rest
          else .error (.usage (.missingValue o))

end Scope

-- ======================================================== invocations

/-- The choices of a query among what is given. -/
def choices (g : Given) : Except Stop Choices :=
  match g.value? .bucket with
  | none => .error (.usage (.missingOption .bucket))
  | some bucket => .ok {
      bucket
      start := (g.value? .start).getD "-1h"
      stop := g.value? .stop
      measurement := g.value? .measurement
      fields := g.all .field }

/-- The command of a name with what is given to it. -/
def CommandName.command (name : CommandName) (g : Given) :
    Except Stop Command :=
  match name with
  | .translate => .ok (.translate g.file)
  | .render => .ok (.render g.file)
  | .build => .build <$> choices g
  | .status => .ok .status
  | .config => .ok (.config (g.value? .output))

/-- What a request for help with some commands comes to. -/
def helpWith : List String → Stop
  | [] => .help
  | name :: rest =>
    if name = "help" ∨ (CommandName.ofText? name).isSome then
      match rest with
      | [] => .help
      | next :: _ => .usage (.unknownCommand next)
    else .usage (.unknownCommand name)

/-- Reads the arguments of the program. -/
def Invocation.ofArguments (arguments : List String) :
    Except Stop Invocation := do
  let (before, rest) ← Scope.collect ⟨none⟩ {} arguments
  match rest with
  | [] => .error (.usage .noCommand)
  | "help" :: names => .error (helpWith names)
  | text :: rest =>
    match CommandName.ofText? text with
    | none => .error (.usage (.unknownCommand text))
    | some name => do
      let (behind, _) ← Scope.collect ⟨some name⟩ {} rest
      let shared (o : Opt) (default : String) : String :=
        ((behind.value? o).or (before.value? o)).getD default
      return {
        command := ← name.command behind
        apiUrl := shared .apiUrl "http://localhost:3001"
        format := shared .format "text" }

end FluxComposer.CommandLine
