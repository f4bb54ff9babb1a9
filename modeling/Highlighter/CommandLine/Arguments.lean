import Highlighter.Language
import Highlighter.OutputFormat

/-!
# Arguments

The arguments are read from left to right. Options stand before the name of the
command or after it, in a long form (`--name value`, `--name=value`) or in a short
one (`-n value`, `-n=value`, `-nvalue`), and short ones without a value may be joined.
After `--` nothing is an option. Each command takes options of its own besides the
common ones. An option with a value stands once at most on each side of the command,
and the value after the command prevails.

A request for help or for the version is answered where it is found, even if what
comes after it is wrong.
-/

namespace Highlighter.CommandLine

/-! ## What can be asked for -/

/-- What the program does. -/
inductive Command where
  /-- Writes a file in a format. -/
  | highlight (path : Text) (language : Option Language) (format : Option OutputFormat)
  /-- Lists the tokens of a file. -/
  | tokens (path : Text) (language : Option Language)
  /-- Lists the languages. -/
  | grammars
  deriving DecidableEq, Repr

/-- A command with the file of the configuration, if one is given. -/
structure Invocation where
  /-- The file of the configuration. -/
  config : Option Text
  /-- What is to be done. -/
  command : Command
  deriving DecidableEq, Repr

/-- Why arguments mean nothing. -/
inductive UsageError where
  /-- There is no option with a name. -/
  | unknownOption (name : Text)
  /-- An option has no value. -/
  | missingValue (name : Text)
  /-- An option that takes no value has one. -/
  | excessValue (name : Text)
  /-- An option stands more than once. -/
  | repeated (name : Text)
  /-- An option has a value it does not take. -/
  | badValue (name value : Text)
  /-- There is no command with a name. -/
  | unknownCommand (name : Text)
  /-- There is no command. -/
  | missingCommand
  /-- There is no path. -/
  | missingPath
  /-- There is an argument too many. -/
  | excess (argument : Text)
  deriving DecidableEq, Repr

/-- The text that reports a wrong use. -/
def UsageError.message : UsageError → Text
  | unknownOption name => "error: unknown option ".toList ++ name
  | missingValue name => "error: no value for ".toList ++ name
  | excessValue name => "error: a value for ".toList ++ name
  | repeated name => "error: more than one ".toList ++ name
  | badValue name value => "error: the value ".toList ++ value ++ " for ".toList ++ name
  | unknownCommand name => "error: unknown command ".toList ++ name
  | missingCommand => "error: no command".toList
  | missingPath => "error: no path".toList
  | excess argument => "error: unexpected argument ".toList ++ argument

/-- What ends the reading of arguments before their end. -/
inductive Interruption where
  /-- The version is asked for. -/
  | version
  /-- Help is asked for. -/
  | help
  /-- The arguments are wrong. -/
  | misuse (e : UsageError)
  deriving DecidableEq, Repr

/-! ## Options -/

/-- The options. -/
inductive Flag where
  /-- The file of the configuration. -/
  | config
  /-- The language. -/
  | grammar
  /-- The format. -/
  | format
  /-- More messages. -/
  | verbose
  /-- Help. -/
  | help
  /-- The version. -/
  | version
  deriving DecidableEq, Repr

namespace Flag

/-- Every option. -/
def all : List Flag := [config, grammar, format, verbose, help, version]

/-- The long name. -/
def name : Flag → String
  | config => "config"
  | grammar => "grammar"
  | format => "format"
  | verbose => "verbose"
  | help => "help"
  | version => "version"

/-- The short name. -/
def letter : Flag → Char
  | config => 'c'
  | grammar => 'g'
  | format => 'f'
  | verbose => 'v'
  | help => 'h'
  | version => 'V'

/-- Whether an option has a value. -/
def takesValue : Flag → Bool
  | config => true
  | grammar => true
  | format => true
  | _ => false

end Flag

/-- The sides of the command, of which the second depends on the command. -/
inductive Level where
  /-- Before the command. -/
  | top
  /-- After the command that writes a file. -/
  | highlight
  /-- After the command that lists tokens. -/
  | tokens
  /-- After the command that lists the languages. -/
  | grammars
  deriving DecidableEq, Repr

namespace Level

/-- The options of a level. -/
def flags : Level → List Flag
  | top => [.config, .verbose, .help, .version]
  | highlight => [.config, .verbose, .help, .grammar, .format]
  | tokens => [.config, .verbose, .help, .grammar]
  | grammars => [.config, .verbose, .help]

/-- The level after a command with a name. -/
def ofCommand? (name : Text) : Option Level :=
  if name == "highlight".toList then some highlight
  else if name == "tokens".toList then some tokens
  else if name == "grammars".toList then some grammars
  else none

end Level

/-! ## Reading one level -/

/-- What the arguments of a level give. -/
structure Given where
  /-- The file of the configuration. -/
  config : Option Text := none
  /-- The language. -/
  language : Option Language := none
  /-- The format. -/
  format : Option OutputFormat := none
  /-- The path. -/
  path : Option Text := none
  deriving DecidableEq, Repr

/-- A value of an option that is set once. -/
def once {α : Type} (flag : Flag) (old : Option α) (a : α) : Except Interruption (Option α) :=
  match old with
  | none => .ok (some a)
  | some _ => .error (.misuse (.repeated flag.name.toList))

/-- What is given after an option with a value. -/
def Given.set (given : Given) (flag : Flag) (value : Text) : Except Interruption Given :=
  let bad : Except Interruption Given := .error (.misuse (.badValue flag.name.toList value))
  match flag with
  | .config =>
    if value.isEmpty then bad
    else do return { given with config := ← once flag given.config value }
  | .grammar =>
    match Language.ofName? value with
    | some language => do return { given with language := ← once flag given.language language }
    | none => bad
  | .format =>
    match OutputFormat.ofName? value with
    | some format => do return { given with format := ← once flag given.format format }
    | none => bad
  | _ => .ok given

/-- What is given after an option without a value. -/
def Given.raise (given : Given) : Flag → Except Interruption Given
  | .help => .error .help
  | .version => .error .version
  | _ => .ok given

/-- Whether an argument can be the value of the option before it: it does not look like an
option. -/
def isValue (argument : Text) : Bool := argument.head? != some '-' || argument == ['-']

/-- The value of an option from the arguments after it, and the arguments left. -/
def nextValue (flag : Flag) : List Text → Except Interruption (Text × List Text)
  | value :: rest =>
    if isValue value then .ok (value, rest)
    else .error (.misuse (.missingValue flag.name.toList))
  | [] => .error (.misuse (.missingValue flag.name.toList))

/-- An option in its long form without the hyphens, with the arguments after it. -/
def readLong (level : Level) (given : Given) (argument : Text) (rest : List Text) :
    Except Interruption (Given × List Text) :=
  let (name, value) := argument.span (· != '=')
  match level.flags.find? fun flag => flag.name.toList == name with
  | none => .error (.misuse (.unknownOption name))
  | some flag =>
    if flag.takesValue then
      match value with
      | _ :: value => do return (← given.set flag value, rest)
      | [] => do
        let (value, rest) ← nextValue flag rest
        return (← given.set flag value, rest)
    else if value.isEmpty then do return (← given.raise flag, rest)
    else .error (.misuse (.excessValue name))

/-- Options in their short form without the hyphen, with the arguments after them. -/
def readShort (level : Level) (given : Given) :
    Text → List Text → Except Interruption (Given × List Text)
  | [], rest => .ok (given, rest)
  | letter :: more, rest =>
    match level.flags.find? fun flag => flag.letter == letter with
    | none => .error (.misuse (.unknownOption [letter]))
    | some flag =>
      if flag.takesValue then
        match more with
        | [] => do
          let (value, rest) ← nextValue flag rest
          return (← given.set flag value, rest)
        | '=' :: value => do return (← given.set flag value, rest)
        | value => do return (← given.set flag value, rest)
      else do
        let given ← given.raise flag
        readShort level given more rest

/-- An argument that is no option, after a command. -/
def Given.place (given : Given) (level : Level) (argument : Text) : Except Interruption Given :=
  match level with
  | .top => .error (.misuse (.unknownCommand argument))
  | .grammars => .error (.misuse (.excess argument))
  | _ =>
    match given.path with
    | none => .ok { given with path := some argument }
    | some _ => .error (.misuse (.excess argument))

/-- The arguments after `--`. -/
def readPlain (level : Level) : Given → List Text → Except Interruption Given
  | given, [] => .ok given
  | given, argument :: rest => do
    let given ← given.place level argument
    readPlain level given rest

/-- The options at the front of some arguments, up to an argument that is none. The second part
says whether such an argument may be a command. -/
def readOptions (level : Level) :
    Nat → Given → List Text → Except Interruption (Given × Bool × List Text)
  | 0, given, rest => .ok (given, false, rest)
  | _ + 1, given, [] => .ok (given, false, [])
  | fuel + 1, given, argument :: rest =>
    match argument with
    | ['-', '-'] => .ok (given, false, rest)
    | '-' :: '-' :: name => do
      let (given, rest) ← readLong level given name rest
      readOptions level fuel given rest
    | '-' :: c :: letters => do
      let (given, rest) ← readShort level given (c :: letters) rest
      readOptions level fuel given rest
    | _ => .ok (given, true, argument :: rest)

/-- The arguments after a command. -/
def readAfter (level : Level) : Nat → Given → List Text → Except Interruption Given
  | 0, given, _ => .ok given
  | fuel + 1, given, arguments => do
    let (given, options, rest) ← readOptions level (arguments.length + 1) given arguments
    match options, rest with
    | true, argument :: rest => do
      let given ← given.place level argument
      readAfter level fuel given rest
    | _, rest => readPlain level given rest

/-! ## Reading all arguments -/

/-- The path that is given. -/
def Given.thePath (given : Given) : Except Interruption Text :=
  match given.path with
  | some path => .ok path
  | none => .error (.misuse .missingPath)

/-- The command that is given after its name. -/
def Given.command (given : Given) : Level → Except Interruption Command
  | .highlight => do return .highlight (← given.thePath) given.language given.format
  | .tokens => do return .tokens (← given.thePath) given.language
  | .grammars => .ok .grammars
  | .top => .error (.misuse .missingCommand)

/-- The request for help with a command, if the arguments name one. -/
def readHelp : List Text → Interruption
  | [] => .help
  | [name] =>
    if name == "help".toList || (Level.ofCommand? name).isSome then .help
    else .misuse (.unknownCommand name)
  | _ :: argument :: _ => .misuse (.excess argument)

/-- What some arguments ask for. -/
def read (arguments : List Text) : Except Interruption Invocation := do
  let (top, options, rest) ← readOptions .top (arguments.length + 1) {} arguments
  match options, rest with
  | true, name :: rest =>
    match Level.ofCommand? name with
    | some level => do
      let given ← readAfter level (rest.length + 1) {} rest
      let command ← given.command level
      return { config := given.config.orElse fun _ => top.config, command }
    | none =>
      if name == "help".toList then .error (readHelp rest)
      else .error (.misuse (.unknownCommand name))
  | _, argument :: _ => .error (.misuse (.unknownCommand argument))
  | _, [] => .error (.misuse .missingCommand)

end Highlighter.CommandLine
