import Highlighter.CommandLine.Arguments
import Highlighter.Config.Load
import Highlighter.Render.Lines

/-!
# Running a command

What the program writes and how it ends, as a function of its arguments, its input
and the files it sees. The configuration is loaded first, whatever the command is;
only then the source is read. A run that fails writes to the error stream alone.

Every definition takes what other libraries do for the program as an argument: the
texts about its usage, and the dumps of tokens as structured data.
-/

namespace Highlighter.CommandLine

/-- What a run of the program leaves behind. -/
structure Outcome where
  /-- The number that it ends with. -/
  code : Nat
  /-- What it writes to its output. -/
  output : Text := []
  /-- What it writes to its error stream. -/
  errors : Text := []
  deriving DecidableEq, Repr

/-- What a program meets: its input, if it is a text, and its files. -/
structure Surroundings where
  /-- The text of the standard input, if its bytes are a text. -/
  input : Option Text
  /-- What is at each path. -/
  files : Files

/-- What other libraries do for the program. -/
structure Libraries where
  /-- The text that tells how the program is used, on the arguments that ask for it. -/
  help : List Text → Text
  /-- The text that reports a wrong use. -/
  misuse : UsageError → Text
  /-- The writers of structured data. -/
  serializers : Serializers

/-- Why a run fails. -/
inductive Failure where
  /-- The configuration cannot be loaded. -/
  | config (e : Config.ConfigError)
  /-- The source at a path cannot be read. -/
  | source (path : Text) (e : ReadError)
  /-- The tokens cannot be written. -/
  | render (e : FormatError)
  deriving DecidableEq, Repr

/-- The text that reports a failure. -/
def Failure.message : Failure → Text
  | config e =>
      "Error loading configuration: ".toList ++ e.message ++
        (match e with
          | .badFile file _ _ => "\n in ".toList ++ file
          | _ => [])
  | source path e =>
      "Error reading ".toList ++ path ++ ": ".toList ++ e.message.toList
  | render e => "Render error: ".toList ++ e.message

/-- The text that tells the version. -/
def versionText : Text := "pdlex 0.1.0\n".toList

/-- A short text about the usage, short reports, and the serializers that always succeed. -/
def Libraries.standard : Libraries where
  help _ :=
    ("Usage: pdlex [-c FILE] [-v] COMMAND\n\n" ++
      "  highlight PATH [-g GRAMMAR] [-f FORMAT]\n" ++
      "  tokens PATH [-g GRAMMAR]\n" ++
      "  grammars\n").toList
  misuse := UsageError.message
  serializers := .standard

/-! ## The configuration -/

/-- The format that a command asks for. -/
def Command.format? : Command → Option OutputFormat
  | highlight _ _ format => format
  | _ => none

/-- The text of the key of the format among the settings. -/
def formatKey : Text := "highlight.format".toList

/-- The place that this key leads to. -/
def formatPlace : Config.Key := ⟨"highlight".toList, [.field "format".toList]⟩

theorem single?_formatKey (v : Config.Scalar) :
    Config.Layer.single? formatKey v = .ok (.single formatPlace v) := rfl

/-- The layer of the file of a configuration, if one is given. -/
def Invocation.fileLayers (invocation : Invocation) : List Config.Layer :=
  match invocation.config with
  | some path => [.file path true]
  | none => []

/-- The layers of the configuration of an invocation: the file, and the format over it. -/
def Invocation.layers (invocation : Invocation) : Except Config.ConfigError (List Config.Layer) :=
  match invocation.command.format? with
  | none => .ok invocation.fileLayers
  | some format => do
    let layer ← Config.Layer.single? formatKey (.string format.name.toList)
    return invocation.fileLayers ++ [layer]

/-- The settings of an invocation. -/
def Invocation.settings (files : Files) (invocation : Invocation) :
    Except Config.ConfigError Config.Settings := do
  Config.load files (← invocation.layers)

/-! ## The commands -/

/-- The text of a source. A hyphen stands for the input. -/
def Surroundings.read (s : Surroundings) (path : Text) : Except ReadError Text :=
  if path == ['-'] then decoded s.input else (s.files path).read

/-- The language of a source: the one that is asked for, else the one that the source tells, else
the one of the configuration. -/
def pickLanguage (settings : Config.Settings) (asked : Option Language) (path source : Text) :
    Language :=
  (asked.orElse fun _ => Language.guess path source).getD settings.language

/-- The tokens of a source. -/
def readTokens (s : Surroundings) (settings : Config.Settings) (path : Text)
    (asked : Option Language) : Except Failure (List Token) :=
  match s.read path with
  | .error e => .error (.source path e)
  | .ok source => .ok (tokenize (pickLanguage settings asked path source).grammar source)

/-- The line that a language starts with. -/
def heading (l : Language) : Text :=
  [' ', ' '] ++ l.name.toList ++ " (aliases: ".toList ++
    Text.join [',', ' '] (l.aliases.map String.toList) ++ [')', '\n']

/-- The line of a state. -/
def stateLine (s : State) : Text :=
  "    ".toList ++ Text.padRight 20 s.name.toList ++ ' ' :: Text.ofNat s.rules.length ++
    " rules\n".toList

/-- The pieces that list the languages, as they are written one after another. -/
def listing : List Text :=
  "Available grammars:\n\n".toList ::
    Language.all.flatMap fun l => heading l :: l.grammar.states.map stateLine

/-- What a command writes under some settings. -/
def Command.output (lib : Libraries) (s : Surroundings) (settings : Config.Settings) :
    Command → Except Failure Text
  | highlight path asked _ => do
    let tokens ← readTokens s settings path asked
    (settings.format.render lib.serializers settings.render tokens).mapError .render
  | tokens path asked => do return Lines.render (← readTokens s settings path asked)
  | grammars => .ok listing.flatten

/-- What an invocation writes. -/
def Invocation.output (lib : Libraries) (s : Surroundings) (invocation : Invocation) :
    Except Failure Text :=
  match invocation.settings s.files with
  | .error e => .error (.config e)
  | .ok settings => invocation.command.output lib s settings

/-- A run of the program. -/
def run (lib : Libraries) (s : Surroundings) (arguments : List Text) : Outcome :=
  match read arguments with
  | .error .version => { code := 0, output := versionText }
  | .error .help => { code := 0, output := lib.help arguments }
  | .error (.misuse e) => { code := 2, errors := lib.misuse e ++ ['\n'] }
  | .ok invocation =>
    match invocation.output lib s with
    | .ok output => { code := 0, output }
    | .error failure => { code := 1, errors := failure.message ++ ['\n'] }

/-- The paths at which an invocation may look for its configuration. -/
def Invocation.configPaths (invocation : Invocation) : List Text :=
  match invocation.config with
  | some path => [path, Config.extended path]
  | none => []

end Highlighter.CommandLine
