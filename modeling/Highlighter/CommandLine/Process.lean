import Highlighter.CommandLine.Run

/-!
# What the program does, in order

`run` tells what a run leaves behind. Here the program is a process: a tree that says
what is done next, and how it goes on with each answer. It looks for the file of the
configuration, reads the source, writes, reports, and ends. The trace of a process in
some surroundings is what it does there, in order.
-/

namespace Highlighter.CommandLine

/-- What remains to be done. -/
inductive Process where
  /-- Ends with a number. -/
  | exit (code : Nat)
  /-- Looks for the file of a configuration at a path. -/
  | look (path : Text) (next : Entry → Process)
  /-- Reads the source at a path. -/
  | source (path : Text) (next : Except ReadError Text → Process)
  /-- Writes to the output. -/
  | print (t : Text) (next : Process)
  /-- Writes to the error stream. -/
  | report (t : Text) (next : Process)

/-! ## Traces -/

/-- What a process does at one time. -/
inductive Event where
  /-- It looks for a file at a path. -/
  | look (path : Text)
  /-- It reads the source at a path. -/
  | source (path : Text)
  /-- It writes to the output. -/
  | print (t : Text)
  /-- It writes to the error stream. -/
  | report (t : Text)
  deriving DecidableEq, Repr

/-- What is written to the output. -/
def Event.output : Event → Text
  | print t => t
  | _ => []

/-- What is written to the error stream. -/
def Event.errors : Event → Text
  | report t => t
  | _ => []

/-- What a process does until its end. -/
structure Trace where
  /-- What it does, in order. -/
  events : List Event
  /-- The number that it ends with. -/
  code : Nat
  deriving DecidableEq, Repr

namespace Trace

/-- A trace with events before it. -/
def after (events : List Event) (trace : Trace) : Trace :=
  ⟨events ++ trace.events, trace.code⟩

/-- What a trace leaves behind. -/
def outcome (trace : Trace) : Outcome where
  code := trace.code
  output := trace.events.flatMap Event.output
  errors := trace.events.flatMap Event.errors

@[simp] theorem after_after (before events : List Event) (trace : Trace) :
    (trace.after events).after before = trace.after (before ++ events) := by
  simp [after]

end Trace

/-- The trace of a process in some surroundings. -/
def Process.trace (s : Surroundings) : Process → Trace
  | exit code => ⟨[], code⟩
  | look path next => ((next (s.files path)).trace s).after [.look path]
  | source path next => ((next (s.read path)).trace s).after [.source path]
  | print t next => (next.trace s).after [.print t]
  | report t next => (next.trace s).after [.report t]

/-! ## The program -/

namespace Process

/-- Reports a failure and ends. -/
def fail (failure : Failure) : Process := .report (failure.message ++ ['\n']) (.exit 1)

/-- Goes on with a result, or reports why there is none. -/
def attempt {ε α : Type} (failure : ε → Failure) (r : Except ε α) (next : α → Process) : Process :=
  match r with
  | .ok a => next a
  | .error e => fail (failure e)

/-- Writes some pieces one after another and ends. -/
def printAll : List Text → Process
  | [] => .exit 0
  | t :: rest => .print t (printAll rest)

/-- Looks for the file of a path, under its name and then with the extension. -/
def locate (path : Text) (next : Option (Text × Option Text) → Process) : Process :=
  .look path fun
    | .file text => next (some (FilePath.normalize path, text))
    | _ =>
      if (FilePath.fileName? path).isNone then next none
      else
        .look (Config.extended path) fun
          | .file text => next (some (Config.extended path, text))
          | _ => next none

/-- Reads the files among some layers of a configuration. -/
def readFiles :
    List Config.Layer → (List (List (Text × Config.Value)) → Process) → Process
  | [], next => next []
  | .file path required :: rest, next =>
    locate path fun found =>
      attempt .config (Config.fieldsFound path required found) fun fields =>
        readFiles rest fun more => next (fields :: more)
  | .single _ _ :: rest, next => readFiles rest next

/-- Loads a configuration. -/
def load (layers : List Config.Layer) (next : Config.Settings → Process) : Process :=
  readFiles layers fun sources =>
    attempt .config (Config.readSettings (Config.assemble sources layers)) next

/-- Reads a source. -/
def readSource (path : Text) (next : Text → Process) : Process :=
  .source path fun r => attempt (.source path) r next

end Process

/-- What a command does under some settings. -/
def Command.process (lib : Libraries) (settings : Config.Settings) : Command → Process
  | highlight path asked _ => .readSource path fun source =>
      let tokens := tokenize (pickLanguage settings asked path source).grammar source
      .attempt .render (settings.format.render lib.serializers settings.render tokens)
        fun output => .printAll [output]
  | tokens path asked => .readSource path fun source =>
      .printAll [Lines.render (tokenize (pickLanguage settings asked path source).grammar source)]
  | grammars => .printAll listing

/-- What the program does. -/
def process (lib : Libraries) (arguments : List Text) : Process :=
  match read arguments with
  | .error .version => .printAll [versionText]
  | .error .help => .printAll [lib.help arguments]
  | .error (.misuse e) => .report (lib.misuse e ++ ['\n']) (.exit 2)
  | .ok invocation =>
    .attempt .config invocation.layers fun layers =>
      .load layers (invocation.command.process lib)

end Highlighter.CommandLine
