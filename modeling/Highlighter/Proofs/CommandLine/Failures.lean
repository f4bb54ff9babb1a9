import Highlighter.CommandLine.Process

/-!
# Failing runs

A process leaves behind what `run` says (`outcome_process`), so the order in which
things happen can be read off its trace.  Loading a configuration looks for its files
and does nothing else until it goes on with the settings or reports
(`Process.looksThen_load`).  Whatever can fail comes before the first thing that is written
(`Process.Guarded`), the serializers included, which may fail on any tokens here.  Hence a
run that fails has written nothing to its output, and a configuration that cannot be loaded
is reported before the source is read (`failure_before_output`).
-/

namespace Highlighter.CommandLine

variable {lib : Libraries} {s : Surroundings}

/-! ## Loading -/

namespace Process

theorem trace_fail (failure : Failure) :
    (fail failure).trace s = ⟨[.report (failure.message ++ ['\n'])], 1⟩ := rfl

theorem trace_printAll (pieces : List Text) :
    (printAll pieces).trace s = ⟨pieces.map .print, 0⟩ := by
  induction pieces with
  | nil => rfl
  | cons t rest ih => simp [printAll, trace, ih, Trace.after]

/-- Results one after another are attempted one after another. -/
theorem attempt_bind {ε α β : Type} (failure : ε → Failure) (r : Except ε α)
    (f : α → Except ε β) (next : β → Process) :
    attempt failure (r >>= f) next = attempt failure r fun a => attempt failure (f a) next := by
  cases r <;> rfl

/-- A process in some surroundings looks at paths of a list, and is then like another. -/
def LooksThen (s : Surroundings) (places : List Text) (p q : Process) : Prop :=
  ∃ paths : List Text, (∀ path ∈ paths, path ∈ places) ∧
    p.trace s = (q.trace s).after (paths.map .look)

namespace LooksThen

variable {places more : List Text} {p q r : Process}

theorem refl (p : Process) : LooksThen s places p p := ⟨[], by simp, rfl⟩

theorem trans (h : LooksThen s places p q) (h' : LooksThen s places q r) :
    LooksThen s places p r := by
  obtain ⟨paths, hmem, hp⟩ := h
  obtain ⟨paths', hmem', hq⟩ := h'
  refine ⟨paths ++ paths', fun path h => ?_, by rw [hp, hq]; simp⟩
  exact (List.mem_append.mp h).elim (hmem path) (hmem' path)

theorem mono (h : LooksThen s places p q) (hsub : places ⊆ more) : LooksThen s more p q := by
  obtain ⟨paths, hmem, hp⟩ := h
  exact ⟨paths, fun path h => hsub (hmem path h), hp⟩

/-- A look at one path of the list. -/
theorem look {path : Text} (hpath : path ∈ places) (next : Entry → Process) :
    LooksThen s places (.look path next) (next (s.files path)) :=
  ⟨[path], by simpa using hpath, rfl⟩

end LooksThen

/-- The file of a path is looked for under its two names. -/
theorem looksThen_locate (path : Text) (next : Option (Text × Option Text) → Process) :
    LooksThen s [path, Config.extended path] (locate path next)
      (next (Config.locate? s.files path)) := by
  refine (LooksThen.look (by simp) _).trans ?_
  unfold Config.locate?
  cases s.files path with
  | file text => exact .refl _
  | _ =>
    dsimp only
    split
    · exact .refl _
    · refine (LooksThen.look (by simp) _).trans ?_
      cases s.files (Config.extended path) <;> exact .refl _

/-- The paths at which a layer is looked for. -/
def layerPaths : Config.Layer → List Text
  | .file path _ => [path, Config.extended path]
  | .single _ _ => []

theorem looksThen_readFiles (layers : List Config.Layer)
    (next : List (List (Text × Config.Value)) → Process) :
    LooksThen s (layers.flatMap layerPaths) (readFiles layers next)
      (attempt .config (Config.readFiles s.files layers) next) := by
  induction layers generalizing next with
  | nil => exact .refl _
  | cons layer rest ih =>
    cases layer with
    | single key v => exact ih next
    | file path required =>
      refine ((looksThen_locate path _).mono (by simp [layerPaths])).trans ?_
      simp only [Config.readFiles, attempt_bind, Config.readFile]
      cases Config.fieldsFound path required (Config.locate? s.files path) with
      | error e => exact .refl _
      | ok fields => exact (ih _).mono (by simp [layerPaths])

/-- Loading a configuration looks for its files and does nothing else. -/
theorem looksThen_load (layers : List Config.Layer) (next : Config.Settings → Process) :
    LooksThen s (layers.flatMap layerPaths) (load layers next)
      (attempt .config (Config.load s.files layers) next) := by
  refine (looksThen_readFiles layers _).trans ?_
  simp only [Config.load, Config.build, attempt_bind]
  exact .refl _

end Process

/-! ## Writing or reporting -/

namespace Process

/-- Whatever the answers are, a process asks first, and then either writes all that it writes and
ends with 0, or reports and ends with another number. -/
inductive Guarded : Process → Prop where
  /-- It only writes. -/
  | printAll (pieces : List Text) : Guarded (printAll pieces)
  /-- It only reports. -/
  | report (t : Text) {code : Nat} (h : code ≠ 0) : Guarded (.report t (.exit code))
  /-- It looks for a file first. -/
  | look (path : Text) {next : Entry → Process} (h : ∀ entry, Guarded (next entry)) :
      Guarded (.look path next)
  /-- It reads a source first. -/
  | source (path : Text) {next : Except ReadError Text → Process} (h : ∀ r, Guarded (next r)) :
      Guarded (.source path next)

namespace Guarded

variable {p : Process}

theorem fail (failure : Failure) : Guarded (fail failure) := .report _ (by decide)

theorem attempt {ε α : Type} (failure : ε → Failure) (r : Except ε α) {next : α → Process}
    (h : ∀ a, Guarded (next a)) : Guarded (attempt failure r next) := by
  cases r with
  | ok a => exact h a
  | error e => exact fail _

theorem locate (path : Text) {next : Option (Text × Option Text) → Process}
    (h : ∀ found, Guarded (next found)) : Guarded (locate path next) := by
  refine .look path fun entry => ?_
  cases entry with
  | file text => exact h _
  | _ =>
    dsimp only
    split
    · exact h _
    · refine .look _ fun entry => ?_
      cases entry <;> exact h _

theorem readFiles (layers : List Config.Layer)
    {next : List (List (Text × Config.Value)) → Process} (h : ∀ sources, Guarded (next sources)) :
    Guarded (readFiles layers next) := by
  induction layers generalizing next with
  | nil => exact h []
  | cons layer rest ih =>
    cases layer with
    | single key v => exact ih h
    | file path required =>
      exact .locate path fun found => .attempt _ _ fun fields => ih fun more => h _

theorem load (layers : List Config.Layer) {next : Config.Settings → Process}
    (h : ∀ settings, Guarded (next settings)) : Guarded (load layers next) :=
  .readFiles layers fun _ => .attempt _ _ h

theorem readSource (path : Text) {next : Text → Process} (h : ∀ text, Guarded (next text)) :
    Guarded (readSource path next) :=
  .source path fun _ => .attempt _ _ h

theorem command (settings : Config.Settings) (c : Command) :
    Guarded (c.process lib settings) := by
  cases c with
  | highlight path asked format =>
    exact .readSource path fun _ => .attempt _ _ fun _ => .printAll _
  | tokens path asked => exact .readSource path fun _ => .printAll _
  | grammars => exact .printAll _

/-- The program fails before it writes. -/
theorem process (lib : Libraries) (arguments : List Text) : Guarded (process lib arguments) := by
  unfold CommandLine.process
  split
  · exact .printAll _
  · exact .printAll _
  · exact .report _ (by decide)
  · exact .attempt _ _ fun _ => .load _ (command · _)

/-- In a run that does not end with 0 nothing is written to the output. -/
theorem print_not_mem (h : Guarded p) (hcode : (p.trace s).code ≠ 0) (t : Text) :
    .print t ∉ (p.trace s).events := by
  induction h with
  | printAll pieces => simp [trace_printAll] at hcode
  | report t h => simp [trace, Trace.after]
  | look path h ih => simpa [trace, Trace.after] using ih _ hcode
  | source path h ih => simpa [trace, Trace.after] using ih _ hcode

end Guarded

end Process

/-! ## What a process leaves behind -/

namespace Trace

/-- Looking for files leaves nothing behind. -/
@[simp] theorem outcome_after_look (paths : List Text) (trace : Trace) :
    (trace.after (paths.map .look)).outcome = trace.outcome := by
  simp [outcome, after, List.flatMap_map, Event.output, Event.errors]

/-- Reading a source leaves nothing behind. -/
@[simp] theorem outcome_after_source (path : Text) (trace : Trace) :
    (trace.after [.source path]).outcome = trace.outcome := by
  simp [outcome, after, Event.output, Event.errors]

theorem output_eq_nil {trace : Trace} (h : ∀ t, .print t ∉ trace.events) :
    trace.outcome.output = [] := by
  refine List.flatMap_eq_nil_iff.mpr fun e he => ?_
  cases e with
  | print t => exact absurd he (h t)
  | _ => rfl

end Trace

namespace Process

theorem outcome_fail (failure : Failure) :
    ((fail failure).trace s).outcome = { code := 1, errors := failure.message ++ ['\n'] } := by
  simp [trace_fail, Trace.outcome, Event.output, Event.errors]

theorem outcome_printAll (pieces : List Text) :
    ((printAll pieces).trace s).outcome = { code := 0, output := pieces.flatten } := by
  simp [trace_printAll, Trace.outcome, List.flatMap_map, Event.output, Event.errors,
    List.flatMap_id']

end Process

/-- The outcome of what is written or of a failure. -/
def Outcome.ofResult : Except Failure Text → Outcome
  | .ok output => { code := 0, output }
  | .error failure => { code := 1, errors := failure.message ++ ['\n'] }

/-- A text that is attempted is written or the failure is reported. -/
theorem outcome_attempt {ε : Type} (failure : ε → Failure) (r : Except ε Text) :
    ((Process.attempt failure r fun t => .printAll [t]).trace s).outcome =
      .ofResult (r.mapError failure) := by
  cases r with
  | error e => exact Process.outcome_fail _
  | ok t =>
    show _ = Outcome.ofResult (.ok t)
    exact (Process.outcome_printAll [t]).trans (by simp [Outcome.ofResult])

theorem run_of_read {arguments : List Text} {invocation : Invocation}
    (h : read arguments = .ok invocation) :
    run lib s arguments = .ofResult (invocation.output lib s) := by
  simp only [run, h]
  cases invocation.output lib s <;> rfl

theorem outcome_command (settings : Config.Settings) (c : Command) :
    ((c.process lib settings).trace s).outcome = .ofResult (c.output lib s settings) := by
  cases c with
  | grammars => exact Process.outcome_printAll listing
  | highlight path asked format =>
    refine (Trace.outcome_after_source path _).trans ?_
    simp only [Command.output, readTokens]
    cases s.read path with
    | error e => exact Process.outcome_fail _
    | ok source => exact outcome_attempt .render _
  | tokens path asked =>
    refine (Trace.outcome_after_source path _).trans ?_
    simp only [Command.output, readTokens]
    cases s.read path with
    | error e => exact Process.outcome_fail _
    | ok source => exact (Process.outcome_printAll [_]).trans (by simp; rfl)

/-- The layers of an invocation lead to no file but that of its configuration. -/
theorem layerPaths_layers {invocation : Invocation} {layers : List Config.Layer}
    (h : invocation.layers = .ok layers) :
    layers.flatMap Process.layerPaths = invocation.configPaths := by
  have hfile : invocation.fileLayers.flatMap Process.layerPaths = invocation.configPaths := by
    rw [Invocation.fileLayers, Invocation.configPaths]
    cases invocation.config <;> rfl
  rw [Invocation.layers] at h
  cases hformat : invocation.command.format? with
  | none =>
    rw [hformat] at h
    cases h
    exact hfile
  | some format =>
    simp only [hformat, single?_formatKey] at h
    cases h
    rw [List.flatMap_append, hfile]
    exact List.append_nil _

/-- An invocation looks for its configuration, and then goes on with the settings or reports why
there are none. -/
theorem looksThen_process (lib : Libraries) {arguments : List Text} {invocation : Invocation}
    (h : read arguments = .ok invocation) :
    Process.LooksThen s invocation.configPaths (process lib arguments)
      (.attempt .config (invocation.settings s.files) (invocation.command.process lib)) := by
  simp only [process, h, Invocation.settings, Process.attempt_bind]
  cases hlayers : invocation.layers with
  | error e => exact .refl _
  | ok layers =>
    rw [← layerPaths_layers hlayers]
    exact Process.looksThen_load layers _

/-- The process of some arguments leaves behind what `run` says. -/
theorem outcome_process (lib : Libraries) (s : Surroundings) (arguments : List Text) :
    ((process lib arguments).trace s).outcome = run lib s arguments := by
  cases h : read arguments with
  | error interruption =>
    cases interruption <;> simp only [process, run, h]
    case version => simpa using Process.outcome_printAll [versionText]
    case help => simpa using Process.outcome_printAll [lib.help arguments]
    case misuse e => simp [Process.trace, Trace.after, Trace.outcome, Event.output, Event.errors]
  | ok invocation =>
    obtain ⟨paths, -, htrace⟩ := looksThen_process lib (s := s) h
    rw [htrace, Trace.outcome_after_look, run_of_read h, Invocation.output]
    cases invocation.settings s.files with
    | error e => exact Process.outcome_fail _
    | ok settings => exact outcome_command settings _

/-! ## The order of reports -/

/-- A run leaves behind what its process does, whatever the libraries do.  If it ends with 1, it has
written nothing to its output at any time.  If the arguments mean something, the run looks for the
configuration first.  If that cannot be loaded, all that follows is the report, so the source is not
read; else what follows is what the command does under the settings. -/
theorem failure_before_output (lib : Libraries) (s : Surroundings) (arguments : List Text) :
    ((process lib arguments).trace s).outcome = run lib s arguments ∧
    ((run lib s arguments).code = 1 → (run lib s arguments).output = [] ∧
      ∀ t, .print t ∉ ((process lib arguments).trace s).events) ∧
    ∀ invocation, read arguments = .ok invocation →
      ∃ paths : List Text, (∀ path ∈ paths, path ∈ invocation.configPaths) ∧
        (∀ e, invocation.settings s.files = .error e →
          (process lib arguments).trace s =
            ⟨paths.map .look ++ [.report ((Failure.config e).message ++ ['\n'])], 1⟩) ∧
        ∀ settings, invocation.settings s.files = .ok settings →
          (process lib arguments).trace s =
            ((invocation.command.process lib settings).trace s).after (paths.map .look) := by
  have houtcome := outcome_process lib s arguments
  refine ⟨houtcome, fun hcode => ?_, fun invocation hread => ?_⟩
  · have hcode' : ((process lib arguments).trace s).code ≠ 0 := by
      have hsame : ((process lib arguments).trace s).code = (run lib s arguments).code :=
        congrArg Outcome.code houtcome
      simp [hsame, hcode]
    have hnone := (Process.Guarded.process lib arguments).print_not_mem hcode'
    exact ⟨houtcome ▸ Trace.output_eq_nil hnone, hnone⟩
  · obtain ⟨paths, hpaths, htrace⟩ := looksThen_process lib (s := s) hread
    refine ⟨paths, hpaths, fun e he => ?_, fun settings hs => ?_⟩
    · rw [htrace, he]
      rfl
    · rw [htrace, hs]
      rfl

/-- The arguments `tokens - -c c.toml` where the file is broken and the input is no text: the file
is reported, and the input is not read. -/
theorem failure_before_output_broken_file :
    let s : Surroundings :=
      ⟨none, fun path => if path == "c.toml".toList then .file (some ['[']) else .missing⟩
    let arguments := ["tokens", "-", "-c", "c.toml"].map String.toList
    let invocation : Invocation := ⟨some "c.toml".toList, .tokens ['-'] none⟩
    read arguments = .ok invocation ∧
    invocation.settings s.files = .error (.badFile "c.toml".toList 1 2) ∧
    (run .standard s arguments).code = 1 ∧ (run .standard s arguments).output = [] ∧
    .source ['-'] ∉ ((process .standard arguments).trace s).events := by
  intro s arguments invocation
  have hread : read arguments = .ok invocation := by rfl
  have hload : invocation.settings s.files =
      .error (.badFile "c.toml".toList 1 2) := by rfl
  have hcode : (run .standard s arguments).code = 1 := by decide +kernel
  obtain ⟨-, hsilent, horder⟩ := failure_before_output .standard s arguments
  obtain ⟨paths, -, herror, -⟩ := horder invocation hread
  refine ⟨hread, hload, hcode, (hsilent hcode).1, ?_⟩
  rw [herror _ hload]
  simp

end Highlighter.CommandLine
