import Highlighter.CommandLine.Run
import Highlighter.Proofs.Config.Groups
import Highlighter.Proofs.Scan.Run

/-!
# Plain output

A single value at the end of the layers is put into the tree of all the others
(`build_append_single`), so the format that a command asks for prevails over every file
and changes no other setting (`settings_of_load_append_format`).  The tokens of a source
tile it under any grammar.  Hence `highlight` writes the source as it is whenever the
format is plain text, or terminal colors that are not wanted (`plain_output`).
-/

namespace Highlighter

namespace Config

/-! ## A single value over the other layers -/

theorem readFiles_append_single (files : Files) (layers : List Layer) (key : Key) (v : Scalar) :
    readFiles files (layers ++ [.single key v]) = readFiles files layers := by
  induction layers with
  | nil => rfl
  | cons layer rest ih => cases layer <;> simp [readFiles, ih]

theorem addSingles_append_single (root : Value) (layers : List Layer) (key : Key) (v : Scalar) :
    addSingles root (layers ++ [.single key v]) =
      Value.putAt key (.scalar none v) (addSingles root layers) := by
  induction layers generalizing root with
  | nil => rfl
  | cons layer rest ih => cases layer <;> simp [addSingles, ih]

/-- A single value at the end is put into the tree of the layers before it. -/
theorem build_append_single (files : Files) (layers : List Layer) (key : Key) (v : Scalar) :
    build files (layers ++ [.single key v]) =
      (build files layers).map (Value.putAt key (.scalar none v)) := by
  simp only [build, readFiles_append_single, assemble, addSingles_append_single]
  cases readFiles files layers <;> rfl

end Config

namespace CommandLine

open Config

/-! ## The format that is asked for -/

/-- Every format answers to its name. -/
theorem read_formatName (format : OutputFormat) :
    formatSetting.read (.scalar none (.string format.name.toList)) = .ok format := by
  have hfind : (OutputFormat.documentNames.find? fun n =>
      Text.eqIgnoreCase n.1.toList format.name.toList) = some (format.name, format) := by
    cases format <;> decide +kernel
  simp only [formatSetting, readName, hfind]

/-- What is read from a tree of values with a format put into it: that format, and everything else
as it is in the tree. -/
theorem readSettings_putAt_format {root : Value} {format : OutputFormat} {settings : Settings}
    (h : readSettings (Value.putAt formatPlace (.scalar none (.string format.name.toList)) root) =
      .ok settings) :
    settings.format = format ∧
    languageSetting.inTable? ((root.field? highlightGroup.name.toList).getD .nil).fields =
      .ok (some settings.language) ∧
    htmlGroup.inTable? root.fields =
      .ok (some (settings.render.html.classPrefix, settings.render.html.wrap)) ∧
    ansiGroup.inTable? root.fields = .ok (some settings.render.color) := by
  have hplace : formatPlace = ⟨highlightGroup.name.toList, [.field formatSetting.name.toList]⟩ :=
    rfl
  rw [hplace, putAt_field] at h
  obtain ⟨hhighlight, hhtml, hansi⟩ := readSettings_eq_ok_iff.mp h
  obtain ⟨group, hgroup, hread⟩ := Setting.inTable?_eq_some_iff.mp hhighlight
  cases (Value.field?_withField_self root highlightGroup.name.toList _).symm.trans hgroup
  obtain ⟨hlanguage, hformat⟩ := readChoices_table_eq_ok_iff.mp hread
  refine ⟨?_, ?_, ?_, ?_⟩
  · obtain ⟨v, hv, hname⟩ := Setting.inTable?_eq_some_iff.mp hformat
    rw [Value.lookup_setField_self] at hv
    cases hv
    exact Except.ok.inj (hname.symm.trans (read_formatName format))
  · rw [← hlanguage]
    exact Setting.inTable?_congr (Value.lookup_setField_of_ne (by decide) _ _).symm
  · rw [← hhtml]
    exact Setting.inTable?_congr (Value.field?_withField_of_ne root (by decide) _).symm
  · rw [← hansi]
    exact Setting.inTable?_congr (Value.field?_withField_of_ne root (by decide) _).symm

/-- If the choices can be read as a group, the language can be read as a field of theirs. A list
has no fields. -/
theorem readSettings_language {root : Value} {settings alone : Settings}
    (h : languageSetting.inTable? ((root.field? highlightGroup.name.toList).getD .nil).fields =
      .ok (some settings.language))
    (halone : readSettings root = .ok alone) : settings.language = alone.language := by
  obtain ⟨hhighlight, -, -⟩ := readSettings_eq_ok_iff.mp halone
  obtain ⟨group, hgroup, hread⟩ := Setting.inTable?_eq_some_iff.mp hhighlight
  rw [Value.field?, hgroup] at h
  cases group with
  | table origin fields =>
    obtain ⟨hlanguage, -⟩ := readChoices_table_eq_ok_iff.mp hread
    simpa using h.symm.trans hlanguage
  | scalar origin v => cases h
  | array origin items => cases h

/-- The settings of layers with a format over them have that format, and besides are those of the
layers alone. -/
theorem settings_of_load_append_format {files : Files} {layers : List Layer}
    {format : OutputFormat} {settings : Settings}
    (h : load files (layers ++ [.single formatPlace (.string format.name.toList)]) =
      .ok settings) :
    settings.format = format ∧
      ∀ alone, load files layers = .ok alone → settings = { alone with format } := by
  obtain ⟨root', hroot', hread⟩ := bind_eq_ok_iff.mp h
  rw [build_append_single] at hroot'
  cases hroot : build files layers with
  | error e => simp [hroot, Except.map] at hroot'
  | ok root =>
    rw [hroot] at hroot'
    cases hroot'
    obtain ⟨hformat, hlanguage, hhtml, hansi⟩ := readSettings_putAt_format hread
    refine ⟨hformat, fun alone halone => ?_⟩
    rw [load, hroot] at halone
    have hsame := readSettings_language hlanguage halone
    obtain ⟨-, hhtml', hansi'⟩ := readSettings_eq_ok_iff.mp halone
    rw [hhtml] at hhtml'
    rw [hansi] at hansi'
    obtain ⟨language, _, ⟨⟨classPrefix, wrap⟩, color⟩⟩ := settings
    obtain ⟨_, _, ⟨⟨_, _⟩, _⟩⟩ := alone
    cases hformat
    cases hsame
    cases hhtml'
    cases hansi'
    rfl

/-! ## The output -/

/-- The bytes of a text that is read from bytes. -/
theorem toUTF8_of_ofBytes? {bytes : ByteArray} {source : Text}
    (h : Text.ofBytes? bytes = some source) : (String.ofList source).toUTF8 = bytes := by
  obtain ⟨t, ht, rfl⟩ := Option.map_eq_some_iff.mp h
  rw [String.ofList_toList]
  unfold String.fromUTF8? at ht
  split at ht
  · cases ht
    rfl
  · cases ht

/-- With a format that is asked for, the settings are those of the layers without it and the format
over them. -/
theorem settings_highlight (files : Files) (config : Option Text) (path : Text)
    (asked : Option Language) :
    Invocation.settings files ⟨config, .highlight path asked none⟩ =
      load files (Invocation.fileLayers ⟨config, .highlight path asked none⟩) ∧
    ∀ format : OutputFormat,
      Invocation.settings files ⟨config, .highlight path asked (some format)⟩ =
        load files (Invocation.fileLayers ⟨config, .highlight path asked none⟩ ++
          [.single formatPlace (.string format.name.toList)]) :=
  ⟨rfl, fun _ => rfl⟩

/-- The tokens of a source in plain text, or in terminal colors that are not wanted, are the source,
whatever the grammar is, and no serializer is asked. -/
theorem render_tokenize (serializers : Serializers) {format : OutputFormat}
    {options : RenderOptions} (h : format = .text ∨ format = .ansi ∧ options.color = false)
    (g : Grammar) (source : Text) :
    format.render serializers options (tokenize g source) = .ok source := by
  have htokens : detokenize (tokenize g source) = source := (tiles_tokenize g source).detokenize
  rcases h with rfl | ⟨rfl, hcolor⟩
  · rw [OutputFormat.render, htokens]
  · simp [OutputFormat.render, hcolor, htokens]

/-- If the arguments ask to highlight a source in plain text, or in terminal colors that are not
wanted, the configuration loads and the source can be read, the run ends with 0 and writes exactly
the source, byte by byte, whatever the libraries do.  The configuration is that of the same
arguments without the format, but for the format. -/
theorem plain_output (lib : Libraries) {s : Surroundings} {arguments : List Text}
    {config : Option Text} {path source : Text} {asked : Option Language} {format : OutputFormat}
    {settings : Settings}
    (hread : read arguments = .ok ⟨config, .highlight path asked (some format)⟩)
    (hload : Invocation.settings s.files ⟨config, .highlight path asked (some format)⟩ =
      .ok settings)
    (hsource : s.read path = .ok source)
    (hplain : format = .text ∨ format = .ansi ∧ settings.render.color = false) :
    run lib s arguments = { code := 0, output := source } ∧
    (∀ bytes, Text.ofBytes? bytes = some source →
      (String.ofList (run lib s arguments).output).toUTF8 = bytes) ∧
    settings.format = format ∧
    ∀ alone, Invocation.settings s.files ⟨config, .highlight path asked none⟩ = .ok alone →
      settings = { alone with format } := by
  obtain ⟨hnone, hsome⟩ := settings_highlight s.files config path asked
  obtain ⟨hformat, halone⟩ := settings_of_load_append_format (hsome format ▸ hload)
  have houtput : Invocation.output lib s ⟨config, .highlight path asked (some format)⟩ =
      .ok source := by
    simp only [Invocation.output, hload, Command.output, readTokens, hsource, hformat, bind,
      Except.bind, render_tokenize lib.serializers hplain]
    rfl
  have hrun : run lib s arguments = { code := 0, output := source } := by
    simp only [run, hread, houtput]
  refine ⟨hrun, fun bytes hbytes => ?_, hformat, fun alone h => halone alone (hnone ▸ h)⟩
  rw [hrun]
  exact toUTF8_of_ofBytes? hbytes

/-- The arguments `highlight - --format=ansi -c c.toml` where the file asks for another format and
turns colors off: the input is written as it is. -/
theorem plain_output_colorless :
    let source := "FORCE maybe # why\n".toList
    let file := "highlight.format = 'yaml'\nansi.enabled = false\n".toList
    let s : Surroundings :=
      ⟨some source, fun path => if path == "c.toml".toList then .file (some file) else .missing⟩
    let arguments := ["highlight", "-", "--format=ansi", "-c", "c.toml"].map String.toList
    let invocation : Invocation := ⟨some "c.toml".toList, .highlight ['-'] none (some .ansi)⟩
    let settings : Settings := ⟨.pdfile, .ansi, ⟨{}, false⟩⟩
    read arguments = .ok invocation ∧ invocation.settings s.files = .ok settings ∧
    s.read ['-'] = .ok source ∧ settings.render.color = false ∧
    run .standard s arguments = { code := 0, output := source } ∧
    (String.ofList (run .standard s arguments).output).toUTF8 =
      "FORCE maybe # why\n".toUTF8 := by
  intro source file s arguments invocation settings
  have hread : read arguments = .ok invocation := by rfl
  have hload : invocation.settings s.files = .ok settings :=
    eq_ok_of_toOption (by decide +kernel)
  obtain ⟨hrun, hbytes, -, -⟩ := plain_output .standard hread hload rfl (.inr ⟨rfl, rfl⟩)
  refine ⟨hread, hload, rfl, rfl, hrun, ?_⟩
  rw [hrun]
  exact congrArg String.toUTF8 String.ofList_toList

end CommandLine

end Highlighter
