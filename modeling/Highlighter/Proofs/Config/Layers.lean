import Highlighter.Proofs.Config.Groups
import Highlighter.Proofs.Toml.DistinctKeys

/-!
# Layers of a configuration

A configuration is put together in steps, each of which adds a file or sets one of the five
settings that have a documented key.  For each setting one value prevails: the last that is
set for it, else the last that a file has for it, else the one that is built in (`winner`).
The tree of values holds the winner of each setting at its place (`Value.Holds`), and the
two lemmas that carry this are about one file (`Value.Holds.addSource`) and one value that
is set (`Value.Holds.putAt`).

So what is loaded are the winners as they are read, and loading fails only when some winner
cannot be read (`layered_winners`).  A value that does not prevail is never read.

In a file each setting stands in the table of its group, if it is there, and has a value
without parts (`SettingKey.Fits`).  Anything else may stand in the file too, as long as its
name is no other spelling of a group or a setting.
-/

namespace Highlighter.Config

/-! ## Settings by their keys -/

/-- A setting with a documented key. -/
inductive SettingKey where
  /-- The language of a file that tells none. -/
  | grammar
  /-- The format of the output. -/
  | format
  /-- What the class names in markup start with. -/
  | classPrefix
  /-- Whether markup is put into a block. -/
  | wrap
  /-- Whether terminal colors are wanted. -/
  | color
  deriving DecidableEq, Repr

namespace SettingKey

/-- The key as it is written. -/
def text : SettingKey → String
  | grammar => "highlight.grammar"
  | format => "highlight.format"
  | classPrefix => "html.class_prefix"
  | wrap => "html.wrap"
  | color => "ansi.enabled"

/-- What the setting is. -/
def Kind : SettingKey → Type
  | grammar => Language
  | format => OutputFormat
  | classPrefix => Text
  | wrap => Bool
  | color => Bool

/-- How the setting is read. -/
def setting : (k : SettingKey) → Setting k.Kind
  | grammar => languageSetting
  | format => formatSetting
  | classPrefix => classPrefixSetting
  | wrap => wrapSetting
  | color => colorSetting

/-- The setting among all settings. -/
def get (settings : Settings) : (k : SettingKey) → k.Kind
  | grammar => settings.language
  | format => settings.format
  | classPrefix => settings.render.html.classPrefix
  | wrap => settings.render.html.wrap
  | color => settings.render.color

/-- The value that is built in. -/
def initial : SettingKey → Scalar
  | grammar => .string "pdfile".toList
  | format => .string "ansi".toList
  | classPrefix => .string []
  | wrap => .boolean true
  | color => .boolean true

/-- The name of the group of the setting. -/
def group : SettingKey → Text
  | grammar => highlightGroup.name.toList
  | format => highlightGroup.name.toList
  | classPrefix => htmlGroup.name.toList
  | wrap => htmlGroup.name.toList
  | color => ansiGroup.name.toList

/-- The name of the setting in its group. -/
def name (k : SettingKey) : Text := k.setting.name.toList

/-- The place of the setting. -/
def place (k : SettingKey) : Key := ⟨k.group, [.field k.name]⟩

instance {p : SettingKey → Prop} [DecidablePred p] : Decidable (∀ k, p k) :=
  decidable_of_iff (p grammar ∧ p format ∧ p classPrefix ∧ p wrap ∧ p color)
    ⟨fun ⟨hgrammar, hformat, hclass, hwrap, hcolor⟩ k => by cases k <;> assumption,
      fun h => ⟨h _, h _, h _, h _, h _⟩⟩

theorem eq_of_place : ∀ k k' : SettingKey, k.group = k'.group → k.name = k'.name → k = k' := by
  decide +kernel

theorem asciiLower_name : ∀ k : SettingKey, Text.asciiLower k.name = k.name := by
  decide +kernel

theorem read_group : ∀ k : SettingKey, (Key.read k.group).toOption = some ⟨k.group, []⟩ := by
  decide +kernel

theorem read_text : ∀ k : SettingKey, (Key.read k.text.toList).toOption = some k.place := by
  decide +kernel

end SettingKey

/-! ## Documents -/

/-- The field of all settings that a field of a document with a name goes to. -/
def reached (name : Text) : Text :=
  match Key.read name with
  | .ok key => key.first
  | .error _ => Text.asciiLower name

/-- Whether a value has no parts. -/
def Value.isSimple : Value → Bool
  | scalar _ _ => true
  | _ => false

namespace SettingKey

theorem reached_group (k : SettingKey) : reached k.group = k.group := by
  rw [reached, eq_ok_of_toOption k.read_group]

/-- A field of the table of its group is not the setting, or has the exact name and a value without
parts. -/
def FitsInside (k : SettingKey) (field : Text × Value) : Prop :=
  Text.asciiLower field.1 = k.name → field.1 = k.name ∧ field.2.isSimple = true

/-- A field of a document does not go to the group of the setting, or it is the table of the
group. -/
def Fits (k : SettingKey) : Text × Value → Prop
  | (name, .table _ inner) =>
      reached name = k.group → name = k.group ∧ ∀ field ∈ inner, k.FitsInside field
  | (name, _) => reached name ≠ k.group

instance (k : SettingKey) : DecidablePred k.FitsInside := fun _ =>
  inferInstanceAs (Decidable (_ → _ ∧ _))

instance (k : SettingKey) : DecidablePred k.Fits
  | (_, .table _ _) => inferInstanceAs (Decidable (_ → _ ∧ ∀ field ∈ _, k.FitsInside field))
  | (_, .scalar _ _) | (_, .array _ _) => inferInstanceAs (Decidable (_ ≠ _))

/-- The value that the fields of a document have for the setting. -/
def given? (k : SettingKey) (fields : List (Text × Value)) : Option Value :=
  (fields.lookup k.group).bind (·.field? k.name)

end SettingKey

/-- The fields of the document in the file that is found for a path. -/
def documentAt? (files : Files) (path : Text) : Option (List (Text × Value)) := do
  let (file, text?) ← locate? files path
  let text ← text?
  (fieldsOf file text).toOption

/-! ## Steps -/

/-- A step in which a configuration is put together. -/
inductive LayerStep where
  /-- A file, which may have to be there. -/
  | file (path : Text) (required : Bool)
  /-- A value for a setting. -/
  | set (k : SettingKey) (s : Scalar)

namespace LayerStep

/-- The layer that is added.  A setting is given by its written key. -/
def layer? : LayerStep → Except ConfigError Layer
  | file path required => .ok (.file path required)
  | set k s => Layer.single? k.text.toList s

/-- A file is missing and may be, or it is a document in which each setting is where it belongs. -/
def Documented (files : Files) : LayerStep → Prop
  | file path required => locate? files path = none ∧ required = false ∨
      ∃ fields ∈ documentAt? files path, ∀ field ∈ fields, ∀ k : SettingKey, k.Fits field
  | set _ _ => True

instance (files : Files) : DecidablePred (Documented files)
  | file _ _ => inferInstanceAs (Decidable (_ ∧ _ ∨ ∃ fields ∈ _, ∀ field ∈ fields,
      ∀ k : SettingKey, k.Fits field))
  | set _ _ => isTrue trivial

/-- The value that is set for a setting. -/
def set? (k : SettingKey) : LayerStep → Option Value
  | set k' s => if k' = k then some (.scalar none s) else none
  | file _ _ => none

/-- The value that a file has for a setting. -/
def filed? (files : Files) (k : SettingKey) : LayerStep → Option Value
  | file path _ => (documentAt? files path).bind k.given?
  | set _ _ => none

end LayerStep

/-- The settings that are loaded after some steps. -/
def layered (files : Files) (steps : List LayerStep) : Except ConfigError Settings := do
  load files (← steps.mapM LayerStep.layer?)

/-- The value of a setting that prevails: the last that is set, else the last of a file, else the
one that is built in. -/
def winner (files : Files) (steps : List LayerStep) (k : SettingKey) : Value :=
  ((steps.filterMap (LayerStep.set? k)).getLast?.or
    (steps.filterMap (LayerStep.filed? files k)).getLast?).getD (.scalar none k.initial)

/-! ## The values in the tree -/

namespace Value

/-- A tree of values may have a value at the place of a setting.  Its group is a table, if it is
there. -/
def Holds (root : Value) (k : SettingKey) (v? : Option Value) : Prop :=
  ∃ origin fields, (root.field? k.group).getD (.table none []) = .table origin fields ∧
    fields.lookup k.name = v?

variable {root v : Value} {v? : Option Value} {k : SettingKey}

theorem Holds.empty (k : SettingKey) : (table none []).Holds k none := ⟨none, [], rfl, rfl⟩

theorem Holds.congr {root' : Value} (h : root.Holds k v?)
    (hgroup : root'.field? k.group = root.field? k.group) : root'.Holds k v? := by
  rwa [Holds, hgroup]

/-- A value that is there is in a group that is there. -/
theorem Holds.exists_table (h : root.Holds k (some v)) : ∃ origin fields,
    root.field? k.group = some (.table origin fields) ∧ fields.lookup k.name = some v := by
  obtain ⟨origin, fields, hgroup, hlookup⟩ := h
  cases hfield : root.field? k.group with
  | none =>
    rw [hfield] at hgroup
    cases hgroup
    cases hlookup
  | some group =>
    rw [hfield] at hgroup
    cases hgroup
    exact ⟨origin, fields, rfl, hlookup⟩

/-! ### A value that is set -/

/-- After a value is set for a setting, the tree has it there, and all else as before. -/
theorem Holds.putAt (h : root.Holds k v?) (k' : SettingKey) (s : Scalar) :
    (Value.putAt k'.place (.scalar none s) root).Holds k
      (if k' = k then some (.scalar none s) else v?) := by
  rw [SettingKey.place, putAt_field]
  by_cases hgroup : k.group = k'.group
  · obtain ⟨origin, fields, hfields, hlookup⟩ := h
    have hput : ((root.field? k'.group).getD .nil).withField k'.name (.scalar none s) =
        .table origin (setField k'.name (.scalar none s) fields) := by
      rw [← hgroup]
      cases hfield : root.field? k.group with
      | none =>
        rw [hfield] at hfields
        cases hfields
        rfl
      | some group =>
        rw [hfield] at hfields
        cases hfields
        rfl
    rw [hput, Holds, hgroup, field?_withField_self]
    refine ⟨origin, _, rfl, ?_⟩
    by_cases hname : k.name = k'.name
    · rw [if_pos (SettingKey.eq_of_place k k' hgroup hname).symm, hname]
      exact lookup_setField_self ..
    · rw [if_neg fun hkey : k' = k => hname (hkey ▸ rfl), lookup_setField_of_ne hname]
      exact hlookup
  · rw [if_neg fun hkey : k' = k => hgroup (hkey ▸ rfl)]
    exact h.congr (field?_withField_of_ne root hgroup _)

/-! ### A file -/

/-- Whatever is put under a name becomes the field of that name.  A value without parts becomes it
as it is. -/
theorem exists_put_eq (name : Text) (v root : Value) :
    ∃ v', put name v root = root.withField name v' ∧ (v.isSimple = true → v' = v) := by
  cases v with
  | scalar o s => exact ⟨_, by rw [put]; simp, fun _ => rfl⟩
  | array o items => exact ⟨_, by rw [put]; simp, fun _ => rfl⟩
  | table o incoming => exact ⟨_, by rw [put], by simp [isSimple]⟩

theorem field?_putTop_of_ne {field : Text × Value} {name : Text} (h : reached field.1 ≠ name) :
    (putTop root field).field? name = root.field? name := by
  rw [reached] at h
  rw [putTop]
  split
  · next key hkey =>
    rw [hkey] at h
    rw [Value.putAt]
    split
    · obtain ⟨v', hput, -⟩ := exists_put_eq key.first field.2 root
      rw [hput, field?_withField_of_ne root (Ne.symm h)]
    · rw [change, field?_withField_of_ne root (Ne.symm h)]
  · next hkey =>
    rw [hkey] at h
    obtain ⟨v', hput, -⟩ := exists_put_eq (Text.asciiLower field.1) field.2 root
    rw [hput, field?_withField_of_ne root (Ne.symm h)]

theorem lookup_eq_none_of_notMem {name : Text} {fields : List (Text × Value)}
    (h : name ∉ fields.map Prod.fst) : fields.lookup name = none := by
  refine List.lookup_eq_none_iff.mpr fun field hfield => bne_iff_ne.mpr ?_
  rintro rfl
  exact h (List.mem_map_of_mem hfield)

/-- The fields of the table of a group in a document, put into the table that is there. -/
theorem exists_putAll_eq (origin : Origin) : ∀ (inner fields : List (Text × Value))
    {v? : Option Value}, (inner.map Prod.fst).Nodup → (∀ field ∈ inner, k.FitsInside field) →
    fields.lookup k.name = v? →
      ∃ fields', putAll inner (.table origin fields) = .table origin fields' ∧
        fields'.lookup k.name = (inner.lookup k.name).or v?
  | [], fields, v?, _, _, hlookup => ⟨fields, rfl, hlookup⟩
  | (name, v) :: inner, fields, v?, hkeys, hfits, hlookup => by
    obtain ⟨hnew, hkeys⟩ := List.nodup_cons.mp hkeys
    obtain ⟨v', hput, hsimple⟩ := exists_put_eq (Text.asciiLower name) v (.table origin fields)
    have hstep : putAll ((name, v) :: inner) (.table origin fields) =
        putAll inner (.table origin (setField (Text.asciiLower name) v' fields)) := by
      rw [putAll, putField, hput]
      rfl
    obtain ⟨fields', hall, hlookup'⟩ := exists_putAll_eq origin inner
      (setField (Text.asciiLower name) v' fields) hkeys
      (fun field hfield => hfits field (List.mem_cons_of_mem _ hfield)) rfl
    refine ⟨fields', hstep.trans hall, ?_⟩
    rw [hlookup']
    by_cases hname : Text.asciiLower name = k.name
    · obtain ⟨rfl, hv⟩ := hfits (name, v) (List.mem_cons_self ..) hname
      rw [lookup_eq_none_of_notMem hnew, SettingKey.asciiLower_name, lookup_setField_self,
        hsimple hv, List.lookup_cons_self]
      rfl
    · have hne : k.name ≠ name := by
        rintro rfl
        exact hname (SettingKey.asciiLower_name k)
      rw [lookup_setField_of_ne (Ne.symm hname), hlookup, List.lookup_cons, beq_false_of_ne hne]

/-- The table of a group, put into the tree. -/
theorem Holds.putTop_group {origin : Origin} {inner : List (Text × Value)} (h : root.Holds k v?)
    (hkeys : (inner.map Prod.fst).Nodup) (hfits : ∀ field ∈ inner, k.FitsInside field) :
    (putTop root (k.group, .table origin inner)).Holds k ((inner.lookup k.name).or v?) := by
  obtain ⟨o, fields, hgroup, hlookup⟩ := h
  obtain ⟨fields', hall, hlookup'⟩ := exists_putAll_eq o inner fields hkeys hfits hlookup
  have hput : putTop root (k.group, .table origin inner) =
      root.withField k.group (.table o fields') := by
    rw [putTop, eq_ok_of_toOption k.read_group, ← hall, ← hgroup]
    simp [Value.putAt, put]
  refine ⟨o, fields', ?_, hlookup'⟩
  rw [hput, field?_withField_self]
  rfl

/-- After a document is put into a tree, the tree has what the document has for a setting, and as
before what the document does not have. -/
theorem Holds.addSource : ∀ (fields : List (Text × Value)) {root : Value} {v? : Option Value},
    root.Holds k v? → (fields.map Prod.fst).Nodup →
    (∀ field ∈ fields, (field.2.fields.map Prod.fst).Nodup) → (∀ field ∈ fields, k.Fits field) →
      (addSource root fields).Holds k ((k.given? fields).or v?)
  | [], _, _, h, _, _, _ => h
  | (name, v) :: fields, root, v?, h, hkeys, hinner, hfits => by
    obtain ⟨hnew, hkeys'⟩ := List.nodup_cons.mp hkeys
    obtain ⟨hfirst, hinner'⟩ := List.forall_mem_cons.mp hinner
    obtain ⟨hfit, hfits'⟩ := List.forall_mem_cons.mp hfits
    by_cases hreach : reached name = k.group
    · cases v with
      | scalar o s => exact absurd hreach hfit
      | array o items => exact absurd hreach hfit
      | table o inner =>
        obtain ⟨rfl, hinside⟩ := hfit hreach
        have hgiven : k.given? ((k.group, .table o inner) :: fields) = inner.lookup k.name := by
          rw [SettingKey.given?, List.lookup_cons_self]
          rfl
        -- The group is not in the document a second time.
        have hlater : k.given? fields = none := by
          rw [SettingKey.given?, lookup_eq_none_of_notMem hnew]
          rfl
        have hput : (putTop root (k.group, .table o inner)).Holds k
            ((inner.lookup k.name).or v?) := h.putTop_group hfirst hinside
        have hdone := hput.addSource fields hkeys' hinner' hfits'
        rw [hlater, Option.none_or] at hdone
        rwa [hgiven]
    · have hne : k.group ≠ name := by
        rintro rfl
        exact hreach k.reached_group
      have hgiven : k.given? ((name, v) :: fields) = k.given? fields := by
        rw [SettingKey.given?, List.lookup_cons, beq_false_of_ne hne]
        rfl
      rw [hgiven]
      exact (h.congr (field?_putTop_of_ne hreach)).addSource fields hkeys' hinner' hfits'

theorem holds_defaults (k : SettingKey) :
    (Config.addSource (.table none []) defaults).Holds k (some (.scalar none k.initial)) := by
  have hgiven : k.given? defaults = some (.scalar none k.initial) := by
    cases k <;> rfl
  have hfits : ∀ k : SettingKey, ∀ field ∈ defaults, k.Fits field := by decide +kernel
  have h := (Holds.empty k).addSource defaults (by decide +kernel) (by decide +kernel)
    (hfits k)
  rwa [hgiven] at h

end Value

/-! ## The files among the steps -/

theorem fieldsOfToml_eq (origin : Origin) : ∀ fields : List (Text × Toml.Value),
    Value.fieldsOfToml origin fields =
      fields.map fun field => (field.1, Value.ofToml origin field.2)
  | [] => rfl
  | (name, v) :: fields => by
    rw [Value.fieldsOfToml, fieldsOfToml_eq origin fields]
    rfl

theorem nodup_fields_ofToml (origin : Origin) {v : Toml.Value} (h : v.Distinct) :
    ((Value.ofToml origin v).fields.map Prod.fst).Nodup := by
  cases h with
  | @table fields hkeys _ =>
    rw [Value.ofToml, Value.fields, fieldsOfToml_eq, List.map_map]
    exact hkeys
  | _ => exact .nil

theorem exists_of_documentAt? {files : Files} {path : Text} {fields : List (Text × Value)}
    (h : documentAt? files path = some fields) :
    ∃ file text, locate? files path = some (file, some text) ∧
      fieldsOf file text = .ok fields := by
  obtain ⟨⟨file, text?⟩, hlocate, h⟩ := Option.bind_eq_some_iff.mp h
  obtain ⟨text, rfl, h⟩ := Option.bind_eq_some_iff.mp h
  exact ⟨file, text, hlocate, eq_ok_of_toOption h⟩

/-- No table of a document has a name twice. -/
theorem nodup_of_documentAt? {files : Files} {path : Text} {fields : List (Text × Value)}
    (h : documentAt? files path = some fields) : (fields.map Prod.fst).Nodup ∧
      ∀ field ∈ fields, (field.2.fields.map Prod.fst).Nodup := by
  obtain ⟨file, text, -, hfields⟩ := exists_of_documentAt? h
  rw [fieldsOf] at hfields
  split at hfields
  · next document hread =>
    cases hfields
    have hdistinct := Toml.read_distinct hread
    refine ⟨nodup_fields_ofToml (some file) hdistinct, ?_⟩
    rw [fieldsOfToml_eq]
    cases hdistinct with
    | table _ hinner =>
      exact List.forall_mem_map.mpr fun field hfield =>
        nodup_fields_ofToml (some file) (hinner field hfield)
  · cases hfields

namespace LayerStep

/-- The layer that a step adds. -/
def layer : LayerStep → Layer
  | file path required => .file path required
  | set k s => .single k.place s

theorem layer?_eq_ok (step : LayerStep) : step.layer? = .ok step.layer := by
  cases step with
  | file path required => rfl
  | set k s => rw [layer?, Layer.single?, eq_ok_of_toOption k.read_text, layer]

theorem mapM_layer? (steps : List LayerStep) : steps.mapM layer? = .ok (steps.map layer) := by
  rw [funext layer?_eq_ok]
  exact List.mapM_pure

end LayerStep

/-- What was last is still last behind something else. -/
theorem getLast?_cons_or {α : Type} (a : α) (as : List α) (a? : Option α) :
    (a :: as).getLast?.or a? = as.getLast?.or (some a) := by
  cases h : as.getLast? <;> simp [List.getLast?_cons, h]

/-- The documents of the files can be read, and put into a tree one after another they leave it with
the last value that one of them has for a setting. -/
theorem exists_readFiles_eq (files : Files) : ∀ steps : List LayerStep,
    (∀ step ∈ steps, step.Documented files) →
      ∃ sources, readFiles files (steps.map LayerStep.layer) = .ok sources ∧
        ∀ {root : Value} {k : SettingKey} {v? : Option Value}, root.Holds k v? →
          (sources.foldl addSource root).Holds k
            ((steps.filterMap (LayerStep.filed? files k)).getLast?.or v?)
  | [], _ => ⟨[], rfl, id⟩
  | .set k s :: steps, h => exists_readFiles_eq files steps fun step hstep =>
      h step (List.mem_cons_of_mem _ hstep)
  | .file path required :: steps, h => by
    obtain ⟨sources, hsources, hlast⟩ := exists_readFiles_eq files steps
      fun step hstep => h step (List.mem_cons_of_mem _ hstep)
    rcases h (.file path required) (List.mem_cons_self ..) with ⟨hmissing, rfl⟩ |
      ⟨fields, hdocument, hfits⟩
    · refine ⟨[] :: sources, ?_, fun {root k v?} hroot => ?_⟩
      · simp only [List.map_cons, LayerStep.layer, readFiles, readFile, hmissing, fieldsFound,
          hsources]
        rfl
      · have hnone : LayerStep.filed? files k (.file path false) = none := by
          simp [LayerStep.filed?, documentAt?, hmissing]
        rw [List.filterMap_cons_none hnone]
        exact hlast hroot
    · obtain ⟨file, text, hlocate, hread⟩ := exists_of_documentAt? hdocument
      obtain ⟨hkeys, hinner⟩ := nodup_of_documentAt? hdocument
      refine ⟨fields :: sources, ?_, fun {root k v?} hroot => ?_⟩
      · simp only [List.map_cons, LayerStep.layer, readFiles, readFile, hlocate, fieldsFound,
          hread, hsources]
        rfl
      · have hfiled : LayerStep.filed? files k (.file path required) = k.given? fields := by
          rw [LayerStep.filed?, show documentAt? files path = some fields from hdocument]
          rfl
        have hstep := hroot.addSource fields hkeys hinner fun field hfield => hfits field hfield k
        have hdone := hlast hstep
        cases hgiven : k.given? fields with
        | none =>
          rw [hgiven] at hdone hfiled
          rwa [List.filterMap_cons_none hfiled]
        | some v =>
          rw [hgiven] at hdone hfiled
          rwa [List.filterMap_cons_some hfiled, getLast?_cons_or]

/-- The values that are set leave a tree with the last one for a setting. -/
theorem holds_addSingles : ∀ (steps : List LayerStep) {root : Value} {k : SettingKey}
    {v? : Option Value}, root.Holds k v? →
      (addSingles root (steps.map LayerStep.layer)).Holds k
        ((steps.filterMap (LayerStep.set? k)).getLast?.or v?)
  | [], _, _, _, h => h
  | .file path required :: steps, _, _, _, h => holds_addSingles steps h
  | .set k' s :: steps, root, k, v?, h => by
    have hdone := holds_addSingles steps (h.putAt k' s)
    by_cases hkey : k' = k
    · have hset : LayerStep.set? k (.set k' s) = some (.scalar none s) := if_pos hkey
      rw [if_pos hkey] at hdone
      rwa [List.filterMap_cons_some hset, getLast?_cons_or]
    · have hset : LayerStep.set? k (.set k' s) = none := if_neg hkey
      rw [if_neg hkey] at hdone
      rwa [List.filterMap_cons_none hset]

/-- After all steps the tree of values has the winner of each setting. -/
theorem exists_build_eq {files : Files} {steps : List LayerStep}
    (h : ∀ step ∈ steps, step.Documented files) :
    ∃ root, build files (steps.map LayerStep.layer) = .ok root ∧
      ∀ k, root.Holds k (some (winner files steps k)) := by
  obtain ⟨sources, hsources, hlast⟩ := exists_readFiles_eq files steps h
  refine ⟨assemble sources (steps.map LayerStep.layer), ?_, fun k => ?_⟩
  · rw [build, hsources]
    rfl
  · have hdone := holds_addSingles steps (hlast (Value.holds_defaults k))
    have hwinner : ((steps.filterMap (LayerStep.set? k)).getLast?.or
        ((steps.filterMap (LayerStep.filed? files k)).getLast?.or
          (some (.scalar none k.initial)))) = some (winner files steps k) := by
      rw [winner, ← Option.or_assoc, Option.or_some]
    rw [assemble, List.foldl_cons, ← hwinner]
    exact hdone

/-! ## The settings that are read -/

/-- A tree of values gives the settings that the values at their places are read as. -/
theorem readSettings_iff_of_holds {root : Value} {w : SettingKey → Value}
    (h : ∀ k, root.Holds k (some (w k))) {settings : Settings} :
    readSettings root = .ok settings ↔
      ∀ k : SettingKey, k.setting.read (w k) = .ok (k.get settings) := by
  obtain ⟨o, choices, hchoices, hgrammar⟩ := (h .grammar).exists_table
  obtain ⟨_, _, hchoices', hformat⟩ := (h .format).exists_table
  cases hchoices.symm.trans hchoices'
  obtain ⟨o', markup, hmarkup, hclass⟩ := (h .classPrefix).exists_table
  obtain ⟨_, _, hmarkup', hwrap⟩ := (h .wrap).exists_table
  cases hmarkup.symm.trans hmarkup'
  obtain ⟨o'', colors, hcolors, hcolor⟩ := (h .color).exists_table
  have hhighlight : highlightGroup.inTable? root.fields =
      .ok (some (settings.language, settings.format)) ↔
        languageSetting.read (w .grammar) = .ok settings.language ∧
        formatSetting.read (w .format) = .ok settings.format := by
    rw [Setting.inTable?_eq_ok_iff hchoices, readChoices_table_eq_ok_iff,
      Setting.inTable?_eq_ok_iff (s := languageSetting) hgrammar,
      Setting.inTable?_eq_ok_iff (s := formatSetting) hformat]
  have hhtml : htmlGroup.inTable? root.fields =
      .ok (some (settings.render.html.classPrefix, settings.render.html.wrap)) ↔
        classPrefixSetting.read (w .classPrefix) = .ok settings.render.html.classPrefix ∧
        wrapSetting.read (w .wrap) = .ok settings.render.html.wrap := by
    rw [Setting.inTable?_eq_ok_iff hmarkup, htmlGroup, readTwo_table_eq_ok_iff,
      Setting.inTable?_eq_ok_iff (s := classPrefixSetting) hclass,
      Setting.inTable?_eq_ok_iff (s := wrapSetting) hwrap]
  have hansi : ansiGroup.inTable? root.fields = .ok (some settings.render.color) ↔
      colorSetting.read (w .color) = .ok settings.render.color := by
    rw [Setting.inTable?_eq_ok_iff hcolors, ansiGroup, readOne_table_eq_ok_iff,
      Setting.inTable?_eq_ok_iff (s := colorSetting) hcolor]
  rw [readSettings_eq_ok_iff, hhighlight, hhtml, hansi]
  constructor
  · rintro ⟨⟨hgrammar, hformat⟩, ⟨hclass, hwrap⟩, hcolor⟩ k
    cases k <;> assumption
  · intro hall
    exact ⟨⟨hall .grammar, hall .format⟩, ⟨hall .classPrefix, hall .wrap⟩, hall .color⟩

/-- If every setting can be read, there are settings in which each is as it is read. -/
theorem SettingKey.exists_settings {w : SettingKey → Value}
    (h : ∀ k : SettingKey, ∃ a, k.setting.read (w k) = .ok a) :
    ∃ settings, ∀ k : SettingKey, k.setting.read (w k) = .ok (k.get settings) := by
  obtain ⟨language, hlanguage⟩ := h .grammar
  obtain ⟨format, hformat⟩ := h .format
  obtain ⟨classPrefix, hclass⟩ := h .classPrefix
  obtain ⟨wrap, hwrap⟩ := h .wrap
  obtain ⟨color, hcolor⟩ := h .color
  exact ⟨⟨language, format, ⟨⟨classPrefix, wrap⟩, color⟩⟩, fun k => by cases k <;> assumption⟩

/-- In whatever order files are added and values are set, what is loaded are the winners as they are
read, and loading fails just when one of the winners cannot be read. -/
theorem layered_winners {files : Files} {steps : List LayerStep}
    (h : ∀ step ∈ steps, step.Documented files) :
    (∀ settings, layered files steps = .ok settings ↔
      ∀ k : SettingKey, k.setting.read (winner files steps k) = .ok (k.get settings)) ∧
    ((∃ e, layered files steps = .error e) ↔
      ∃ (k : SettingKey) (e : ConfigError), k.setting.read (winner files steps k) = .error e) := by
  obtain ⟨root, hroot, hholds⟩ := exists_build_eq h
  have hload : layered files steps = readSettings root := by
    rw [layered, LayerStep.mapM_layer?]
    show (do readSettings (← build files (steps.map LayerStep.layer))) = _
    rw [hroot]
    rfl
  have hok : ∀ settings, layered files steps = .ok settings ↔
      ∀ k : SettingKey, k.setting.read (winner files steps k) = .ok (k.get settings) := by
    intro settings
    rw [hload]
    exact readSettings_iff_of_holds hholds
  refine ⟨hok, ⟨fun ⟨e, he⟩ => ?_, fun ⟨k, e, he⟩ => ?_⟩⟩
  · refine Classical.byContradiction fun hnone => ?_
    have hall : ∀ k : SettingKey, ∃ a, k.setting.read (winner files steps k) = .ok a := by
      intro k
      cases hk : k.setting.read (winner files steps k) with
      | error e => exact absurd ⟨k, e, hk⟩ hnone
      | ok a => exact ⟨a, rfl⟩
    obtain ⟨settings, hsettings⟩ := SettingKey.exists_settings hall
    rw [(hok settings).mpr hsettings] at he
    cases he
  · cases hresult : layered files steps with
    | error e => exact ⟨e, rfl⟩
    | ok settings =>
      rw [(hok settings).mp hresult k] at he
      cases he

/-- A format that nothing answers to is set and is in a file, and a file has a word for neither yes
nor no.  Each of them is replaced later on, by a value that is set or by another file, and one file
is missing.  Without the later steps the format fails. -/
theorem layered_winners_replaced :
    let first := "highlight.format = 'nope'\n[html]\nclass_prefix = 'a-'\nwrap = 'maybe'\n".toList
    let second := "title = 'mine'\nhtml = \x7b wrap = 0 \x7d\n".toList
    let files : Files := fun path =>
      if path == "a.toml".toList then .file (some first)
      else if path == "b.toml".toList then .file (some second) else .missing
    let early : List LayerStep :=
      [.set .format (.string "neither".toList), .file "a.toml".toList true]
    let late : List LayerStep :=
      [.set .format (.string "html".toList), .file "c.toml".toList false,
        .file "b.toml".toList false, .set .grammar (.string "Prldevops".toList)]
    layered files (early ++ late) = .ok ⟨.prldevops, .html, ⟨⟨"a-".toList, false⟩, true⟩⟩ ∧
      ∃ e, layered files early = .error e := by
  intro first second files early late
  have hearly : ∀ step ∈ early, step.Documented files := by decide +kernel
  have hall : ∀ step ∈ early ++ late, step.Documented files := by decide +kernel
  refine ⟨((layered_winners hall).1 _).mpr ?_, (layered_winners hearly).2.mpr ?_⟩
  · rintro (_ | _ | _ | _ | _)
    · exact eq_ok_of_toOption (show (languageSetting.read
        (winner files (early ++ late) .grammar)).toOption = some .prldevops by decide +kernel)
    · exact eq_ok_of_toOption (show (formatSetting.read
        (winner files (early ++ late) .format)).toOption = some .html by decide +kernel)
    · exact eq_ok_of_toOption (show (classPrefixSetting.read
        (winner files (early ++ late) .classPrefix)).toOption = some "a-".toList by decide +kernel)
    · exact eq_ok_of_toOption (show (wrapSetting.read
        (winner files (early ++ late) .wrap)).toOption = some false by decide +kernel)
    · exact eq_ok_of_toOption (show (colorSetting.read
        (winner files (early ++ late) .color)).toOption = some true by decide +kernel)
  · exact ⟨.format, exists_eq_error_of_toOption (show (formatSetting.read
      (winner files early .format)).toOption = none by decide +kernel)⟩

end Highlighter.Config
