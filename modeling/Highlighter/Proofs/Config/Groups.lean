import Highlighter.Config.Load

/-!
# What is read from a tree of values

A group that is a table can be read when its settings can be (`readTwo_table_eq_ok_iff`,
`readOne_table_eq_ok_iff`), and a tree of values can be read when its three groups can be
(`readSettings_eq_ok_iff`).  `putAt_field` says where a single value is put.
-/

namespace Highlighter.Config

theorem bind_eq_ok_iff {ε α β : Type} {r : Except ε α} {f : α → Except ε β} {b : β} :
    (r >>= f) = .ok b ↔ ∃ a, r = .ok a ∧ f a = .ok b := by
  cases r with
  | error e => exact ⟨nofun, nofun⟩
  | ok a => exact ⟨fun h => ⟨a, rfl, h⟩, by rintro ⟨_, ⟨⟩, h⟩; exact h⟩

theorem eq_ok_of_toOption {ε α : Type} {r : Except ε α} {a : α} (h : r.toOption = some a) :
    r = .ok a := by
  cases r with
  | error e => cases h
  | ok a' => exact congrArg Except.ok (Option.some.inj h)

theorem exists_eq_error_of_toOption {ε α : Type} {r : Except ε α} (h : r.toOption = none) :
    ∃ e, r = .error e := by
  cases r with
  | error e => exact ⟨e, rfl⟩
  | ok a => cases h

/-! ## Groups -/

section

variable {α β : Type} {s : Setting α} {t : Setting β} {a : α} {b : β}

theorem Setting.inTable?_eq_some_iff {fields : List (Text × Value)} :
    s.inTable? fields = .ok (some a) ↔
      ∃ v, fields.lookup s.name.toList = some v ∧ s.read v = .ok a := by
  unfold Setting.inTable?
  cases fields.lookup s.name.toList with
  | none => simp
  | some v =>
    show ((s.read v).map some).mapError (·.inside s.name.toList) = .ok (some a) ↔ _
    cases h : s.read v with
    | error e =>
      refine iff_of_false (by rintro ⟨⟩) ?_
      rintro ⟨_, ⟨⟩, hread⟩
      cases h.symm.trans hread
    | ok a' =>
      constructor
      · rintro ⟨⟩
        exact ⟨v, rfl, h⟩
      · rintro ⟨_, ⟨⟩, hread⟩
        cases h.symm.trans hread
        rfl

/-- A setting that is in the table can be read when its value can. -/
theorem Setting.inTable?_eq_ok_iff {fields : List (Text × Value)} {v : Value}
    (h : fields.lookup s.name.toList = some v) :
    s.inTable? fields = .ok (some a) ↔ s.read v = .ok a := by
  simp [Setting.inTable?_eq_some_iff, h]

theorem Setting.inTable?_congr {fields fields' : List (Text × Value)}
    (h : fields.lookup s.name.toList = fields'.lookup s.name.toList) :
    s.inTable? fields = s.inTable? fields' := by
  simp only [Setting.inTable?, h]

theorem Setting.present_eq_ok_iff {a? : Option α} : s.present a? = .ok a ↔ a? = some a := by
  cases a? <;> simp [Setting.present]

theorem readTwo_table_eq_ok_iff (group : String) (origin : Origin)
    {fields : List (Text × Value)} :
    readTwo group s t (.table origin fields) = .ok (a, b) ↔
      s.inTable? fields = .ok (some a) ∧ t.inTable? fields = .ok (some b) := by
  simp only [readTwo, bind_eq_ok_iff, Setting.present_eq_ok_iff]
  constructor
  · rintro ⟨a?, ha, b?, hb, a', rfl, b', rfl, ⟨⟩⟩
    exact ⟨ha, hb⟩
  · rintro ⟨ha, hb⟩
    exact ⟨_, ha, _, hb, a, rfl, b, rfl, rfl⟩

theorem readOne_table_eq_ok_iff (group : String) (origin : Origin)
    {fields : List (Text × Value)} :
    readOne group s (.table origin fields) = .ok a ↔ s.inTable? fields = .ok (some a) := by
  simp only [readOne, bind_eq_ok_iff, Setting.present_eq_ok_iff, exists_eq_right]

end

theorem readChoices_table_eq_ok_iff {origin : Origin} {fields : List (Text × Value)}
    {choices : Language × OutputFormat} :
    highlightGroup.read (.table origin fields) = .ok choices ↔
      languageSetting.inTable? fields = .ok (some choices.1) ∧
      formatSetting.inTable? fields = .ok (some choices.2) :=
  readTwo_table_eq_ok_iff "HighlightConfig" origin

theorem readSettings_eq_ok_iff {root : Value} {settings : Settings} :
    readSettings root = .ok settings ↔
      highlightGroup.inTable? root.fields = .ok (some (settings.language, settings.format)) ∧
      htmlGroup.inTable? root.fields =
        .ok (some (settings.render.html.classPrefix, settings.render.html.wrap)) ∧
      ansiGroup.inTable? root.fields = .ok (some settings.render.color) := by
  simp only [readSettings, bind_eq_ok_iff, Setting.present_eq_ok_iff]
  constructor
  · rintro ⟨_, hhighlight, _, hhtml, _, hansi, _, rfl, _, rfl, _, rfl, ⟨⟩⟩
    exact ⟨hhighlight, hhtml, hansi⟩
  · rintro ⟨hhighlight, hhtml, hansi⟩
    exact ⟨_, hhighlight, _, hhtml, _, hansi, _, rfl, _, rfl, _, rfl, rfl⟩

/-! ## Single values -/

theorem putAt_field (first name : Text) (v : Scalar) (root : Value) :
    Value.putAt ⟨first, [.field name]⟩ (.scalar none v) root =
      root.withField first
        (((root.field? first).getD .nil).withField name (.scalar none v)) := by
  simp [Value.putAt, Value.change, Value.putStep, Value.put]

end Highlighter.Config
