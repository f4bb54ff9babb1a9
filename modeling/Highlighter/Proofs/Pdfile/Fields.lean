import Highlighter.Proofs.Pdfile.DirectiveLines

/-!
# Directives with fields

The line of a directive with fields and an argument is decided by the body of the rest
of the line (`field_directive_tokens`).  If the body is a field, blanks and a value, it
gives a variable, blanks and a string.  Otherwise it is one error, or two if it starts
with a field and goes on.

There are three rules for a line, in this order.  The first fires exactly if the body
has a field and a value, and reads these (`exists_fires_fieldValueRule`,
`nonempty_of_fires`).  The second fires exactly if the body starts with a field, and the
third always does.  No field is the beginning of another, so there is one way only to
cut a field off (`IsField.cut`).

One of the directives takes attributes instead if a `=` stands in the line before a
comment.  Its rule comes before the others, and it is the only way into the state of
attributes (`enters_attributes_iff`): no other rule of `root` enters it, and no rule of an
inner state enters any.
-/

namespace Highlighter.Pdfile

open Category Pattern

/-! ## Fields of a body -/

/-- A text is one of some fields up to case. -/
def IsField (fields : List String) (w : Text) : Prop := ∃ s ∈ fields, w.EqFold s.toList

/-- A body that is a field, blanks and a value. -/
structure FieldAndValue (fields : List String) (body : Text) where
  /-- The field. -/
  field : Text
  /-- The blanks after it. -/
  gap : Text
  /-- The value. -/
  value : Text
  text : body = field ++ (gap ++ value)
  isField : IsField fields field
  blanks : gap.Blanks
  ne_nil : value ≠ []
  solid : ∀ c ∈ value.head?, isBlank c = false

/-- A body that starts with a field and goes on. -/
structure FieldAndMore (fields : List String) (body : Text) where
  /-- The field. -/
  field : Text
  /-- What follows it. -/
  more : Text
  text : body = field ++ more
  isField : IsField fields field
  ne_nil : more ≠ []

section Fields

variable {fields : List String} {body : Text}

/-- The variable, the blanks and the string of a body with a field and a value. -/
def FieldAndValue.row (x : FieldAndValue fields body) : List (Category × Text) :=
  [(identifier, x.field), (whitespace, x.gap), (string, x.value)]

/-- The two errors of a body that only starts with a field. -/
def FieldAndMore.row (x : FieldAndMore fields body) : List (Category × Text) :=
  [(error, x.field), (error, x.more)]

/-- The tokens of a body, as texts with categories. -/
structure FieldRow (fields : List String) (body : Text) (row : List (Category × Text)) : Prop where
  value : ∀ x : FieldAndValue fields body, row = x.row
  more : IsEmpty (FieldAndValue fields body) → ∀ x : FieldAndMore fields body, row = x.row
  other : IsEmpty (FieldAndValue fields body) → IsEmpty (FieldAndMore fields body) →
    row = [(error, body)]

/-- A field is cut off a text in one way only. -/
theorem IsField.cut (hfree : PrefixFree fields) {w w' t t' : Text} (hw : IsField fields w)
    (hw' : IsField fields w') (h : w ++ t = w' ++ t') : w = w' ∧ t = t' := by
  obtain ⟨s, hs, hfold⟩ := hw
  obtain ⟨s', hs', hfold'⟩ := hw'
  obtain rfl := hfree.unique hs hs' hfold hfold' h
  exact ⟨rfl, List.append_cancel_left h⟩

theorem FieldAndValue.row_eq (hfree : PrefixFree fields) (x x' : FieldAndValue fields body) :
    x.row = x'.row := by
  obtain ⟨hfield, hmore⟩ := x.isField.cut hfree x'.isField (x.text.symm.trans x'.text)
  obtain ⟨hgap, hvalue⟩ := x.blanks.cut x'.blanks (Text.ne_blank_of_solid x.solid)
    (Text.ne_blank_of_solid x'.solid) hmore
  rw [row, row, hfield, hgap, hvalue]

theorem FieldAndMore.row_eq (hfree : PrefixFree fields) (x x' : FieldAndMore fields body) :
    x.row = x'.row := by
  obtain ⟨hfield, hmore⟩ := x.isField.cut hfree x'.isField (x.text.symm.trans x'.text)
  rw [row, row, hfield, hmore]

/-- The row of a body with a field and a value. -/
theorem fieldRow_of_value (hfree : PrefixFree fields) (x : FieldAndValue fields body) :
    FieldRow fields body x.row where
  value := x.row_eq hfree
  more hempty := (hempty.false x).elim
  other hempty := (hempty.false x).elim

/-- The row of a body that only starts with a field. -/
theorem fieldRow_of_field (hfree : PrefixFree fields) (hempty : IsEmpty (FieldAndValue fields body))
    {field more : Text} (hbody : body = field ++ more) (hfield : IsField fields field)
    (hne : field ≠ []) :
    FieldRow fields body (([error, error].zip [field, more]).filter (·.2 ≠ [])) := by
  by_cases hmore : more = []
  · subst hmore
    refine ⟨fun x => (hempty.false x).elim, fun _ x => ?_, fun _ _ => ?_⟩
    · exact absurd (hfield.cut hfree x.isField (hbody.symm.trans x.text)).2.symm x.ne_nil
    · simp [hbody, hne]
  · let x : FieldAndMore fields body := ⟨field, more, hbody, hfield, hmore⟩
    have hrow : ([error, error].zip [field, more]).filter (·.2 ≠ []) = x.row := by
      simp [FieldAndMore.row, x, hne, hmore]
    rw [hrow]
    exact ⟨fun y => (hempty.false y).elim, fun _ => x.row_eq hfree,
      fun _ hnone => (hnone.false x).elim⟩

/-- The row of a body that starts with no field. -/
theorem fieldRow_of_none
    (hnone : ∀ field more : Text, body = field ++ more → ¬ IsField fields field) :
    FieldRow fields body [(error, body)] where
  value x := absurd x.isField (hnone _ _ x.text)
  more _ x := absurd x.isField (hnone _ _ x.text)
  other _ _ := rfl

end Fields

/-! ## The rules of a directive with fields -/

theorem prefixFree_of_mem_fieldDirectives : ∀ entry ∈ fieldDirectives, PrefixFree entry.2 := by
  have hupper : ∀ entry ∈ fieldDirectives, ∀ s ∈ entry.2, Text.Upper s.toList := by decide
  have hfree : ∀ entry ∈ fieldDirectives, ∀ s ∈ entry.2, ∀ s' ∈ entry.2,
      s.toList <+: s'.toList → s = s' := by decide
  exact fun entry hentry => .of_upper (hupper entry hentry) (hfree entry hentry)

theorem field_mem_keywords : ∀ entry ∈ fieldDirectives, entry.1 ∈ keywords := by decide

section Rules

variable {entry : String × List String} {w b t : Text} {m : Match}

/-- The rule for a field and its value. -/
def fieldValueRule (entry : String × List String) : BuiltRule :=
  ⟨(fieldValue entry).tied, true, none,
    .groups [keyword, whitespace, identifier, whitespace, string], .stay⟩

/-- The rule for a field with anything after it. -/
def fieldOnlyRule (entry : String × List String) : BuiltRule :=
  ⟨(fieldOnly entry).tied, true, none, .groups [keyword, whitespace, error, error], .stay⟩

theorem fieldTable_eq (entry : String × List String) :
    fieldTable entry = [fieldValueRule entry, fieldOnlyRule entry, errorRule entry] := rfl

theorem form_fieldValueRule (entry : String × List String) : (fieldValueRule entry).Form :=
  form_of_mem_fieldTable entry _ (by simp [fieldTable_eq])

theorem form_fieldOnlyRule (entry : String × List String) : (fieldOnlyRule entry).Form :=
  form_of_mem_fieldTable entry _ (by simp [fieldTable_eq])

/-- Where the body is a field and a value, the rule for them fires and reads them. -/
theorem exists_fires_fieldValueRule (hentry : entry ∈ fieldDirectives)
    (h : ArgumentLine entry.1 w b t) (x : FieldAndValue entry.2 t.body) :
    ∃ m, (fieldValueRule entry).fires? true (w ++ (b ++ t)) = some m ∧
      t = [x.field, x.gap, x.value].flatten ++ m.rest ∧
      m.HasGroups 1 0 [w, b, x.field, x.gap, x.value] := by
  have hwords := (plainEntry_of_mem_fieldDirectives entry hentry).words
  obtain ⟨s, hs, hfold⟩ := x.isField
  obtain ⟨y, ht, hy⟩ := Text.exists_eq_body_append t
  rw [x.text, List.append_assoc, List.append_assoc] at ht
  have hvalue : x.value.Trimmed := by
    have hbody := Text.trimmed_body t
    rw [x.text] at hbody
    exact hbody.right.right
  have hprefers : ∀ a : Place, a.rest = t →
      ∃ e, (groupsThen 3 [.words entry.2, .blanks] (.group 5 .argument)).PrefersRow 3 a
        [x.field, x.gap, x.value] e := fun a ha => by
    obtain ⟨e₁, hfield⟩ := prefers_words hwords (prefixFree_of_mem_fieldDirectives entry hentry)
      hs hfold (ha.trans ht)
    have hrest₁ : e₁.rest = x.gap ++ (x.value ++ y) := hfield.reads.leaves (ha.trans ht)
    obtain ⟨e₂, hgap⟩ := prefers_blanks (a := e₁.capture 3 a.offset) x.blanks hrest₁
      (by rw [List.head?_append_of_ne_nil _ x.ne_nil]; exact Text.ne_blank_of_solid x.solid)
    have hrest₂ : e₂.rest = x.value ++ y := hgap.reads.leaves hrest₁
    obtain ⟨e₃, hargument⟩ := hvalue.prefers_argument
      (a := e₂.capture 4 (e₁.capture 3 a.offset).offset) x.ne_nil x.solid hy hrest₂
    exact ⟨_, ((hargument.last groupless_argument 5).cons hgap groupless_blanks).cons hfield
      (groupless_words entry.2)⟩
  obtain ⟨m, hm, hrest, hgroups⟩ := h.exists_find_row (field_mem_keywords entry hentry) hprefers
  exact ⟨m, (form_fieldValueRule entry).fires?_alone hm rfl, hrest, hgroups⟩

/-- Where the rule for a field and a value fires, the body has both. -/
theorem nonempty_of_fires (hentry : entry ∈ fieldDirectives) (h : ArgumentLine entry.1 w b t)
    (hm : (fieldValueRule entry).fires? true (w ++ (b ++ t)) = some m) :
    Nonempty (FieldAndValue entry.2 t.body) := by
  have hwords := (plainEntry_of_mem_fieldDirectives entry hentry).words
  obtain ⟨xs, hxs, htext, -⟩ := h.groups_of_find (field_mem_keywords entry hentry)
    (row_fieldValue entry) (fun x hx => head?_ne_blank_of_words hwords hx)
    (BuiltRule.fires?_eq_some_iff.mp hm).2.1
  obtain _ | @⟨_, field, _, _, hfield, _ | @⟨_, gap, _, _, hgap, _ | @⟨_, v, _, _, hv, _ | _⟩⟩⟩ :=
    hxs
  obtain ⟨s, hs, hfold⟩ := hfield.words hwords
  obtain ⟨c, v, rfl, hc, hash⟩ := hv.exists_cons_of_argument
  obtain ⟨u, hu⟩ := Text.exists_body_eq_cons (v ++ m.rest) hc hash
  have hbody : t.body = field ++ (gap ++ c :: u) := by
    have htext : t = field ++ (gap ++ c :: (v ++ m.rest)) := by simpa using htext
    have hne : Text.body (c :: (v ++ m.rest)) ≠ [] := hu ▸ List.cons_ne_nil c u
    rw [htext, (hfold.trimmed (hwords.plain s hs)).body_append, hgap.blanks.body_append hne, hu]
  exact ⟨⟨field, gap, c :: u, hbody, ⟨s, hs, hfold⟩, hgap.blanks, List.cons_ne_nil c u,
    fun d hd => Option.some.inj hd ▸ hc⟩⟩

/-- Where the line starts with a field, the rule for it fires and reads the body in two parts. -/
theorem exists_fires_fieldOnlyRule (hentry : entry ∈ fieldDirectives)
    (h : ArgumentLine entry.1 w b t) {field z : Text} (hfield : IsField entry.2 field)
    (ht : t = field ++ z) :
    ∃ m, (fieldOnlyRule entry).fires? true (w ++ (b ++ t)) = some m ∧
      t = [field, z.body].flatten ++ m.rest ∧ m.HasGroups 1 0 [w, b, field, z.body] := by
  have hwords := (plainEntry_of_mem_fieldDirectives entry hentry).words
  obtain ⟨s, hs, hfold⟩ := hfield
  have hprefers : ∀ a : Place, a.rest = t →
      ∃ e, (groupsThen 3 [.words entry.2] (.opt (.group 4 (.seq (.many true .beforeComment)
        (.one .solid))))).PrefersRow 3 a [field, z.body] e := fun a ha => by
    obtain ⟨e₁, hfield⟩ := prefers_words hwords (prefixFree_of_mem_fieldDirectives entry hentry)
      hs hfold (ha.trans ht)
    have hrest : (e₁.capture 3 a.offset).rest = z := hfield.reads.leaves (ha.trans ht)
    by_cases hz : z.body = []
    · rw [hz]
      exact ⟨_, (prefersRow_absent (run_toSolid_eq_nil hrest hz) 4).cons hfield
        (groupless_words entry.2)⟩
    · obtain ⟨e₂, hmore⟩ := prefers_toSolid hrest hz
      exact ⟨_, (hmore.present (fun _ => rfl) 4).cons hfield (groupless_words entry.2)⟩
  obtain ⟨m, hm, hrest, hgroups⟩ := h.exists_find_row (field_mem_keywords entry hentry) hprefers
  exact ⟨m, (form_fieldOnlyRule entry).fires?_alone hm rfl, hrest, hgroups⟩

/-- Where the rule for a field fires, the line starts with one. -/
theorem exists_field_of_fires (hentry : entry ∈ fieldDirectives) (h : ArgumentLine entry.1 w b t)
    (hm : (fieldOnlyRule entry).fires? true (w ++ (b ++ t)) = some m) :
    ∃ field z : Text, t = field ++ z ∧ IsField entry.2 field := by
  have hwords := (plainEntry_of_mem_fieldDirectives entry hentry).words
  obtain ⟨xs, hxs, htext, -⟩ := h.groups_of_find (field_mem_keywords entry hentry)
    (row_fieldOnly entry) (fun x hx => head?_ne_blank_of_words hwords hx)
    (BuiltRule.fires?_eq_some_iff.mp hm).2.1
  obtain _ | @⟨_, field, _, more, hfield, -⟩ := hxs
  refine ⟨field, more.flatten ++ m.rest, ?_, hfield.words hwords⟩
  rw [htext, List.flatten_cons, List.append_assoc]

end Rules

/-! ## Attributes instead of a field -/

/-- A `=` stands in a line before a comment. -/
def EqualsAhead (t : Text) : Prop := '=' ∈ t.takeWhile fun c => c != '#' && c != '\n'

/-- The line of a directive takes attributes. -/
def TakesAttributes (name : String) (t : Text) : Prop :=
  name = attributeDirective ∧ EqualsAhead t

instance (t : Text) : Decidable (EqualsAhead t) := inferInstanceAs (Decidable (_ ∈ _))

instance (name : String) (t : Text) : Decidable (TakesAttributes name t) :=
  inferInstanceAs (Decidable (_ ∧ _))

section Attributes

variable {w b t : Text} {m : Match}

theorem matches_beforeEquals_iff : beforeEquals.tied.matches t = true ↔ EqualsAhead t := by
  rw [matches_tied, Bool.not_eq_true', List.isEmpty_eq_false_iff, EqualsAhead]
  constructor
  · intro hne
    obtain ⟨e, he⟩ := List.exists_mem_of_ne_nil _ hne
    obtain ⟨b, hb, he⟩ := List.mem_flatMap.mp he
    obtain ⟨u, hu, hall⟩ := (many true .beforeComment).exists_reads _ b hb
    obtain ⟨v, hv, -⟩ := (one (.only '=')).exists_reads b e he
    obtain rfl : v = ['='] := Takes.only ⟨b, e, he, hv⟩
    have htext : t = u ++ '=' :: e.rest := hu.rest.trans (congrArg (u ++ ·) hv.rest)
    rw [htext, List.takeWhile_append_of_pos fun c hc => by
      rw [← CharSet.beforeComment_holds]
      exact hall c hc]
    exact List.mem_append_right u (List.mem_cons_self ..)
  · intro hmem
    obtain ⟨u, v, hline⟩ := List.append_of_mem hmem
    have htext : t = u ++ '=' :: (v ++ t.dropWhile fun c => c != '#' && c != '\n') := by
      rw [← List.cons_append, ← List.append_assoc, ← hline, List.takeWhile_append_dropWhile]
    have hu : ∀ c ∈ u, CharSet.beforeComment.holds c = true := fun c hc => by
      have hmem : c ∈ t.takeWhile fun c => c != '#' && c != '\n' := by
        rw [hline]
        exact List.mem_append_left _ hc
      have hbefore := List.mem_takeWhile_imp hmem
      rwa [CharSet.beforeComment_holds]
    obtain ⟨b, hb, hreads⟩ := exists_mem_runEnds (Place.start t) [] htext hu
    have hrest := hreads.leaves htext
    rw [← htext] at hb
    have hequals := prefers_one (s := .only '=') (beq_self_eq_true '=') hrest
    exact List.ne_nil_of_mem (List.mem_flatMap.mpr ⟨b, hb, List.mem_of_head? hequals.head⟩)

/-- Blanks do not matter for a `=`. -/
theorem equalsAhead_append (hb : b.Blanks) : EqualsAhead (b ++ t) ↔ EqualsAhead t := by
  have hchars : ∀ c ∈ b, (c != '#' && c != '\n') = true ∧ c ≠ '=' := fun c hc => by
    rcases hb.blank c hc with rfl | rfl <;> decide
  rw [EqualsAhead, EqualsAhead, List.takeWhile_append_of_pos fun c hc => (hchars c hc).1,
    List.mem_append]
  exact or_iff_right fun hmem => (hchars _ hmem).2 rfl

theorem attributeRule_mem_rootTable : attributeRule ∈ rootTable := by
  simp [rootTable, leadTable_eq]

theorem attributeDirective_mem_keywords : attributeDirective ∈ keywords := by decide

/-- The rule for attributes finds the directive and all the blanks after it. -/
theorem exists_find_attributeStart (hw : w.EqFold attributeDirective.toList) (hb : b.Blanks)
    (ht : ∀ c ∈ t.head?, c ≠ ' ' ∧ c ≠ '\t') :
    ∃ m, attributeRule.pattern.find (w ++ (b ++ t)) = some m ∧ m.rest = t ∧
      m.HasGroups 1 0 [w, b] := by
  obtain ⟨e₁, e₂, hfirst, hblanks, -⟩ :=
    exists_prefers_blanks attributeDirective_mem_keywords hw hb ht
  obtain ⟨m, hm, htext, hgroups⟩ := ((hblanks.last groupless_blanks 2).cons hfirst
    (groupless_literal attributeDirective)).exists_find
  refine ⟨m, hm, List.append_cancel_left (?_ : (w ++ b) ++ m.rest = (w ++ b) ++ t), hgroups⟩
  rw [List.append_assoc w b t, htext]
  simp

/-- Where a `=` stands in the line, the rule for attributes fires. -/
theorem exists_fires_attributeRule (hw : w.EqFold attributeDirective.toList) (hb : b.Blanks)
    (ht : ∀ c ∈ t.head?, c ≠ ' ' ∧ c ≠ '\t') (hequals : EqualsAhead t) :
    ∃ m, attributeRule.fires? true (w ++ (b ++ t)) = some m ∧ m.rest = t ∧
      m.HasGroups 1 0 [w, b] := by
  obtain ⟨m, hm, rfl, hgroups⟩ := exists_find_attributeStart hw hb ht
  refine ⟨m, (form_of_mem_rootTable _ attributeRule_mem_rootTable).fires?_of_find hm ?_, rfl,
    hgroups⟩
  rintro q hq
  obtain rfl : beforeEquals.tied = q := Option.some.inj hq
  exact matches_beforeEquals_iff.mpr hequals

/-- Where the rule for attributes fires, a `=` stands in the line. -/
theorem equalsAhead_of_fires (hw : w.EqFold attributeDirective.toList) (hb : b.Blanks)
    (ht : ∀ c ∈ t.head?, c ≠ ' ' ∧ c ≠ '\t')
    (hm : attributeRule.fires? true (w ++ (b ++ t)) = some m) : EqualsAhead t := by
  obtain ⟨m', hm', rfl, -⟩ := exists_find_attributeStart hw hb ht
  obtain ⟨-, hfind, -, hlook⟩ := BuiltRule.fires?_eq_some_iff.mp hm
  obtain rfl : m = m' := Option.some.inj (hfind.symm.trans hm')
  exact matches_beforeEquals_iff.mp (hlook _ rfl)

/-- Where the rule for attributes fires, it is the first of all. -/
theorem firstFiring?_attributeRule {rest : Text} (h : DirectiveLine attributeDirective w rest)
    (hm : attributeRule.fires? true (w ++ rest) = some m) :
    firstFiring? true (w ++ rest) rootTable = some (attributeRule, m) := by
  have hname := attributeDirective_mem_keywords
  have hshell := ledBy_shellRule.fires?_eq_none (upper_of_subset (by decide)) (by decide) hname h
    true
  have hfrom := ledBy_fromAsRule.fires?_eq_none (upper_of_subset (by decide)) (by decide) hname h
    true
  refine h.firstFiring?_of_leadTable hname ?_
  rw [leadTable_eq, firstFiring?, hshell, firstFiring?, hfrom, firstFiring?, hm]

/-- No other rule of `root` enters the state of attributes. -/
theorem eq_attributeRule_of_push :
    ∀ rule ∈ rootTable, rule.transition = .push providerAttributes → rule = attributeRule := by
  decide

theorem apply_root_eq_iff {transition : Transition} :
    Stack.apply ⟨root, []⟩ transition = ⟨providerAttributes, [root]⟩ ↔
      transition = .push providerAttributes := by
  have hne : root ≠ providerAttributes := by decide
  cases transition <;> simp [Stack.apply, hne]

/-- A step in `root` enters the state of attributes exactly at the start of a line, at the directive
that takes them, where blanks and a `=` in the line follow. -/
theorem step_root_eq_iff {lx : Lexer} (hrest : lx.rest ≠ []) (hstack : lx.stack = ⟨root, []⟩) :
    (lx.step table).stack = ⟨providerAttributes, [root]⟩ ↔
      lx.lineStart = true ∧ ∃ w b t : Text, lx.rest = w ++ (b ++ t) ∧
        w.EqFold attributeDirective.toList ∧ b.Blanks ∧ EqualsAhead t := by
  have hrules : table.rulesOf lx.stack.top = rootTable := by rw [hstack]; rfl
  constructor
  · intro henters
    rcases lx.step_cases table hrest with ⟨rule, m, u, hfire, -, -, -, -, hstep⟩ |
      ⟨c, rest, -, -, hstep⟩
    · rw [hrules] at hfire
      obtain ⟨hmem, hm⟩ := firstFiring?_eq_some hfire
      rw [hstep, Lexer.consume, hstack, apply_root_eq_iff] at henters
      obtain rfl := eq_attributeRule_of_push rule hmem henters
      obtain ⟨hline, hfind, -, hlook⟩ := BuiltRule.fires?_eq_some_iff.mp hm
      obtain ⟨ws, htakes, htext, -⟩ := row_attributeStart.exists_of_find hfind
      obtain _ | @⟨_, w, _, _, hw, _ | @⟨_, b, _, _, hb, _ | _⟩⟩ := htakes
      exact ⟨hline rfl, w, b, m.rest, by simpa using htext, hw.literal
        (plainWords_keywords.plain _ attributeDirective_mem_keywords).chars, hb.blanks,
        matches_beforeEquals_iff.mp (hlook _ rfl)⟩
    · rw [hstep, Lexer.consume, hstack, apply_root_eq_iff] at henters
      cases henters
  · rintro ⟨hline, w, b, t, htext, hw, hb, hequals⟩
    -- The rule reads all the blanks, of which `b` may be a part.
    obtain ⟨gap, t', hcut, hgap, ht'⟩ := Text.exists_blanks_append (b ++ t)
    have hgap : gap.Blanks := by
      refine ⟨?_, hgap⟩
      rintro rfl
      rw [List.nil_append] at hcut
      obtain ⟨c, b, rfl⟩ := List.exists_cons_of_ne_nil hb.ne_nil
      have hc := ht' c (by rw [← hcut]; rfl)
      exact (hb.blank c (List.mem_cons_self ..)).elim hc.1 hc.2
    have hequals : EqualsAhead t' := by
      rwa [← equalsAhead_append hgap, ← hcut, equalsAhead_append hb]
    obtain ⟨m, hm, -⟩ := exists_fires_attributeRule hw hgap ht' hequals
    have hfire := firstFiring?_attributeRule
      ⟨hw, fun c hc => isWordChar_of_blank (hgap.head?_append t' c hc)⟩ hm
    rw [← hcut, ← htext, ← hline, ← hrules] at hfire
    obtain ⟨u, -, hu, -⟩ := BuiltRule.fires?_spans (firstFiring?_eq_some hfire).2
    rw [Lexer.step_eq_of_firing hfire hu, Lexer.consume, hstack]
    rfl

/-- A step in an inner state enters no other one. -/
theorem top_step_of_inner {lx : Lexer} {state : String} (hrest : lx.rest ≠ [])
    (hstate : state ∈ innerStates) (hstack : lx.stack = ⟨state, [root]⟩) :
    (lx.step table).stack.top = state ∨ (lx.step table).stack.top = root := by
  rcases lx.step_cases table hrest with ⟨rule, m, u, hfire, -, -, -, -, hstep⟩ |
    ⟨c, rest, -, -, hstep⟩
  · have hmem := (firstFiring?_eq_some hfire).1
    rw [hstack] at hmem
    rw [hstep, Lexer.consume, hstack]
    rcases twoLevel.inner state hstate rule hmem with ht | ht
    · exact .inl (by rw [ht]; rfl)
    · exact .inr (by rw [ht]; rfl)
  · rw [hstep, Lexer.consume, hstack]
    exact .inl rfl

/-- The only way into the state of attributes. -/
theorem enters_attributes_iff {lx : Lexer} (hrest : lx.rest ≠ [])
    (hlevels : lx.stack.OnLevels table innerStates) (htop : lx.stack.top ≠ providerAttributes) :
    (lx.step table).stack.top = providerAttributes ↔
      lx.stack = ⟨root, []⟩ ∧ lx.lineStart = true ∧ ∃ w b t : Text, lx.rest = w ++ (b ++ t) ∧
        w.EqFold attributeDirective.toList ∧ b.Blanks ∧ EqualsAhead t := by
  have hne : root ≠ providerAttributes := by decide
  have hlevels' := Lexer.onLevels_step twoLevel hlevels
  generalize hstack : lx.stack = stack at hlevels htop ⊢
  cases hlevels with
  | entry =>
    have htop' : (lx.step table).stack.top = providerAttributes ↔
        (lx.step table).stack = ⟨providerAttributes, [root]⟩ := by
      generalize (lx.step table).stack = stack' at hlevels' ⊢
      cases hlevels' with
      | entry => simp [table, hne]
      | inner _ => simp [table]
    rw [htop', step_root_eq_iff hrest hstack]
    exact (and_iff_right rfl).symm
  | inner hstate =>
    constructor
    · intro henters
      rcases top_step_of_inner hrest hstate hstack with h | h
      · exact absurd (h.symm.trans henters) htop
      · exact absurd (h.symm.trans henters) hne
    · rintro ⟨hroot, -⟩
      cases hroot

/-- At a line that takes attributes, the directive and the blanks are read, and their state is
entered. -/
theorem ArgumentLine.exists_readsLine_attributes {source before : Text}
    (h : ArgumentLine attributeDirective w b t) (hplace : LineAt source before (w ++ (b ++ t)))
    (hequals : EqualsAhead t) :
    ∃ lx, ReadsLine source before [(keyword, w), (whitespace, b)] lx ∧ lx.rest = t ∧
      lx.stack = ⟨providerAttributes, [root]⟩ := by
  obtain ⟨m, hm, hrest, hgroups⟩ :=
    exists_fires_attributeRule h.directive h.blanks h.head?_ne_blank hequals
  have haction : attributeRule.action = .groups (keyword :: whitespace :: []) := rfl
  have htext : t = [].flatten ++ m.rest := hrest.symm
  obtain ⟨lx, hreads, hrest', hstack⟩ :=
    h.exists_readsLine attributeDirective_mem_keywords hplace
      (firstFiring?_attributeRule h.toDirectiveLine hm) haction rfl htext hgroups
  exact ⟨lx, hreads, hrest'.trans hrest, hstack⟩

end Attributes

/-! ## The tokens of the line -/

section Tokens

variable {entry : String × List String} {w b t : Text}

/-- Where the rules for a directive with fields have one that fires, it is the first of all, unless
the line takes attributes. -/
theorem firstFiring?_of_fieldTable (hentry : entry ∈ fieldDirectives)
    (h : ArgumentLine entry.1 w b t) (hattributes : ¬ TakesAttributes entry.1 t)
    {found : BuiltRule × Match}
    (hfound : firstFiring? true (w ++ (b ++ t)) (fieldTable entry) = some found) :
    firstFiring? true (w ++ (b ++ t)) rootTable = some found := by
  have hname := field_mem_keywords entry hentry
  have hline := h.toDirectiveLine
  have hshell : ∀ entry ∈ fieldDirectives, entry.1 ∉ "ONBUILD" :: shellDirectives := by decide
  have hfrom : ∀ entry ∈ fieldDirectives, entry.1 ∉ ["FROM"] := by decide
  have hother : ∀ entry ∈ fieldDirectives, ∀ other ∈ fieldDirectives, other ≠ entry →
      entry.1 ≠ other.1 := by decide
  have hlead : firstFiring? true (w ++ (b ++ t)) leadTable = none := by
    refine firstFiring?_of_forall_none ?_
    rw [leadTable_eq]
    simp only [List.forall_mem_cons]
    refine ⟨ledBy_shellRule.fires?_eq_none (upper_of_subset (by decide)) (hshell entry hentry)
      hname hline _, ledBy_fromAsRule.fires?_eq_none (upper_of_subset (by decide))
      (hfrom entry hentry) hname hline _, ?_, by simp⟩
    by_cases hattribute : entry.1 = attributeDirective
    · refine Option.eq_none_iff_forall_ne_some.mpr fun m hm => hattributes ⟨hattribute, ?_⟩
      exact equalsAhead_of_fires (hattribute ▸ h.directive) h.blanks h.head?_ne_blank hm
    · exact ledBy_attributeRule.fires?_eq_none (upper_of_subset (by decide))
        (by simpa using hattribute) hname hline _
  have hfields : firstFiring? true (w ++ (b ++ t)) (fieldDirectives.flatMap fieldTable) =
      some found :=
    firstFiring?_flatMap hfound hentry fun other hmem hne =>
      hline.fieldTable_silent hname hmem (hother entry hentry other hmem hne)
  have htable : rootTable = blankTable ++ (leadTable ++ (fieldDirectives.flatMap fieldTable ++
      (valueDirectives.flatMap valueTable ++ lastTable))) := by
    simp only [rootTable, List.append_assoc]
  rw [htable, firstFiring?_append, firstFiring?_blankTable_of_directive (hline.toDirective hname),
    Option.none_or, firstFiring?_append, hlead, Option.none_or, firstFiring?_append, hfields,
    Option.some_or]

/-- One of the rules for a directive with fields fires, and it reads the row of the body. -/
theorem exists_fieldRow (hentry : entry ∈ fieldDirectives) (h : ArgumentLine entry.1 w b t) :
    ∃ rule m categories ws,
      firstFiring? true (w ++ (b ++ t)) (fieldTable entry) = some (rule, m) ∧
      rule.action = .groups (keyword :: whitespace :: categories) ∧
      categories.length = ws.length ∧ t = ws.flatten ++ m.rest ∧
      m.HasGroups 1 0 (w :: b :: ws) ∧
      FieldRow entry.2 t.body ((categories.zip ws).filter (·.2 ≠ [])) := by
  have hfree := prefixFree_of_mem_fieldDirectives entry hentry
  have hwords := (plainEntry_of_mem_fieldDirectives entry hentry).words
  have hne : ∀ {field : Text}, IsField entry.2 field → field ≠ [] := fun ⟨s, hs, hfold⟩ =>
    hfold.ne_nil (hwords.plain s hs).ne_nil
  rw [fieldTable_eq]
  by_cases hvalue : Nonempty (FieldAndValue entry.2 t.body)
  · obtain ⟨x⟩ := hvalue
    obtain ⟨m, hm, htext, hgroups⟩ := exists_fires_fieldValueRule hentry h x
    refine ⟨fieldValueRule entry, m, [identifier, whitespace, string], [x.field, x.gap, x.value],
      by rw [firstFiring?, hm], rfl, rfl, htext, hgroups, ?_⟩
    have hrow : ([identifier, whitespace, string].zip [x.field, x.gap, x.value]).filter
        (·.2 ≠ []) = x.row := by
      simp [FieldAndValue.row, hne x.isField, x.blanks.ne_nil, x.ne_nil]
    rw [hrow]
    exact fieldRow_of_value hfree x
  · have hempty := not_nonempty_iff.mp hvalue
    have hsilent : (fieldValueRule entry).fires? true (w ++ (b ++ t)) = none :=
      Option.eq_none_iff_forall_ne_some.mpr fun m hm => hvalue (nonempty_of_fires hentry h hm)
    by_cases hfield : ∃ field z : Text, t = field ++ z ∧ IsField entry.2 field
    · obtain ⟨field, z, ht, hfield⟩ := hfield
      obtain ⟨m, hm, htext, hgroups⟩ := exists_fires_fieldOnlyRule hentry h hfield ht
      refine ⟨fieldOnlyRule entry, m, [error, error], [field, z.body],
        by rw [firstFiring?, hsilent, firstFiring?, hm], rfl, rfl, htext, hgroups, ?_⟩
      obtain ⟨s, hs, hfold⟩ := id hfield
      have hbody : t.body = field ++ z.body := by
        rw [ht, (hfold.trimmed (hwords.plain s hs)).body_append]
      exact fieldRow_of_field hfree hempty hbody hfield (hne hfield)
    · obtain ⟨m, hm, htext, hgroups⟩ := h.exists_fires_errorRule (field_mem_keywords entry hentry)
      have hsilent' : (fieldOnlyRule entry).fires? true (w ++ (b ++ t)) = none :=
        Option.eq_none_iff_forall_ne_some.mpr fun m hm =>
          hfield (exists_field_of_fires hentry h hm)
      refine ⟨errorRule entry, m, [error], [t.body],
        by rw [firstFiring?, hsilent, firstFiring?, hsilent', firstFiring?, hm], rfl, rfl,
        by simpa using htext, hgroups, ?_⟩
      have hrow : ([error].zip [t.body]).filter (·.2 ≠ []) = [(error, t.body)] := by
        simp [h.body_ne_nil]
      rw [hrow]
      refine fieldRow_of_none fun field more hbody hisField => hfield ?_
      obtain ⟨y, ht, -⟩ := Text.exists_eq_body_append t
      exact ⟨field, more ++ y, by rw [← List.append_assoc, ← hbody, ← ht], hisField⟩

/-- The line of a directive with fields and an argument gives the directive, the blanks, and the
row of the body.  If it takes attributes, the state of attributes is entered after the blanks
instead, and a scan enters that state in no other way. -/
theorem field_directive_tokens (source : Text) :
    (∀ entry ∈ fieldDirectives, ∀ before w b t : Text, LineAt source before (w ++ (b ++ t)) →
      ArgumentLine entry.1 w b t →
      (¬ TakesAttributes entry.1 t → ∃ lead row others,
        tokenize Language.pdfile.grammar source =
          lead ++ (Token.row before.size ((.keyword, w) :: (.whitespace, b) :: row) ++ others) ∧
        Tiles 0 before lead ∧ FieldRow entry.2 t.body row) ∧
      (TakesAttributes entry.1 t → ∃ lead lx,
        (Lexer.start Language.pdfile.grammar source).Scans Language.pdfile.grammar
          (lead ++ Token.row before.size [(.keyword, w), (.whitespace, b)]) lx ∧
        Tiles 0 before lead ∧ lx.rest = t ∧ lx.stack = ⟨providerAttributes, [root]⟩)) ∧
    ∀ lx, Reaches source lx → lx.rest ≠ [] → lx.stack.top ≠ providerAttributes →
      ((lx.step Language.pdfile.grammar).stack.top = providerAttributes ↔
        lx.stack = ⟨root, []⟩ ∧ lx.lineStart = true ∧ ∃ w b t : Text, lx.rest = w ++ (b ++ t) ∧
          w.EqFold attributeDirective.toList ∧ b.Blanks ∧ EqualsAhead t) := by
  refine ⟨fun entry hentry before w b t hplace hline => ⟨fun hattributes => ?_, ?_⟩,
    fun lx ⟨_, hscans⟩ hrest htop => ?_⟩
  · obtain ⟨rule, m, categories, ws, hfire, haction, hlength, htext, hgroups, hrow⟩ :=
      exists_fieldRow hentry hline
    obtain ⟨lx, hreads, -⟩ := hline.exists_readsLine (field_mem_keywords entry hentry) hplace
      (firstFiring?_of_fieldTable hentry hline hattributes hfire) haction hlength htext hgroups
    obtain ⟨lead, htokens, hlead⟩ := hreads.exists_tokenize_eq
    exact ⟨lead, _, _, htokens, hlead, hrow⟩
  · rintro ⟨hname, hequals⟩
    rw [hname] at hline
    obtain ⟨lx, hreads, hrest, hstack⟩ := hline.exists_readsLine_attributes hplace hequals
    obtain ⟨lead, hscans, hlead⟩ := hreads.scans
    exact ⟨lead, lx, grammar_eq ▸ hscans, hlead, hrest, hstack⟩
  · have hlevels := hscans.onLevels Language.pdfile.twoLevel .entry
    rw [grammar_eq] at hlevels ⊢
    exact enters_attributes_iff hrest hlevels htop

end Tokens

/-- A field with its value before a comment with a `=`, a field that goes on as a word, and
attributes. -/
theorem field_directive_tokens_provider :
    let entry : String × List String := ("PROVIDER", credentialFields)
    let w : Text := ['p', 'r', 'o', 'v', 'i', 'd', 'e', 'r']
    let named : Text := ['n', 'a', 'm', 'e', '\t', 'x', ' ', '#', '=']
    let glued : Text := ['N', 'A', 'M', 'E', 'S', ' ', 'x']
    let pair : Text := ['a', '=', 'b']
    entry ∈ fieldDirectives ∧
      (∀ t ∈ [named, glued, pair], LineAt (w ++ ([' '] ++ t)) [] (w ++ ([' '] ++ t)) ∧
        ArgumentLine entry.1 w [' '] t) ∧
      ¬ TakesAttributes entry.1 named ∧ ¬ TakesAttributes entry.1 glued ∧
      TakesAttributes entry.1 pair ∧
      (∃ others, tokenize Language.pdfile.grammar (w ++ ([' '] ++ named)) =
        Token.row 0 [(.keyword, w), (.whitespace, [' ']), (.identifier, ['n', 'a', 'm', 'e']),
          (.whitespace, ['\t']), (.string, ['x'])] ++ others) ∧
      (∃ others, tokenize Language.pdfile.grammar (w ++ ([' '] ++ glued)) =
        Token.row 0 [(.keyword, w), (.whitespace, [' ']), (.error, ['N', 'A', 'M', 'E']),
          (.error, ['S', ' ', 'x'])] ++ others) ∧
      (∃ lx, Reaches (w ++ ([' '] ++ pair)) lx ∧ lx.rest = pair ∧
        lx.stack = ⟨providerAttributes, [root]⟩) ∧
      ((Lexer.start Language.pdfile.grammar (w ++ ([' '] ++ pair))).step
        Language.pdfile.grammar).stack.top = providerAttributes := by
  intro entry w named glued pair
  have hfold : w.EqFold attributeDirective.toList := by decide +kernel
  have hfield : IsField entry.2 ['n', 'a', 'm', 'e'] :=
    ⟨"NAME", by decide, by decide +kernel⟩
  have hfield' : IsField entry.2 ['N', 'A', 'M', 'E'] :=
    ⟨"NAME", by decide, by decide +kernel⟩
  have hblanks : Text.Blanks [' '] := ⟨by decide, by simp⟩
  have hplace : ∀ t : Text, LineAt (w ++ ([' '] ++ t)) [] (w ++ ([' '] ++ t)) := fun t =>
    .first (by decide : isBlank 'p' = false)
  have hline : ∀ t ∈ [named, glued, pair], ArgumentLine entry.1 w [' '] t := by
    simp only [List.forall_mem_cons]
    exact ⟨⟨hfold, hblanks, 'n', _, rfl, by decide, by decide⟩,
      ⟨hfold, hblanks, 'N', _, rfl, by decide, by decide⟩,
      ⟨hfold, hblanks, 'a', _, rfl, by decide, by decide⟩, by simp⟩
  let x : FieldAndValue entry.2 named.body :=
    ⟨['n', 'a', 'm', 'e'], ['\t'], ['x'], by decide, hfield, ⟨by decide, by simp⟩, by decide,
      by simpa using (by decide : isBlank 'x' = false)⟩
  let y : FieldAndMore entry.2 glued.body :=
    ⟨['N', 'A', 'M', 'E'], ['S', ' ', 'x'], by decide, hfield', by decide⟩
  have hentry : entry ∈ fieldDirectives := by decide
  have hempty : IsEmpty (FieldAndValue entry.2 glued.body) := ⟨fun z => by
    obtain ⟨-, hmore⟩ := hfield'.cut (prefixFree_of_mem_fieldDirectives entry hentry) z.isField
      (y.text.symm.trans z.text)
    have hgap := z.blanks.head?_append z.value
    rw [← hmore] at hgap
    exact absurd (hgap 'S' rfl) (by decide)⟩
  obtain ⟨hnamed, -⟩ := (field_directive_tokens _).1 entry hentry [] w [' '] named (hplace named)
    (hline named (by simp))
  obtain ⟨hglued, -⟩ := (field_directive_tokens _).1 entry hentry [] w [' '] glued (hplace glued)
    (hline glued (by simp))
  obtain ⟨-, hpair⟩ := (field_directive_tokens _).1 entry hentry [] w [' '] pair (hplace pair)
    (hline pair (by simp))
  obtain ⟨lead, _, others, htokens, hlead, hrow⟩ := hnamed (by decide)
  rw [hlead.eq_nil, hrow.value x] at htokens
  obtain ⟨lead', _, others', htokens', hlead', hrow'⟩ := hglued (by decide)
  rw [hlead'.eq_nil, hrow'.more hempty y] at htokens'
  obtain ⟨lead'', lx, hscans, -, hrest, hstack⟩ := hpair (by decide)
  have hstart : (Lexer.start Language.pdfile.grammar (w ++ ([' '] ++ pair))).stack =
      ⟨root, []⟩ := by
    rw [Lexer.start, Language.entry_eq]
    rfl
  have henters := ((field_directive_tokens _).2
    (Lexer.start Language.pdfile.grammar (w ++ ([' '] ++ pair))) ⟨[], .refl rfl⟩
    (by simp [Lexer.start, w]) (by rw [hstart]; decide)).mpr
    ⟨hstart, rfl, w, [' '], pair, rfl, hfold, hblanks, by decide⟩
  exact ⟨hentry, fun t ht => ⟨hplace t, hline t ht⟩, by decide, by decide, by decide,
    ⟨others, htokens⟩, ⟨others', htokens'⟩, ⟨lx, ⟨_, hscans⟩, hrest, hstack⟩, henters⟩

end Highlighter.Pdfile
