import Highlighter.Proofs.Completeness
import Highlighter.Proofs.Pdfile.Comments
import Highlighter.Proofs.Pdfile.Directives

/-!
# The texts of each category

What the tokens of a pdfile source say about their texts, category by category.  A
step of the scan reads a row of texts, each with a category (`Row`), and a text *fits*
its category, what the row has before it and what the source has after it
(`Fits`).  For most categories this is about the text alone.  A value is of the closed
set of the directive before it, an error comes after a directive that has fields or
values, and a comment is as long as its line.

Every rule makes rows that fit (`RowsFit`).  The one exception is the rule for any
character of a line, which would make plain text of a blank if the rules for blanks
and line ends did not come before it.
-/

namespace Highlighter

/-! ## Texts -/

/-- A text within a line and before a comment, without blanks at its end. -/
structure Text.Trimmed (w : Text) : Prop where
  hash : '#' ∉ w
  newline : '\n' ∉ w
  last : ∀ c ∈ w.getLast?, isBlank c = false

theorem Text.Trimmed.of_solid {w : Text} (h : ∀ c ∈ w, isBlank c = false) (hash : '#' ∉ w) :
    w.Trimmed where
  hash := hash
  newline hmem := absurd (h _ hmem) (by decide)
  last c hc := h c (List.mem_of_getLast? hc)

theorem Text.EqFold.trimmed {u w : Text} (h : u.EqFold w) (hw : w.Plain) : u.Trimmed :=
  .of_solid (fun c hc => (h.solid hw c hc).1) fun hmem => (h.solid hw _ hmem).2 rfl

theorem Text.Blanks.isBlank {w : Text} (h : w.Blanks) : ∀ c ∈ w, isBlank c = true :=
  fun c hc => isBlank_of_blank (h.blank c hc)

namespace CharSet

variable {c : Char}

theorem solid_of_isBlank (hc : isBlank c = true) : solid.holds c = false := by
  have hself : (CharSet.union (.only '#') .space).holds c = true := by simp [holds, hc]
  rw [solid, holds, holds, Bool.not_eq_false', List.any_eq_true]
  exact ⟨c, Unicode.self_mem_caseVariants c, hself⟩

theorem valueChar_of_isBlank (hc : isBlank c = true) : valueChar.holds c = false := by
  have hself : (CharSet.union (.union (.only ';') (.only '#')) .space).holds c = true := by
    simp [holds, hc]
  rw [valueChar, holds, holds, Bool.not_eq_false', List.any_eq_true]
  exact ⟨c, Unicode.self_mem_caseVariants c, hself⟩

theorem keyChar_of_isBlank (hc : isBlank c = true) : keyChar.holds c = false := by
  have hascii : ∀ n < 128, isBlank (Char.ofNat n) = true →
      (union (union (union (between 'A' 'Z') (between '0' '9')) (only '_')) (only '-')).holds
        (Char.ofNat n) = false := by decide
  rw [keyChar, holds, List.any_eq_false]
  intro d hd hholds
  -- A character of keys is a letter, or it has no other case.
  by_cases halpha : d.isAlpha = true
  · have hword := Unicode.isWordChar_of_mem_caseVariants halpha hd
    rw [isWordChar_of_isBlank hc] at hword
    cases hword
  · have hlt : d.toNat < 128 := by
      have hle : d ≤ 'z' := by
        simp only [holds, Bool.or_eq_true, Bool.and_eq_true, decide_eq_true_eq, beq_iff_eq]
          at hholds
        rcases hholds with ((⟨-, hle⟩ | ⟨-, hle⟩) | rfl) | rfl
        · exact Char.le_trans hle (by decide)
        · exact Char.le_trans hle (by decide)
        · decide
        · decide
      have hle : d.toNat ≤ 'z'.toNat := hle
      exact Nat.lt_of_le_of_lt hle (by decide)
    obtain rfl := Unicode.eq_of_mem_caseVariants hlt (by simpa using halpha) hd
    have hnone := hascii c.toNat hlt (by rwa [Char.ofNat_toNat])
    rw [Char.ofNat_toNat, hholds] at hnone
    cases hnone

end CharSet

/-- What a pattern reads is trimmed if its form shows it. -/
theorem Pattern.Takes.trimmed {p : Pattern} {w : Text} (h : p.Takes w)
    (hash : p.accepts '#' = false) (newline : p.accepts '\n' = false)
    (hlast : ∀ c, isBlank c = true → p.endsIn c = false) : w.Trimmed where
  hash hmem := by
    rw [h.accepts _ hmem] at hash
    cases hash
  newline hmem := by
    rw [h.accepts _ hmem] at newline
    cases newline
  last c hc := by
    by_contra hblank
    have hends := h.endsIn c hc
    rw [hlast c (by simpa using hblank)] at hends
    cases hends

namespace Pdfile

open Category Pattern

/-! ## Rows that fit -/

/-- The text that a row reads. -/
def rowText (row : List (Category × Text)) : Text := (row.map Prod.snd).flatten

theorem rowText_cons (x : Category × Text) (row : List (Category × Text)) :
    rowText (x :: row) = x.2 ++ rowText row := rfl

/-- A row without its empty texts reads the same. -/
theorem rowText_filter : ∀ row : List (Category × Text),
    rowText (row.filter (·.2 ≠ [])) = rowText row
  | [] => rfl
  | x :: row => by
    have ih := rowText_filter row
    by_cases hx : x.2 = []
    · rw [List.filter_cons_of_neg (by simpa using hx), ih]
      simp [rowText, hx]
    · rw [List.filter_cons_of_pos (by simpa using hx)]
      simpa [rowText] using ih

/-- The row of the groups of a match reads their texts. -/
theorem rowText_zip_filter {categories : List Category} {ws : List Text}
    (h : categories.length = ws.length) :
    rowText ((categories.zip ws).filter (·.2 ≠ [])) = ws.flatten := by
  rw [rowText_filter, rowText, List.map_snd_zip (Nat.le_of_eq h.symm)]

/-- A text is an escape: a backslash with a line end or a character after it. -/
def IsEscape (w : Text) : Prop := w = ['\\', '\r', '\n'] ∨ ∃ c, w = ['\\', c]

/-- A directive has a closed set of values, and a text is one of them. -/
def IsValue (directive w : Text) : Prop :=
  ∃ entry ∈ valueDirectives, directive.EqFold entry.1.toList ∧
    ∃ value ∈ entry.2, w.EqFold value.toList

/-- A directive has fields or a closed set of values. -/
def IsChecked (directive : Text) : Prop :=
  ∃ entry ∈ fieldDirectives ++ valueDirectives, directive.EqFold entry.1.toList

/-- A text fits its category, where a row has others before it and a text comes after it. -/
def Fits (before : List (Category × Text)) (after : Text) : Category × Text → Prop
  | (.keyword, w) => w.Trimmed
  | (.identifier, w) => w.Trimmed
  | (.string, w) => w.Trimmed
  | (.constant, w) => IsEscape w ∨
      ∃ directive blank, before = [(keyword, directive), (whitespace, blank)] ∧ IsValue directive w
  | (.operator, w) => w = ['=']
  | (.punctuation, w) => w = [';'] ∨ w = [',']
  | (.comment, w) => ∃ line, w = '#' :: line ∧ '\n' ∉ line ∧ ∀ c ∈ after.head?, c = '\n'
  | (.whitespace, w) => ∀ c ∈ w, isBlank c = true
  | (.error, w) => w.Trimmed ∧
      ∃ directive others, before = (keyword, directive) :: others ∧ IsChecked directive
  | (.text, w) => ∀ c ∈ w, isBlank c = false

/-- Every text of a row fits. -/
inductive RowFits (after : Text) : List (Category × Text) → List (Category × Text) → Prop where
  | nil {before : List (Category × Text)} : RowFits after before []
  | cons {before row : List (Category × Text)} {x : Category × Text} :
      Fits before (rowText row ++ after) x → RowFits after (before ++ [x]) row →
      RowFits after before (x :: row)

/-- A rule reads rows that fit. -/
structure RowsFit (rule : BuiltRule) : Prop where
  row : ∀ {lineStart : Bool} {t : Text} {m : Match}, rule.fires? lineStart t = some m →
    ∃ row, t = rowText row ++ m.rest ∧ RowFits m.rest [] row ∧
      ∀ base, rule.action.tokens base (rowText row) m = Token.row base row

section Rules

variable {p : Pattern} {ps : List Pattern} {lineStart : Bool} {q : Option Pattern}
  {transition : Transition}

theorem RowsFit.of_token {category : Category}
    (h : ∀ {t u : Text} {m : Match}, p.tied.find t = some m → t = u ++ m.rest →
      Fits [] m.rest (category, u)) :
    RowsFit ⟨p.tied, lineStart, q, .token category, transition⟩ := by
  constructor
  intro _ t m hm
  obtain ⟨u, -, hu, -⟩ := BuiltRule.fires?_spans hm
  have hfits := h (BuiltRule.fires?_eq_some_iff.mp hm).2.1 hu
  have htext : rowText [(category, u)] = u := by simp [rowText]
  refine ⟨[(category, u)], by rw [htext, hu], .cons hfits .nil, fun base => ?_⟩
  rw [htext]
  rfl

/-- A rule that makes one token, by what its pattern reads. -/
theorem RowsFit.of_takes {category : Category}
    (h : ∀ {u : Text}, p.Takes u → ∀ after, Fits [] after (category, u)) :
    RowsFit ⟨p.tied, lineStart, q, .token category, transition⟩ := by
  refine .of_token fun {t u m} hm hu => h ?_ m.rest
  obtain ⟨e, he, rfl⟩ := exists_mem_run_of_find hm
  obtain ⟨v, hv, -⟩ := p.exists_reads _ e he
  obtain rfl : u = v := List.append_cancel_right (hu.symm.trans hv.rest)
  exact ⟨_, e, he, hv⟩

/-- A rule that makes a token of each group, by what its parts read. -/
theorem RowsFit.of_row {categories : List Category} (hrow : p.Row 1 ps)
    (hlength : categories.length = ps.length)
    (h : ∀ {ws : List Text}, List.Forall₂ Takes ps ws →
      ∀ after, RowFits after [] ((categories.zip ws).filter (·.2 ≠ []))) :
    RowsFit ⟨p.tied, lineStart, q, .groups categories, transition⟩ := by
  constructor
  intro _ t m hm
  obtain ⟨ws, htakes, htext, hgroups⟩ :=
    hrow.exists_of_find (BuiltRule.fires?_eq_some_iff.mp hm).2.1
  have hlength' := hlength.trans htakes.length_eq
  have hflatten := rowText_zip_filter hlength'
  refine ⟨_, by rw [hflatten, htext], h htakes m.rest, fun base => ?_⟩
  rw [hflatten]
  exact Action.tokens_of_groups hgroups hlength' base

/-- Where every part reads something, the row has all of them. -/
theorem RowsFit.of_full_row {categories : List Category} (hrow : p.Row 1 ps)
    (hlength : categories.length = ps.length) (hfull : ∀ r ∈ ps, r.consumes = true)
    (h : ∀ {ws : List Text}, List.Forall₂ Takes ps ws →
      ∀ after, RowFits after [] (categories.zip ws)) :
    RowsFit ⟨p.tied, lineStart, q, .groups categories, transition⟩ := by
  refine .of_row hrow hlength fun {ws} htakes after => ?_
  have hne : ∀ w ∈ ws, w ≠ [] := by
    clear hlength h hrow
    induction htakes with
    | nil => simp
    | cons hw _ ih =>
      rw [List.forall_mem_cons] at hfull
      exact List.forall_mem_cons.mpr ⟨hw.ne_nil hfull.1, ih hfull.2⟩
  rw [List.filter_eq_self.mpr fun x hx => by simpa using hne x.2 (List.of_mem_zip hx).2]
  exact h htakes after

/-- A row of texts that fit wherever they stand. -/
theorem RowsFit.of_texts {categories : List Category} (hrow : p.Row 1 ps)
    (hlength : categories.length = ps.length)
    (h : ∀ {ws : List Text}, List.Forall₂ Takes ps ws →
      ∀ x ∈ categories.zip ws, ∀ before after, Fits before after x) :
    RowsFit ⟨p.tied, lineStart, q, .groups categories, transition⟩ := by
  refine .of_row hrow hlength fun {ws} htakes after => ?_
  have hrows : ∀ row : List (Category × Text), (∀ x ∈ row, ∀ before after, Fits before after x) →
      ∀ before, RowFits after before row := by
    intro row
    induction row with
    | nil => exact fun _ _ => .nil
    | cons x row ih =>
      intro hrow before
      rw [List.forall_mem_cons] at hrow
      exact .cons (hrow.1 _ _) (ih hrow.2 _)
  exact hrows _ (fun x hx => h htakes x (List.mem_filter.mp hx).1) []

end Rules

/-! ## What parts read -/

section Parts

variable {w : Text}

theorem trimmed_of_literal {name : String} (hname : Text.Plain name.toList)
    (h : (Pattern.literal name).Takes w) : w.Trimmed :=
  (h.literal hname.chars).trimmed hname

theorem trimmed_of_words {list : List String} (hlist : PlainWords list)
    (h : (Pattern.words list).Takes w) : w.Trimmed := by
  obtain ⟨name, hname, hw⟩ := h.words hlist
  exact hw.trimmed (hlist.plain name hname)

theorem consumes_literal {name : String} (hname : Text.Plain name.toList) :
    (Pattern.literal name).consumes = true := by
  obtain ⟨c, t, hw, -⟩ := hname.exists_cons
  rw [Pattern.literal, hw]
  cases t <;> rfl

theorem trimmed_of_argument (h : Pattern.argument.Takes w) : w.Trimmed := by
  refine h.trimmed rfl rfl fun c hc => ?_
  have hsolid := CharSet.solid_of_isBlank hc
  simp [Pattern.argument, Pattern.opt, Pattern.endsIn, Pattern.consumes, hsolid]

theorem trimmed_of_toSolid (h : (Pattern.seq (.many true .beforeComment) (.one .solid)).Takes w) :
    w.Trimmed := by
  refine h.trimmed rfl rfl fun c hc => ?_
  have hsolid := CharSet.solid_of_isBlank hc
  simp [Pattern.endsIn, Pattern.consumes, hsolid]

theorem trimmed_of_run {s : CharSet} (hash : s.holds '#' = false)
    (hs : ∀ c, isBlank c = true → s.holds c = false) (h : (Pattern.plus s).Takes w) :
    w.Trimmed := by
  have hends : ∀ c, isBlank c = true → (Pattern.plus s).endsIn c = false := fun c hc => by
    simp [Pattern.plus, Pattern.endsIn, hs c hc]
  refine h.trimmed ?_ ?_ hends
  · simp [Pattern.plus, Pattern.accepts, hash]
  · simp [Pattern.plus, Pattern.accepts, hs '\n' rfl]

theorem isBlank_of_inlineBlanks (h : (Pattern.many true .inlineBlank).Takes w) :
    ∀ c ∈ w, isBlank c = true := by
  intro c hc
  rcases inlineBlank_holds_iff.mp (h.accepts c hc) with rfl | rfl <;> rfl

/-- A directive with a command is trimmed, also when it is deferred. -/
theorem trimmed_of_shellDirective (h : shellDirective.Takes w) : w.Trimmed := by
  have hrun : Text.Plain onbuildDirective.toList := .ofList (by decide)
  have hdeferrer : (Pattern.wordThen true "ONBUILD".toList .blanks).Inside :=
    .wordThen (.ofList (by decide)) .blanks
  rcases h.alt with h | h
  · obtain ⟨u, v, rfl, hu, hv⟩ := h.seq
    have hv' := trimmed_of_literal hrun hv
    have hu' : '#' ∉ u ∧ '\n' ∉ u := by
      have haccepts := hu.accepts
      refine ⟨fun hmem => ?_, fun hmem => ?_⟩
      · have hhash := haccepts _ hmem
        rw [hdeferrer.opt.hash] at hhash
        cases hhash
      · have hnewline := haccepts _ hmem
        rw [hdeferrer.opt.newline] at hnewline
        cases hnewline
    refine ⟨by simp [hu'.1, hv'.hash], by simp [hu'.2, hv'.newline], fun c hc => hv'.last c ?_⟩
    rwa [List.getLast?_append_of_ne_nil _ (hv.ne_nil (consumes_literal hrun))] at hc
  · exact trimmed_of_words plainWords_immediateDirectives h

end Parts

/-! ## Rules of `root` -/

section Entries

variable {entry : String × List String}

theorem isChecked_of_field (hentry : entry ∈ fieldDirectives) {w : Text}
    (h : w.EqFold entry.1.toList) : IsChecked w :=
  ⟨entry, List.mem_append_left _ hentry, h⟩

theorem isChecked_of_value (hentry : entry ∈ valueDirectives) {w : Text}
    (h : w.EqFold entry.1.toList) : IsChecked w :=
  ⟨entry, List.mem_append_right _ hentry, h⟩

/-- A directive and an argument that is an error. -/
theorem rowsFit_anyValue (hplain : PlainEntry entry)
    (hchecked : ∀ k : Text, k.EqFold entry.1.toList → IsChecked k) :
    RowsFit ⟨(anyValue entry).tied, true, none, .groups [keyword, whitespace, error], .stay⟩ := by
  refine .of_full_row (row_anyValue entry) rfl ?_ fun {ws} h after => ?_
  · simp only [List.forall_mem_cons]
    exact ⟨consumes_literal hplain.directive, rfl, rfl, by simp⟩
  · obtain _ | ⟨hk, _ | ⟨hb, _ | ⟨hw, _ | _⟩⟩⟩ := h
    have hfold := hk.literal hplain.directive.chars
    exact .cons (hfold.trimmed hplain.directive) (.cons hb.blanks.isBlank
      (.cons ⟨trimmed_of_argument hw, _, _, rfl, hchecked _ hfold⟩ .nil))

theorem rowsFit_fieldValue (hplain : PlainEntry entry) :
    RowsFit ⟨(fieldValue entry).tied, true, none,
      .groups [keyword, whitespace, identifier, whitespace, string], .stay⟩ := by
  refine .of_texts (row_fieldValue entry) rfl fun {ws} h => ?_
  obtain _ | ⟨hk, _ | ⟨hb, _ | ⟨hf, _ | ⟨hb', _ | ⟨hv, _ | _⟩⟩⟩⟩⟩ := h
  simp only [List.zip_cons_cons, List.zip_nil_right, List.forall_mem_cons]
  exact ⟨fun _ _ => trimmed_of_literal hplain.directive hk, fun _ _ => hb.blanks.isBlank,
    fun _ _ => trimmed_of_words hplain.words hf, fun _ _ => hb'.blanks.isBlank,
    fun _ _ => trimmed_of_argument hv, by simp⟩

/-- A directive, a field and whatever is glued to it or comes instead of a value. -/
theorem rowsFit_fieldOnly (hentry : entry ∈ fieldDirectives) :
    RowsFit ⟨(fieldOnly entry).tied, true, none, .groups [keyword, whitespace, error, error],
      .stay⟩ := by
  have hplain := plainEntry_of_mem_fieldDirectives entry hentry
  refine .of_row (row_fieldOnly entry) rfl fun {ws} h after => ?_
  obtain _ | @⟨_, k, _, _, hk, _ | @⟨_, b, _, _, hb, _ | @⟨_, f, _, _, hf, _ |
    @⟨_, x, _, _, hx, _ | _⟩⟩⟩⟩ := h
  have hfold := hk.literal hplain.directive.chars
  have hkne := hk.ne_nil (consumes_literal hplain.directive)
  have hbne := hb.blanks.ne_nil
  have hfne := hf.ne_nil (consumes_words hplain.words)
  have hchecked := isChecked_of_field hentry hfold
  have hfield := trimmed_of_words hplain.words hf
  by_cases hxne : x = []
  · have hrow : ([keyword, whitespace, error, error].zip [k, b, f, x]).filter (·.2 ≠ []) =
        [(keyword, k), (whitespace, b), (error, f)] := by
      simp [hkne, hbne, hfne, hxne]
    rw [hrow]
    exact .cons (hfold.trimmed hplain.directive) (.cons hb.blanks.isBlank
      (.cons ⟨hfield, k, _, rfl, hchecked⟩ .nil))
  · have hrow : ([keyword, whitespace, error, error].zip [k, b, f, x]).filter (·.2 ≠ []) =
        [(keyword, k), (whitespace, b), (error, f), (error, x)] := by
      simp [hkne, hbne, hfne, hxne]
    have hmore := trimmed_of_toSolid (hx.opt.resolve_left hxne)
    rw [hrow]
    exact .cons (hfold.trimmed hplain.directive) (.cons hb.blanks.isBlank
      (.cons ⟨hfield, k, _, rfl, hchecked⟩ (.cons ⟨hmore, k, _, rfl, hchecked⟩ .nil)))

theorem rowsFit_of_mem_fieldTable (hentry : entry ∈ fieldDirectives) :
    ∀ rule ∈ fieldTable entry, RowsFit rule := by
  have hplain := plainEntry_of_mem_fieldDirectives entry hentry
  simp only [fieldTable, List.forall_mem_cons]
  exact ⟨rowsFit_fieldValue hplain, rowsFit_fieldOnly hentry,
    rowsFit_anyValue hplain fun _ => isChecked_of_field hentry, by simp⟩

theorem rowsFit_of_mem_valueTable (hentry : entry ∈ valueDirectives) :
    ∀ rule ∈ valueTable entry, RowsFit rule := by
  have hplain := plainEntry_of_mem_valueDirectives entry hentry
  simp only [valueTable, List.forall_mem_cons]
  refine ⟨.of_full_row (row_wordValue entry) rfl ?_ fun {ws} h after => ?_,
    rowsFit_anyValue hplain fun _ => isChecked_of_value hentry, by simp⟩
  · simp only [List.forall_mem_cons]
    exact ⟨consumes_literal hplain.directive, rfl, consumes_words hplain.words, by simp⟩
  · obtain _ | ⟨hk, _ | ⟨hb, _ | ⟨hw, _ | _⟩⟩⟩ := h
    have hfold := hk.literal hplain.directive.chars
    exact .cons (hfold.trimmed hplain.directive) (.cons hb.blanks.isBlank
      (.cons (.inr ⟨_, _, rfl, entry, hentry, hfold, hw.words hplain.words⟩) .nil))

end Entries

theorem rowsFit_blanks : RowsFit .blanks :=
  .of_takes fun h _ c hc => by simpa [Pattern.plus, accepts, CharSet.holds] using h.accepts c hc

theorem rowsFit_comment (transition : Transition) : RowsFit (.comment transition) := by
  refine .of_token fun {t u m} hm hu => ?_
  obtain ⟨c, rest, rfl, hc, hrest⟩ := find_run_eq_some hm
  obtain rfl : c = '#' := by simpa [CharSet.holds] using hc
  rw [hrest] at hu ⊢
  refine ⟨_, eq_cons_takeWhile hu, fun hmem => ?_, fun c hc => ?_⟩
  · exact absurd (List.mem_takeWhile_imp hmem) (by decide)
  · have hstops := List.head?_dropWhile_not CharSet.inLine.holds rest
    rw [hc] at hstops
    simpa [CharSet.inLine, CharSet.holds] using hstops

theorem rowsFit_words : RowsFit .words := by
  refine .of_takes fun h _ c hc => ?_
  have hword : isWordChar c = true := by
    simpa [Pattern.plus, accepts, CharSet.holds] using h.accepts c hc
  exact (solid_of_isWordChar hword).1

theorem rowsFit_signs : RowsFit .signs := by
  refine .of_takes fun h _ c hc => ?_
  have hsign : CharSet.sign.holds c = true := by
    simpa [Pattern.plus, accepts] using h.accepts c hc
  exact (isWordChar_of_sign hsign).2

theorem rowsFit_shellStart : RowsFit
    ⟨shellStart.tied, true, none, .groups [keyword, whitespace], .push shellCommandBody⟩ := by
  refine .of_texts row_shellStart rfl fun {ws} h => ?_
  obtain _ | ⟨hk, _ | ⟨hb, _ | _⟩⟩ := h
  simp only [List.zip_cons_cons, List.zip_nil_right, List.forall_mem_cons]
  exact ⟨fun _ _ => trimmed_of_shellDirective hk, fun _ _ => hb.blanks.isBlank, by simp⟩

theorem rowsFit_fromAs : RowsFit fromAsRule := by
  have hfrom : Text.Plain "FROM".toList := .ofList (by decide)
  have has : Text.Plain "AS".toList := .ofList (by decide)
  refine .of_texts row_fromAs rfl fun {ws} h => ?_
  obtain _ | ⟨hk, _ | ⟨hb, _ | ⟨hv, _ | ⟨hb', _ | ⟨hk', _ | ⟨hb'', _ | ⟨hv', _ | _⟩⟩⟩⟩⟩⟩⟩ := h
  simp only [List.zip_cons_cons, List.zip_nil_right, List.forall_mem_cons]
  exact ⟨fun _ _ => trimmed_of_literal hfrom hk, fun _ _ => hb.blanks.isBlank,
    fun _ _ => trimmed_of_argument hv, fun _ _ => hb'.blanks.isBlank,
    fun _ _ => trimmed_of_literal has hk', fun _ _ => hb''.blanks.isBlank,
    fun _ _ => trimmed_of_argument hv', by simp⟩

theorem rowsFit_attributeStart : RowsFit ⟨attributeStart.tied, true, some beforeEquals.tied,
    .groups [keyword, whitespace], .push providerAttributes⟩ := by
  refine .of_texts row_attributeStart rfl fun {ws} h => ?_
  obtain _ | ⟨hk, _ | ⟨hb, _ | _⟩⟩ := h
  simp only [List.zip_cons_cons, List.zip_nil_right, List.forall_mem_cons]
  exact ⟨fun _ _ => trimmed_of_literal (.ofList (by decide)) hk, fun _ _ => hb.blanks.isBlank,
    by simp⟩

theorem rowsFit_listStart : RowsFit
    ⟨listStart.tied, true, none, .groups [keyword, whitespace], .push commaList⟩ := by
  refine .of_texts row_listStart rfl fun {ws} h => ?_
  obtain _ | ⟨hk, _ | ⟨hb, _ | _⟩⟩ := h
  simp only [List.zip_cons_cons, List.zip_nil_right, List.forall_mem_cons]
  exact ⟨fun _ _ => trimmed_of_words plainWords_listDirectives hk,
    fun _ _ => hb.blanks.isBlank, by simp⟩

theorem rowsFit_anyDirective : RowsFit anyDirectiveRule := by
  refine .of_texts row_anyDirective rfl fun {ws} h => ?_
  obtain _ | ⟨hk, _ | ⟨hb, _ | ⟨hv, _ | _⟩⟩⟩ := h
  simp only [List.zip_cons_cons, List.zip_nil_right, List.forall_mem_cons]
  refine ⟨fun _ _ => trimmed_of_words plainWords_keywords hk,
    fun _ _ => isBlank_of_inlineBlanks hb, fun _ _ => ?_, by simp⟩
  rcases hv.opt with rfl | hv
  · exact ⟨by simp, by simp, by simp⟩
  · exact trimmed_of_argument hv

theorem rowsFit_of_mem_rootTable : ∀ rule ∈ rootTable, RowsFit rule := by
  simp only [rootTable, List.forall_mem_append]
  refine ⟨⟨⟨⟨?_, ?_⟩, ?_⟩, ?_⟩, ?_⟩
  · simp only [blankTable, List.forall_mem_cons]
    exact ⟨rowsFit_blanks, rowsFit_comment _, by simp⟩
  · simp only [leadTable, List.forall_mem_cons]
    exact ⟨rowsFit_shellStart, rowsFit_fromAs, rowsFit_attributeStart, by simp⟩
  · intro rule hrule
    obtain ⟨entry, hentry, hrule⟩ := List.mem_flatMap.mp hrule
    exact rowsFit_of_mem_fieldTable hentry rule hrule
  · intro rule hrule
    obtain ⟨entry, hentry, hrule⟩ := List.mem_flatMap.mp hrule
    exact rowsFit_of_mem_valueTable hentry rule hrule
  · simp only [lastTable, List.forall_mem_cons]
    exact ⟨rowsFit_listStart, rowsFit_anyDirective, rowsFit_words, rowsFit_signs, by simp⟩

/-! ## Rules of the inner states -/

theorem rowsFit_closingLineEnd : RowsFit .closingLineEnd := by
  refine .of_takes fun h _ c hc => ?_
  have haccepts : c = '\r' ∨ c = '\n' := by
    simpa [newline, opt, accepts, CharSet.holds] using h.accepts c hc
  rcases haccepts with rfl | rfl <;> rfl

theorem rowsFit_innerBlanks : RowsFit .innerBlanks := by
  refine .of_takes fun h _ c hc => ?_
  have hinner : isBlank c = true ∧ c ≠ '\n' := by
    simpa [Pattern.plus, accepts, CharSet.innerBlank, CharSet.holds] using h.accepts c hc
  exact hinner.1

theorem rowsFit_escape : RowsFit .escape := by
  refine .of_token fun {t u m} hm hu => .inl ?_
  rw [find_escape, Option.map_eq_some_iff] at hm
  obtain ⟨⟨v, rest⟩, hescape, rfl⟩ := hm
  obtain ⟨hv, hform⟩ := Text.escape?_cases hescape
  obtain rfl : u = v := List.append_cancel_right (hu.symm.trans hv)
  exact hform

theorem rowsFit_pair : RowsFit
    ⟨pair.tied, false, none, .groups [identifier, operator, string], .stay⟩ := by
  refine .of_texts row_pair rfl fun {ws} h => ?_
  obtain _ | ⟨hkey, _ | ⟨hsign, _ | ⟨hvalue, _ | _⟩⟩⟩ := h
  simp only [List.zip_cons_cons, List.zip_nil_right, List.forall_mem_cons]
  exact ⟨fun _ _ => trimmed_of_run rfl (fun _ => CharSet.keyChar_of_isBlank) hkey,
    fun _ _ => hsign.only, fun _ _ => trimmed_of_run rfl (fun _ => CharSet.valueChar_of_isBlank)
      hvalue, by simp⟩

theorem rowsFit_pairThenSeparator : RowsFit ⟨pairThenSeparator.tied, false, none,
    .groups [identifier, operator, string, punctuation], .stay⟩ := by
  refine .of_texts row_pairThenSeparator rfl fun {ws} h => ?_
  obtain _ | ⟨hkey, _ | ⟨hsign, _ | ⟨hvalue, _ | ⟨hseparator, _ | _⟩⟩⟩⟩ := h
  simp only [List.zip_cons_cons, List.zip_nil_right, List.forall_mem_cons]
  exact ⟨fun _ _ => trimmed_of_run rfl (fun _ => CharSet.keyChar_of_isBlank) hkey,
    fun _ _ => hsign.only, fun _ _ => trimmed_of_run rfl (fun _ => CharSet.valueChar_of_isBlank)
      hvalue, fun _ _ => .inl hseparator.only, by simp⟩

theorem itemChar_of_isBlank {c : Char} (hc : isBlank c = true) :
    CharSet.itemChar.holds c = false := by
  simp [CharSet.itemChar, CharSet.holds, hc]

theorem rowsFit_itemThenSeparator : RowsFit
    ⟨itemThenSeparator.tied, false, none, .groups [identifier, punctuation], .stay⟩ := by
  refine .of_texts row_itemThenSeparator rfl fun {ws} h => ?_
  obtain _ | ⟨hitem, _ | ⟨hseparator, _ | _⟩⟩ := h
  simp only [List.zip_cons_cons, List.zip_nil_right, List.forall_mem_cons]
  exact ⟨fun _ _ => trimmed_of_run rfl (fun _ => itemChar_of_isBlank) hitem,
    fun _ _ => .inr hseparator.only, by simp⟩

theorem rowsFit_shellWords :
    RowsFit ⟨shellWords.tied, false, none, .token string, .stay⟩ := by
  refine .of_takes fun h _ => h.trimmed rfl rfl fun c hc => ?_
  have hshell : CharSet.shellChar.holds c = false := by
    simp [CharSet.shellChar, CharSet.holds, hc]
  simp [shellWords, Pattern.plus, endsIn, Pattern.consumes, hshell]

/-- The rules of an inner state but the one for any character of a line. -/
theorem rowsFit_of_inner {state : String} (hstate : state ∈ innerStates) :
    ∀ rule ∈ table.rulesOf state, RowsFit rule ∨ rule = .anyChar := by
  simp only [innerStates, List.mem_cons, List.not_mem_nil, or_false] at hstate
  rcases hstate with rfl | rfl | rfl
  · rw [rulesOf_providerAttributes]
    simp only [providerAttributeTable, List.forall_mem_cons]
    exact ⟨.inl (rowsFit_comment _), .inl rowsFit_closingLineEnd, .inl rowsFit_innerBlanks,
      .inl rowsFit_pairThenSeparator, .inl rowsFit_pair, .inr trivial, by simp⟩
  · rw [rulesOf_commaList]
    simp only [commaListTable, List.forall_mem_cons]
    refine ⟨.inl (rowsFit_comment _), .inl rowsFit_closingLineEnd, .inl rowsFit_innerBlanks,
      .inl rowsFit_itemThenSeparator, .inl (.of_takes fun h _ => ?_), .inr trivial, by simp⟩
    exact trimmed_of_run rfl (fun _ => itemChar_of_isBlank) h
  · rw [rulesOf_shellCommandBody]
    simp only [shellCommandTable, List.forall_mem_cons]
    exact ⟨.inl rowsFit_closingLineEnd, .inl (rowsFit_comment _), .inl rowsFit_escape,
      .inl rowsFit_innerBlanks, .inl rowsFit_shellWords, by simp⟩

/-- Where a blank starts no line end in an inner state, it starts a run of blanks. -/
theorem firstFiring?_inner_of_blank {state : String} (hstate : state ∈ innerStates)
    {lineStart : Bool} {t : Text} {c : Char} (hc : isBlank c = true)
    (hline : BuiltRule.closingLineEnd.fires? lineStart (c :: t) = none) :
    firstFiring? lineStart (c :: t) (table.rulesOf state) =
      some (.innerBlanks, ⟨0, Text.size (c :: t.takeWhile CharSet.innerBlank.holds), [],
        t.dropWhile CharSet.innerBlank.holds⟩) := by
  have hne := BuiltRule.ne_newline_of_closingLineEnd hline
  have hcomment : (BuiltRule.comment .pop).fires? lineStart (c :: t) = none := by
    rw [BuiltRule.comment, BuiltRule.fires?_plain rfl, Pattern.comment, find_run, if_neg]
    rw [CharSet.holds, beq_iff_eq]
    rintro rfl
    cases hc
  have hescape : BuiltRule.escape.fires? lineStart (c :: t) = none := by
    rw [BuiltRule.escape, BuiltRule.fires?_plain rfl, find_escape_eq_none]
    rintro rfl
    cases hc
  have hblanks : BuiltRule.innerBlanks.fires? lineStart (c :: t) =
      some ⟨0, Text.size (c :: t.takeWhile CharSet.innerBlank.holds), [],
        t.dropWhile CharSet.innerBlank.holds⟩ := by
    rw [BuiltRule.innerBlanks, BuiltRule.fires?_plain rfl, Pattern.plus, find_run,
      if_pos (by simp [CharSet.innerBlank, CharSet.holds, hc, hne])]
  simp only [innerStates, List.mem_cons, List.not_mem_nil, or_false] at hstate
  rcases hstate with rfl | rfl | rfl
  · simp only [rulesOf_providerAttributes, providerAttributeTable, firstFiring?, hcomment, hline,
      hblanks]
  · simp only [rulesOf_commaList, commaListTable, firstFiring?, hcomment, hline, hblanks]
  · simp only [rulesOf_shellCommandBody, shellCommandTable, firstFiring?, hline, hcomment, hescape,
      hblanks]

/-- The rule for any character of a line is not the first to fire at a blank. -/
theorem isBlank_of_anyChar {state : String} (hstate : state ∈ innerStates) {lineStart : Bool}
    {t : Text} {c : Char} {m : Match}
    (h : firstFiring? lineStart (c :: t) (table.rulesOf state) = some (.anyChar, m)) :
    isBlank c = false := by
  by_contra hblank
  have hc : isBlank c = true := by simpa using hblank
  cases hline : BuiltRule.closingLineEnd.fires? lineStart (c :: t) with
  | none =>
    rw [firstFiring?_inner_of_blank hstate hc hline] at h
    have hrule : BuiltRule.innerBlanks = .anyChar := congrArg Prod.fst (Option.some.inj h)
    exact absurd hrule (by decide)
  | some m' =>
    have hne : c ≠ '#' := by
      rintro rfl
      cases hc
    have hfind := (BuiltRule.fires?_eq_some_iff.mp hline).2.1
    rw [firstFiring?_inner hstate lineStart hne hfind] at h
    have hrule : BuiltRule.closingLineEnd = .anyChar := congrArg Prod.fst (Option.some.inj h)
    exact absurd hrule (by decide)

/-! ## Steps -/

/-- Where a rule fires first, it reads a row that fits. -/
theorem exists_row_of_firstFiring {stack : Stack} (hstack : stack.OnLevels table innerStates)
    {lineStart : Bool} {t : Text} {rule : BuiltRule} {m : Match}
    (hfire : firstFiring? lineStart t (table.rulesOf stack.top) = some (rule, m)) :
    ∃ row, t = rowText row ++ m.rest ∧ RowFits m.rest [] row ∧
      ∀ base, rule.action.tokens base (rowText row) m = Token.row base row := by
  obtain ⟨hmem, hm⟩ := firstFiring?_eq_some hfire
  cases hstack with
  | entry => exact (rowsFit_of_mem_rootTable rule hmem).row hm
  | inner hstate =>
    rcases rowsFit_of_inner hstate rule hmem with hfit | rfl
    · exact hfit.row hm
    · obtain ⟨c, rfl⟩ := BuiltRule.fires?_anyChar_eq_some hm
      have hsolid := isBlank_of_anyChar hstate hfire
      exact ⟨[(text, [c])], rfl, .cons (by simpa [Fits] using hsolid) .nil, fun base => rfl⟩

/-- A step reads a row that fits. -/
theorem exists_row {lx : Lexer} (hidle : lx.Idle) (hrest : lx.rest ≠ [])
    (hstack : lx.stack.OnLevels table innerStates) :
    ∃ row, lx.rest = rowText row ++ (lx.step table).rest ∧ RowFits (lx.step table).rest [] row ∧
      (lx.step table).pending = Token.row lx.cursor row := by
  rcases lx.step_cases table hrest with ⟨rule, m, u, hfire, -, hu, -, -, hstep⟩ |
    ⟨c, rest, hfire, hc, hstep⟩
  · obtain ⟨row, htext, hrow, htokens⟩ := exists_row_of_firstFiring hstack hfire
    obtain rfl : u = rowText row := List.append_cancel_right (hu.symm.trans htext)
    rw [hstep, hidle.pending_consume]
    exact ⟨row, hu, hrow, htokens lx.cursor⟩
  · -- Only a backslash is left, which is no blank.
    have hslash := (Language.pdfile.firstFiring?_eq_none_iff (by rwa [grammar_eq]) lx.lineStart
      hrest).mp (by rwa [grammar_eq])
    rw [hslash.1] at hc
    cases hc
    have hfits : Fits [] (rowText [] ++ []) (text, ['\\']) := by
      intro c hc
      rw [List.mem_singleton.mp hc]
      rfl
    rw [hstep, hidle.pending_consume]
    exact ⟨[(text, ['\\'])], hslash.1, .cons hfits .nil, rfl⟩

/-! ## Texts of a row -/

theorem rowText_append (row row' : List (Category × Text)) :
    rowText (row ++ row') = rowText row ++ rowText row' := by
  simp [rowText]

/-- Each text of a row that fits does so where it stands. -/
theorem RowFits.fits_of_split {after : Text} {before row : List (Category × Text)}
    (h : RowFits after before row) : ∀ {first others : List (Category × Text)}
      {x : Category × Text}, row = first ++ x :: others →
      Fits (before ++ first) (rowText others ++ after) x := by
  induction h with
  | nil => simp
  | @cons before row y hy _ ih =>
    intro first others x hrow
    cases first with
    | nil =>
      obtain ⟨rfl, rfl⟩ := List.cons.inj hrow
      simpa using hy
    | cons y' first =>
      obtain ⟨rfl, hothers⟩ := List.cons.inj hrow
      have hlater := ih hothers
      rwa [List.append_assoc, List.singleton_append] at hlater

/-- A token of a row is one of its texts, after the tokens of the texts before it. -/
theorem exists_split_of_row : ∀ {row : List (Category × Text)} {base : Nat}
    {before after : List Token} {t : Token}, Token.row base row = before ++ t :: after →
      ∃ first x others, row = first ++ x :: others ∧ before = Token.row base first ∧
        t = Token.at x.1 (base + (rowText first).size) x.2
  | [], _, before, _, _, h => by simp [Token.row] at h
  | x :: row, base, before, after, t, h => by
    cases before with
    | nil =>
      obtain ⟨rfl, -⟩ := List.cons.inj h
      exact ⟨[], x, row, rfl, rfl, rfl⟩
    | cons t' before =>
      obtain ⟨rfl, hrest⟩ := List.cons.inj h
      obtain ⟨first, x', others, rfl, rfl, rfl⟩ := exists_split_of_row hrest
      refine ⟨x :: first, x', others, rfl, rfl, ?_⟩
      simp [rowText, Text.size_append, Nat.add_assoc]

/-! ## The tokens of a source -/

/-- A token of a source, after some others, has a text of its category. -/
def Sound (source : Text) (before : List Token) (t : Token) : Prop :=
  match t.category with
  | .whitespace => ∀ c ∈ t.text, isBlank c = true
  | .comment => LineComment source t
  | .operator => t.text = ['=']
  | .punctuation => t.text = [';'] ∨ t.text = [',']
  | .constant => IsEscape t.text ∨
      ∃ earlier directive blank, before = earlier ++ [directive, blank] ∧
        directive.category = .keyword ∧ IsValue directive.text t.text
  | .identifier => t.text.Trimmed
  | .string => t.text.Trimmed
  | .error => t.text.Trimmed ∧
      ∃ earlier lx directive middle later,
        (Lexer.start table source).Scans table earlier lx ∧
        (lx.step table).pending = directive :: (middle ++ t :: later) ∧
        before = earlier ++ directive :: middle ∧
        directive.category = .keyword ∧ IsChecked directive.text
  | .keyword => True
  | .text => ∀ c ∈ t.text, isBlank c = false

/-- Every token of a source has a text of its category.  Blanks are blanks, and a comment starts
with `#` and goes on to the end of its line.  Operators and separators are single characters.  A
constant is an escape, or a value that the directive two tokens before it accepts.  Identifiers,
values and errors have no `#` and no line end and do not end in a blank, and an error follows, in
the same match, a directive that has fields or values.  Plain text has no blanks. -/
theorem category_sound (source : Text) {before after : List Token} {t : Token}
    (h : tokenize Language.pdfile.grammar source = before ++ t :: after) :
    Sound source before t := by
  obtain ⟨end_, hscans, -⟩ := scans_tokenize Language.pdfile.grammar source
  obtain ⟨earlier, lx, others, later, hreach, hrest, hpending, rfl⟩ :=
    hscans.exists_step_of_split h
  obtain ⟨read, hsource, hcursor⟩ := exists_read_of_scans hreach
  have hstack := hreach.onLevels Language.pdfile.twoLevel .entry
  rw [grammar_eq] at hstack hreach hpending
  obtain ⟨row, htext, hrow, htokens⟩ := exists_row hreach.idle_right hrest hstack
  rw [hpending] at htokens
  obtain ⟨first, ⟨category, w⟩, more, rfl, rfl, rfl⟩ := exists_split_of_row htokens.symm
  have hfits := hrow.fits_of_split rfl
  rw [List.nil_append] at hfits
  rw [rowText_append, List.append_assoc] at htext
  cases category with
  | keyword => trivial
  | identifier => exact hfits
  | string => exact hfits
  | constant =>
    refine hfits.imp id ?_
    rintro ⟨directive, blank, rfl, hvalue⟩
    exact ⟨earlier, _, _, rfl, rfl, hvalue⟩
  | operator => exact hfits
  | punctuation => exact hfits
  | comment =>
    obtain ⟨line, rfl, hline, hafter⟩ := hfits
    refine ⟨read ++ rowText first, line, _, ?_, ?_, hline, hafter⟩
    · rw [hsource, htext]
      simp [rowText]
    · rw [Text.size_append, hcursor]
  | whitespace => exact hfits
  | error =>
    obtain ⟨hw, directive, others, rfl, hchecked⟩ := hfits
    exact ⟨hw, earlier, lx, _, _, later, hreach, hpending, rfl, rfl, hchecked⟩
  | text => exact hfits

/-- The value of a directive with a closed set of values. -/
theorem category_sound_value :
    let t := Token.at .constant 6 ['t', 'r', 'u', 'e']
    tokenize Language.pdfile.grammar ['F', 'o', 'r', 'c', 'e', ' ', 't', 'r', 'u', 'e'] =
      [Token.at .keyword 0 ['F', 'o', 'r', 'c', 'e'], Token.at .whitespace 5 [' ']] ++ t :: [] ∧
    Sound ['F', 'o', 'r', 'c', 'e', ' ', 't', 'r', 'u', 'e']
      [Token.at .keyword 0 ['F', 'o', 'r', 'c', 'e'], Token.at .whitespace 5 [' ']] t := by
  intro t
  have htokens : tokenize Language.pdfile.grammar
      ['F', 'o', 'r', 'c', 'e', ' ', 't', 'r', 'u', 'e'] =
      [Token.at .keyword 0 ['F', 'o', 'r', 'c', 'e'], Token.at .whitespace 5 [' ']] ++ t :: [] := by
    rw [grammar_eq]
    decide +kernel
  exact ⟨htokens, category_sound _ htokens⟩

end Pdfile

end Highlighter
