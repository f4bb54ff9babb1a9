import Highlighter.Proofs.Grammar.Caseless
import Highlighter.Proofs.Pdfile.Categories
import Highlighter.Proofs.Pdfile.Keywords
import Highlighter.Proofs.Scan.Simulation

/-!
# Comments behind a line

A comment behind a line of pdfile, with a blank before it, is two more tokens and
changes none of the others, with one exception.  A deferred `RUN` with nothing behind
it is plain text, and with a blank behind it it is a keyword.

A rule *keeps* to a line if it finds the same match with a comment behind it (`Keeps`).
A rule that reads blanks could go on into the blank before the comment.  Most rules
have to read something after that, and there is nothing they can read.  The others are
for blanks, which the line does not end with, or for directives without an argument.
So where the line is no bare directive every rule keeps to it, and the scan goes the
same way.  A bare directive is read in one step, with or without the comment.
-/

namespace Highlighter.Pdfile

open Category Pattern

/-! ## Lines -/

/-- A line without a comment, which ends in neither a blank nor a backslash. -/
structure LineBody (t : Text) : Prop extends t.Trimmed where
  ne_nil : t ≠ []
  slash : t.getLast? ≠ some '\\'

/-- A comment and the blank before it. -/
def trailing (c : Text) : Text := ' ' :: '#' :: c

/-- A deferred directive and nothing else. -/
def Deferral (t : Text) : Prop :=
  ∃ v b w : Text, t = v ++ (b ++ w) ∧ v.EqFold "ONBUILD".toList ∧ b.Blanks ∧
    w.EqFold onbuildDirective.toList

/-- A directive and nothing else. -/
def Bare (t : Text) : Prop := (∃ s ∈ keywords, t.EqFold s.toList) ∨ Deferral t

namespace LineBody

variable {t u : Text}

theorem suffix (h : LineBody (u ++ t)) (hne : t ≠ []) : LineBody t where
  hash hmem := h.hash (List.mem_append_right u hmem)
  newline hmem := h.newline (List.mem_append_right u hmem)
  last c hc := h.last c (by rwa [List.getLast?_append_of_ne_nil u hne])
  ne_nil := hne
  slash hc := h.slash (by rwa [List.getLast?_append_of_ne_nil u hne])

theorem exists_last (h : LineBody t) : ∃ c ∈ t, isBlank c = false := by
  obtain ⟨c, hc⟩ := Option.ne_none_iff_exists'.mp (mt List.getLast?_eq_none_iff.mp h.ne_nil)
  exact ⟨c, List.mem_of_getLast? hc, h.last c hc⟩

/-- What is read up to the blank after a line, but for blanks at its end, is the line. -/
theorem eq_of_append (h : LineBody t) {v b : Text} (hv : v.Trimmed)
    (hb : ∀ c ∈ b, isBlank c = true) (ht : t ++ [' '] = v ++ b) : t = v := by
  rcases List.eq_nil_or_concat' b with rfl | ⟨b, c, rfl⟩
  · rw [List.append_nil] at ht
    exact absurd (hv.last ' ' (by simp [← ht])) (by decide)
  · rw [← List.append_assoc] at ht
    obtain ⟨ht, -⟩ := List.append_inj' ht rfl
    by_cases hnil : b = []
    · rw [ht, hnil, List.append_nil]
    · obtain ⟨d, hd⟩ := Option.ne_none_iff_exists'.mp (mt List.getLast?_eq_none_iff.mp hnil)
      have hlast := h.last d (by rw [ht, List.getLast?_append_of_ne_nil v hnil, hd]; rfl)
      rw [hb d (List.mem_append_left _ (List.mem_of_getLast? hd))] at hlast
      cases hlast

end LineBody

/-! ## What is not read -/

section Takes

variable {t : Text}

/-- Nothing that cannot end in a blank is read up to the blank after a line. -/
theorem not_takes_of_endsIn {p : Pattern} (h : p.endsIn ' ' = false) : ¬ p.Takes (t ++ [' ']) := by
  intro htakes
  rw [htakes.endsIn ' ' (by simp)] at h
  cases h

/-- No run of blanks is read up to the blank after a line. -/
theorem not_takes_of_blanks {p : Pattern} (hp : ∀ c, p.accepts c = true → isBlank c = true)
    (ht : LineBody t) : ¬ p.Takes (t ++ [' ']) := by
  intro htakes
  obtain ⟨c, hc, hsolid⟩ := ht.exists_last
  rw [hp c (htakes.accepts c (List.mem_append_left _ hc))] at hsolid
  cases hsolid

/-- What the rule for commands reads before the blanks is a bare directive. -/
theorem bare_of_shellDirective (h : shellDirective.Takes t) : Bare t := by
  have hrun : Text.Plain onbuildDirective.toList := .ofList (by decide)
  have hdeferrer : Text.Plain "ONBUILD".toList := .ofList (by decide)
  rcases h.alt with h | h
  · obtain ⟨u, w, rfl, hu, hw⟩ := h.seq
    have hw := hw.literal hrun.chars
    rcases hu.opt with rfl | hu
    · exact .inl ⟨onbuildDirective, onbuildDirective_mem_keywords, hw⟩
    · obtain ⟨v, b, rfl, hv, hb⟩ := hu.wordThen hdeferrer.chars
      exact .inr ⟨v, b, w, List.append_assoc v b w, hv, hb.blanks, hw⟩
  · obtain ⟨s, hs, hfold⟩ := h.words plainWords_immediateDirectives
    have hkeywords : ∀ s ∈ immediateDirectives, s ∈ keywords := by decide
    exact .inl ⟨s, hkeywords s hs, hfold⟩

/-- A directive and blanks are read up to the blank after a line only if the line is bare. -/
theorem bare_of_directiveBlanks (ht : LineBody t) {p q : Pattern} (hrow : p.Row 1 [q, .blanks])
    (hbare : ∀ {v : Text}, q.Takes v → v.Trimmed ∧ Bare v) (h : p.Takes (t ++ [' '])) :
    Bare t := by
  obtain ⟨ws, htakes, htext⟩ := hrow.takes h
  obtain _ | @⟨_, v, _, _, hv, _ | @⟨_, b, _, _, hb, _ | _⟩⟩ := htakes
  obtain ⟨htrimmed, hbare⟩ := hbare hv
  rw [ht.eq_of_append htrimmed hb.blanks.isBlank (by simpa using htext)]
  exact hbare

theorem bare_of_shellStart (ht : LineBody t) (h : shellStart.Takes (t ++ [' '])) : Bare t :=
  bare_of_directiveBlanks ht row_shellStart
    (fun hv => ⟨trimmed_of_shellDirective hv, bare_of_shellDirective hv⟩) h

theorem bare_of_attributeStart (ht : LineBody t) (h : attributeStart.Takes (t ++ [' '])) :
    Bare t := by
  have hword : Text.Plain attributeDirective.toList := .ofList (by decide)
  exact bare_of_directiveBlanks ht row_attributeStart (fun hv => ⟨trimmed_of_literal hword hv,
    .inl ⟨attributeDirective, by decide, hv.literal hword.chars⟩⟩) h

theorem bare_of_listStart (ht : LineBody t) (h : listStart.Takes (t ++ [' '])) : Bare t := by
  refine bare_of_directiveBlanks ht row_listStart (fun hv => ?_) h
  obtain ⟨s, hs, hfold⟩ := hv.words plainWords_listDirectives
  have hkeywords : ∀ s ∈ listDirectives, s ∈ keywords := by decide
  exact ⟨trimmed_of_words plainWords_listDirectives hv, .inl ⟨s, hkeywords s hs, hfold⟩⟩

theorem bare_of_anyDirective (ht : LineBody t) (h : anyDirective.Takes (t ++ [' '])) : Bare t := by
  obtain ⟨ws, htakes, htext⟩ := row_anyDirective.takes h
  obtain _ | @⟨_, v, _, _, hv, _ | @⟨_, b, _, _, hb, _ | @⟨_, x, _, _, hx, _ | _⟩⟩⟩ := htakes
  have htext : t ++ [' '] = v ++ (b ++ x) := by simpa using htext
  rcases hx.opt with rfl | hx
  · rw [List.append_nil] at htext
    rw [ht.eq_of_append (trimmed_of_words plainWords_keywords hv) (isBlank_of_inlineBlanks hb)
      htext]
    exact .inl (hv.words plainWords_keywords)
  · -- An argument does not end in a blank.
    have hlast := congrArg List.getLast? htext
    rw [← List.append_assoc, List.getLast?_append_of_ne_nil _ (hx.ne_nil rfl)] at hlast
    exact absurd ((trimmed_of_argument hx).last ' ' (by simp [← hlast])) (by decide)

end Takes

/-! ## Rules that keep to a line -/

/-- A rule finds the same match in a line with a comment behind it. -/
def Keeps (lineStart : Bool) (t c : Text) (rule : BuiltRule) : Prop :=
  Option.Rel (Match.Twins [] (trailing c)) (rule.fires? lineStart t)
    (rule.fires? lineStart (t ++ trailing c))

/-- A lookahead does not tell the end of the text from a comment. -/
def EndBlind (q : Pattern) : Prop := ∀ c w : Text, q.matches (w ++ trailing c) = q.matches w

theorem endBlind_lineEnd : EndBlind Pattern.lineEnd.tied := by
  intro c w
  rw [matches_lineEnd, matches_lineEnd, List.dropWhile_append]
  split
  · next hnil =>
    rw [List.isEmpty_iff.mp hnil]
    rfl
  · next hne =>
    obtain ⟨d, u, hdu⟩ := List.exists_cons_of_ne_nil (fun hnil => hne (List.isEmpty_iff.mpr hnil))
    rw [hdu]
    rfl

theorem endBlind_beforeEquals : EndBlind beforeEquals.tied := by
  intro c w
  have hmatches := matches_eq_of_twins (x := []) (y := trailing c) (q := beforeEquals)
    (caseless_beforeEquals.blind none (some ' ') rfl) (stays_nil _)
    (stays_of_endsIn rfl rfl c) w
  rwa [List.append_nil] at hmatches

section Keeps

variable {t c : Text} {lineStart s : Bool} {p : Pattern} {q : Option Pattern} {action : Action}
  {transition : Transition}

theorem Keeps.of_find {rule : BuiltRule} (hlook : ∀ r ∈ rule.followedBy, EndBlind r)
    (h : Option.Rel (Match.Twins [] (trailing c)) (rule.pattern.find t)
      (rule.pattern.find (t ++ trailing c))) : Keeps lineStart t c rule := by
  refine BuiltRule.fires?_rel (fun m m' hm => hm.isEmpty) (fun r hr m m' hm => ?_) h
  obtain ⟨w, hw, hw'⟩ := hm.rest
  rw [hw, hw', List.append_nil, hlook r hr c w]

/-- A rule that reads no blank. -/
theorem Keeps.of_accepts (hcaseless : p.Caseless) (h : p.accepts ' ' = false) :
    Keeps lineStart t c ⟨p.tied, s, none, action, transition⟩ := by
  have hfind := twins_find (x := []) (y := trailing c) (hcaseless.blind none (some ' ') rfl)
    (stays_nil p) (stays_of_accepts h _) t
  rw [List.append_nil] at hfind
  exact .of_find (by simp) hfind

/-- A rule that does not read up to the blank after the line. -/
theorem Keeps.of_not_takes (hcaseless : p.Caseless) (hash : p.accepts '#' = false)
    (hlook : ∀ r ∈ q, EndBlind r) (h : ¬ p.Takes (t ++ [' '])) :
    Keeps lineStart t c ⟨p.tied, s, q, action, transition⟩ :=
  .of_find hlook (twins_find_of_not_takes (hcaseless.blind none (some ' ') rfl) hash h)

/-- A rule for the start of a line. -/
theorem Keeps.of_lineStart {rule : BuiltRule} (hrule : rule.lineStart = true)
    (h : lineStart = true → Keeps lineStart t c rule) : Keeps lineStart t c rule := by
  cases lineStart with
  | true => exact h rfl
  | false =>
    have hnone : ∀ u, rule.fires? false u = none := fun u => by
      simp [BuiltRule.fires?, hrule]
    rw [Keeps, hnone, hnone]
    exact .none

theorem keeps_blanks (ht : LineBody t) : Keeps lineStart t c .blanks := by
  refine .of_not_takes (.plus CharSet.uncased_space) rfl (by simp) (not_takes_of_blanks ?_ ht)
  intro c hc
  simpa [Pattern.plus, accepts, CharSet.holds] using hc

theorem keeps_comment (ht : LineBody t) : Keeps lineStart t c (.comment transition) := by
  obtain ⟨d, u, rfl⟩ := List.exists_cons_of_ne_nil ht.ne_nil
  have hd : CharSet.holds (.only '#') d = false := by
    rw [CharSet.holds, beq_eq_false_iff_ne]
    rintro rfl
    exact ht.hash (List.mem_cons_self ..)
  have hnone : ∀ v : Text, Pattern.comment.tied.find (d :: v) = none := fun v => by
    rw [Pattern.comment, find_run, hd]
    rfl
  refine .of_find (by simp [BuiltRule.comment]) ?_
  rw [List.cons_append, BuiltRule.comment, hnone, hnone]
  exact .none

/-! ## The rules of each state -/

section Entries

variable {entry : String × List String}

theorem keeps_anyValue (hplain : PlainEntry entry) :
    Keeps lineStart t c ⟨(anyValue entry).tied, s, none, action, transition⟩ :=
  .of_not_takes (caseless_anyValue entry) (inside_anyValue hplain).hash (by simp)
    (not_takes_of_endsIn (endsIn_groupsThen rfl rfl))

theorem keeps_of_mem_fieldTable (hplain : PlainEntry entry) :
    ∀ rule ∈ fieldTable entry, Keeps lineStart t c rule := by
  have hwords := endsIn_eq_false (accepts_words outsideWords_space hplain.words)
  have hfield : (fieldOnly entry).endsIn ' ' = false := by
    have hmore : (Pattern.opt (.group 4
        (.seq (.many true .beforeComment) (.one .solid)))).endsIn ' ' = false := rfl
    simp [fieldOnly, groupsThen, endsIn, hmore, hwords, consumes, consumes_words hplain.words]
  simp only [fieldTable, List.forall_mem_cons]
  exact ⟨.of_not_takes (caseless_fieldValue entry) (inside_fieldValue hplain).hash (by simp)
      (not_takes_of_endsIn (endsIn_groupsThen rfl rfl)),
    .of_not_takes (caseless_fieldOnly entry) (inside_fieldOnly hplain).hash (by simp)
      (not_takes_of_endsIn hfield),
    keeps_anyValue hplain, by simp⟩

theorem keeps_of_mem_valueTable (hplain : PlainEntry entry) :
    ∀ rule ∈ valueTable entry, Keeps lineStart t c rule := by
  have hwords := endsIn_eq_false (accepts_words outsideWords_space hplain.words)
  simp only [valueTable, List.forall_mem_cons]
  refine ⟨.of_not_takes (caseless_wordValue entry) (inside_wordValue hplain).hash ?_
    (not_takes_of_endsIn (endsIn_groupsThen (consumes_words hplain.words) hwords)),
    keeps_anyValue hplain, by simp⟩
  rintro r ⟨⟩
  exact endBlind_lineEnd

end Entries

/-- At the start of a line that is no bare directive, and behind the start of any line, the rules
of `root` keep to the line. -/
theorem keeps_of_mem_rootTable (ht : LineBody t) (hbare : lineStart = true → ¬ Bare t) :
    ∀ rule ∈ rootTable, Keeps lineStart t c rule := by
  simp only [rootTable, List.forall_mem_append]
  refine ⟨⟨⟨⟨?_, ?_⟩, ?_⟩, ?_⟩, ?_⟩
  · simp only [blankTable, List.forall_mem_cons]
    exact ⟨keeps_blanks ht, keeps_comment ht, by simp⟩
  · simp only [leadTable, List.forall_mem_cons]
    refine ⟨.of_lineStart rfl fun h => .of_not_takes caseless_shellStart inside_shellStart.hash
        (by simp) fun htakes => hbare h (bare_of_shellStart ht htakes),
      .of_not_takes caseless_fromAs inside_fromAs.hash (by simp)
        (not_takes_of_endsIn (endsIn_groupsThen rfl rfl)),
      .of_lineStart rfl fun h => .of_not_takes caseless_attributeStart inside_attributeStart.hash
        ?_ fun htakes => hbare h (bare_of_attributeStart ht htakes), by simp⟩
    rintro r ⟨⟩
    exact endBlind_beforeEquals
  · intro rule hrule
    obtain ⟨entry, hentry, hrule⟩ := List.mem_flatMap.mp hrule
    exact keeps_of_mem_fieldTable (plainEntry_of_mem_fieldDirectives entry hentry) rule hrule
  · intro rule hrule
    obtain ⟨entry, hentry, hrule⟩ := List.mem_flatMap.mp hrule
    exact keeps_of_mem_valueTable (plainEntry_of_mem_valueDirectives entry hentry) rule hrule
  · simp only [lastTable, List.forall_mem_cons]
    exact ⟨.of_lineStart rfl fun h => .of_not_takes caseless_listStart inside_listStart.hash
        (by simp) fun htakes => hbare h (bare_of_listStart ht htakes),
      .of_lineStart rfl fun h => .of_not_takes caseless_anyDirective inside_anyDirective.hash
        (by simp) fun htakes => hbare h (bare_of_anyDirective ht htakes),
      .of_accepts (.plus CharSet.uncased_word) rfl, .of_accepts (.plus CharSet.uncased_sign) rfl,
      by simp⟩

theorem keeps_innerBlanks (ht : LineBody t) : Keeps lineStart t c .innerBlanks := by
  refine .of_not_takes (.plus CharSet.uncased_innerBlank) rfl (by simp) (not_takes_of_blanks ?_ ht)
  intro d hd
  have hinner : isBlank d = true ∧ d ≠ '\n' := by
    simpa [Pattern.plus, accepts, CharSet.innerBlank, CharSet.holds] using hd
  exact hinner.1

theorem keeps_anyChar (ht : LineBody t) : Keeps lineStart t c .anyChar := by
  obtain ⟨d, u, rfl⟩ := List.exists_cons_of_ne_nil ht.ne_nil
  refine .of_find (by simp [BuiltRule.anyChar]) ?_
  rw [BuiltRule.anyChar, List.cons_append, find_inLine, find_inLine]
  split
  · exact .none
  · exact .some ⟨rfl, rfl, rfl, u, by simp, rfl⟩

theorem keeps_escape (ht : LineBody t) : Keeps lineStart t c .escape := by
  refine .of_find (by simp [BuiltRule.escape]) (find_escape_append ht.ne_nil ?_ ?_)
  · rintro rfl
    exact ht.slash rfl
  · simp [trailing]

/-- The rules of the inner states keep to every line. -/
theorem keeps_of_inner {state : String} (hstate : state ∈ innerStates) (ht : LineBody t) :
    ∀ rule ∈ table.rulesOf state, Keeps lineStart t c rule := by
  have hlineEnd : Keeps lineStart t c .closingLineEnd := .of_accepts .newline rfl
  simp only [innerStates, List.mem_cons, List.not_mem_nil, or_false] at hstate
  rcases hstate with rfl | rfl | rfl
  · rw [rulesOf_providerAttributes]
    simp only [providerAttributeTable, List.forall_mem_cons]
    exact ⟨keeps_comment ht, hlineEnd, keeps_innerBlanks ht,
      .of_accepts caseless_pairThenSeparator rfl, .of_accepts caseless_pair rfl,
      keeps_anyChar ht, by simp⟩
  · rw [rulesOf_commaList]
    simp only [commaListTable, List.forall_mem_cons]
    exact ⟨keeps_comment ht, hlineEnd, keeps_innerBlanks ht,
      .of_accepts caseless_itemThenSeparator rfl, .of_accepts (.plus CharSet.uncased_itemChar) rfl,
      keeps_anyChar ht, by simp⟩
  · rw [rulesOf_shellCommandBody]
    simp only [shellCommandTable, List.forall_mem_cons]
    exact ⟨hlineEnd, keeps_comment ht, keeps_escape ht, keeps_innerBlanks ht,
      .of_not_takes caseless_shellWords inside_shellWords.hash (by simp)
        (not_takes_of_endsIn rfl), by simp⟩

end Keeps

/-! ## Scans of a line -/

/-- A point of the scan of a line. -/
structure OnLine (line : Text) (lx : Lexer) : Prop where
  rest : lx.rest <:+ line
  start : lx.lineStart = true → lx.rest = line
  stack : lx.stack.OnLevels table innerStates
  idle : lx.Idle

namespace OnLine

variable {line : Text} {lx : Lexer}

theorem step (hline : LineBody line) (h : OnLine line lx) (hrest : lx.rest ≠ []) :
    OnLine line (lx.step table).settle := by
  obtain ⟨u, hu, htext, -, hlineStart, -⟩ := Lexer.exists_step_reads table h.idle hrest
  obtain ⟨v, hv⟩ := h.rest
  rw [htext] at hv
  refine ⟨⟨v ++ u, by rw [← hv, List.append_assoc]; rfl⟩, fun hstart => ?_,
    Lexer.onLevels_step twoLevel h.stack, rfl⟩
  -- No step reads a line end, so no other line starts.
  rw [Lexer.settle_lineStart, hlineStart, beq_iff_eq] at hstart
  exact absurd (hv ▸ by simp [List.mem_of_getLast? hstart]) hline.newline

theorem keeps (hline : LineBody line) (hbare : ¬ Bare line) (h : OnLine line lx)
    (hrest : lx.rest ≠ []) (c : Text) :
    ∀ rule ∈ table.rulesOf lx.stack.top, Keeps lx.lineStart lx.rest c rule := by
  have hbody : LineBody lx.rest := by
    obtain ⟨u, hu⟩ := h.rest
    exact (hu ▸ hline).suffix hrest
  generalize hs : lx.stack = stack
  have hstack := hs ▸ h.stack
  cases hstack with
  | entry => exact keeps_of_mem_rootTable hbody fun hstart => h.start hstart ▸ hbare
  | inner hstate => exact keeps_of_inner hstate hbody

end OnLine

/-- The scan of a line that is no bare directive goes the same way with a comment behind it. -/
theorem scans_append {line : Text} (hline : LineBody line) (hbare : ¬ Bare line) (c : Text)
    {lx : Lexer} {tokens : List Token} (h : (Lexer.start table line).Scans table tokens lx) :
    (Lexer.start table (line ++ trailing c)).Scans table tokens (lx.append (trailing c)) := by
  have hstart : OnLine line (Lexer.start table line) :=
    ⟨List.suffix_refl line, fun _ => rfl, .entry, rfl⟩
  exact h.append (fun lx hrest hon => ⟨hon.step hline hrest, hon.keeps hline hbare hrest c⟩) hstart

/-! ## The comment -/

section Comment

variable {lx : Lexer} {c : Text}

/-- A comment that goes on to the end of the source. -/
theorem scans_comment (hidle : lx.Idle) (hstack : lx.stack.OnLevels table innerStates)
    (hrest : lx.rest = '#' :: c) (hc : '\n' ∉ c) :
    ∃ end_, lx.Scans table [Token.at .comment lx.cursor ('#' :: c)] end_ ∧ end_.rest = [] := by
  have hline : c.dropWhile (· != '\n') = [] := by
    rw [List.dropWhile_eq_nil_iff]
    intro d hd
    rw [bne_iff_ne]
    rintro rfl
    exact hc hd
  have hfire : ∃ s stop, firstFiring? lx.lineStart lx.rest (table.rulesOf lx.stack.top) =
      some (.comment s, ⟨0, stop, [], []⟩) := by
    rw [hrest]
    generalize lx.stack = stack at hstack
    cases hstack with
    | entry => exact ⟨_, _, hline ▸ firstFiring?_root_of_hash lx.lineStart c⟩
    | inner hstate => exact ⟨_, _, hline ▸ firstFiring?_inner_of_hash hstate lx.lineStart c⟩
  obtain ⟨s, stop, hfire⟩ := hfire
  exact ⟨_, Lexer.scans_of_token hidle hfire rfl (by rw [hrest, List.append_nil]), rfl⟩

/-- A comment with a blank before it. -/
theorem scans_trailing (hidle : lx.Idle) (hstack : lx.stack.OnLevels table innerStates)
    (hrest : lx.rest = trailing c) (hc : '\n' ∉ c) :
    ∃ end_, lx.Scans table [Token.at .whitespace lx.cursor [' '],
      Token.at .comment (lx.cursor + 1) ('#' :: c)] end_ ∧ end_.rest = [] := by
  have hfire : ∃ rule stop, firstFiring? lx.lineStart lx.rest (table.rulesOf lx.stack.top) =
      some (rule, ⟨0, stop, [], '#' :: c⟩) ∧ rule.action = .token .whitespace ∧
        rule.transition = .stay := by
    rw [hrest]
    generalize lx.stack = stack at hstack
    cases hstack with
    | entry =>
      exact ⟨_, _, firstFiring?_root_of_blank lx.lineStart ('#' :: c) (by decide), rfl, rfl⟩
    | inner hstate =>
      refine ⟨_, _, firstFiring?_inner_of_blank hstate (by decide) ?_, rfl, rfl⟩
      rw [BuiltRule.closingLineEnd, BuiltRule.fires?_plain rfl,
        find_newline_eq_none (by decide) (by decide)]
  obtain ⟨rule, stop, hfire, haction, htransition⟩ := hfire
  have hblank := Lexer.scans_of_token (u := [' ']) hidle hfire haction hrest
  rw [htransition] at hblank
  obtain ⟨end_, hcomment, hend⟩ := scans_comment hblank.idle_right hstack rfl hc
  exact ⟨end_, hblank.trans hcomment, hend⟩

end Comment

/-! ## Bare directives -/

theorem exists_tokenize_eq {t : Text} (ht : t ≠ []) :
    ∃ more, tokenize table t = ((Lexer.start table t).step table).pending ++ more := by
  obtain ⟨more, end_, hscans, hend⟩ :=
    Lexer.exists_scans table ((Lexer.start table t).step table).settle (Lexer.idle_settle _)
  exact ⟨more, tokenize_of_scans (.step rfl ht hscans) hend⟩

/-- Where a source starts with a directive, the first step reads it, and maybe more. -/
theorem exists_step_of_directive {t u : Text} (hu : Directive t u) :
    ∃ (others : List Token) (read : Text),
      ((Lexer.start table t).step table).pending = Token.at .keyword 0 u :: others ∧
      t = u ++ (read ++ ((Lexer.start table t).step table).rest) ∧ Tiles u.size read others ∧
      ((Lexer.start table t).step table).cursor = u.size + read.size := by
  have ht : t ≠ [] := by
    obtain ⟨rest, rfl⟩ := hu.exists_append
    simp [hu.ne_nil]
  obtain ⟨v, -, htext, hcursor, -, htiles⟩ :=
    Lexer.exists_step_reads table (Lexer.idle_start table t) ht
  cases keywordStep (Lexer.idle_start table t) ht .entry with
  | directive _ _ htokens =>
    obtain ⟨u', others, hu', hpending, -⟩ := htokens
    obtain rfl := hu.unique hu'
    rw [hpending] at htiles
    obtain ⟨-, -, -, read, rfl, hothers⟩ := htiles
    refine ⟨others, read, hpending, by rw [← List.append_assoc]; exact htext, ?_, ?_⟩
    · simpa [Token.at, Lexer.start] using hothers
    · rw [hcursor]
      simp [Lexer.start, Token.at, Text.size_append]
  | other hnone _ => exact absurd hu (hnone rfl rfl u)

theorem IsValue.trimmed {directive w : Text} (h : IsValue directive w) : w.Trimmed := by
  obtain ⟨entry, hentry, -, value, hvalue, hw⟩ := h
  exact hw.trimmed ((plainEntry_of_mem_valueDirectives entry hentry).words.plain value hvalue)

/-- A blank fits no other category. -/
theorem Fits.eq_whitespace {before : List (Category × Text)} {after : Text} {category : Category}
    (h : Fits before after (category, [' '])) : category = .whitespace := by
  have htrimmed : ¬ Text.Trimmed [' '] := fun h => absurd (h.last ' ' rfl) (by decide)
  cases category with
  | whitespace => rfl
  | keyword => exact absurd h htrimmed
  | identifier => exact absurd h htrimmed
  | string => exact absurd h htrimmed
  | error => exact absurd h.1 htrimmed
  | constant =>
    rcases h with (h | ⟨_, h⟩) | ⟨_, _, _, h⟩
    · cases h
    · cases h
    · exact absurd h.trimmed htrimmed
  | operator => cases h
  | punctuation => rcases h with h | h <;> cases h
  | comment =>
    obtain ⟨_, h, -⟩ := h
    cases h
  | text => exact absurd (h ' ' (List.mem_singleton_self _)) (by decide)

/-- A step that reads a blank by itself makes a token of its own of it. -/
theorem eq_of_blank {lx : Lexer} (hidle : lx.Idle) (hrest : lx.rest ≠ [])
    (hstack : lx.stack.OnLevels table innerStates) {before others : List Token} {position : Nat}
    (hpending : (lx.step table).pending = before ++ others)
    (htiles : Tiles position [' '] others) :
    others = [Token.at .whitespace position [' ']] := by
  cases others with
  | nil => cases htiles
  | cons tk more =>
    obtain ⟨hne, hstart, -, t', ht', hmore⟩ := htiles
    obtain ⟨d, u, hdu⟩ := List.exists_cons_of_ne_nil hne
    rw [hdu, List.cons_append] at ht'
    obtain ⟨rfl, hnil⟩ := List.cons.inj ht'
    obtain ⟨rfl, rfl⟩ := List.append_eq_nil_iff.mp hnil.symm
    obtain rfl : more = [] := List.eq_nil_of_length_eq_zero (Nat.le_zero.mp hmore.length_le)
    -- The blank is a text of the row that the step reads.
    obtain ⟨row, -, hrow, htokens⟩ := exists_row hidle hrest hstack
    rw [hpending] at htokens
    obtain ⟨first, ⟨category, w⟩, others, rfl, -, rfl⟩ := exists_split_of_row htokens.symm
    obtain rfl : w = [' '] := hdu
    rw [Fits.eq_whitespace (hrow.fits_of_split rfl)]
    exact congrArg (fun position => [Token.at .whitespace position [' ']]) hstart

section Keyword

variable {line : Text} {name : String}

/-- A keyword by itself is one token. -/
theorem tokenize_keyword (hname : name ∈ keywords) (hline : line.EqFold name.toList) :
    tokenize table line = [Token.at .keyword 0 line] := by
  have hdirective : Directive line line :=
    .keyword hname hline (List.append_nil line).symm (by simp)
  obtain ⟨others, read, hpending, htext, htiles, -⟩ := exists_step_of_directive hdirective
  obtain ⟨rfl, hrest⟩ := List.append_eq_nil_iff.mp (List.self_eq_append_right.mp htext)
  obtain rfl : others = [] := List.eq_nil_of_length_eq_zero (Nat.le_zero.mp htiles.length_le)
  have hscans := Lexer.Scans.step (g := table) (Lexer.idle_start table line) hdirective.ne_nil
    (.refl (Lexer.idle_settle _))
  rw [hpending] at hscans
  exact tokenize_of_scans hscans hrest

/-- The step that reads a directive stops before a comment. -/
theorem hash_not_mem_of_directive {t u read rest : Text} {others : List Token}
    (hu : Directive t u)
    (hpending : ((Lexer.start table t).step table).pending = Token.at .keyword 0 u :: others)
    (htiles : Tiles u.size read others) (ht : t = u ++ rest) : '#' ∉ read := by
  have hne : t ≠ [] := by simp [ht, hu.ne_nil]
  cases hashStep (Lexer.idle_start table t) hne .entry with
  | comment htext _ =>
    have hword := hu.isWordChar '#' (by rw [show t = _ from htext]; rfl)
    exact absurd hword (by decide)
  | escape hstate =>
    have hstate : root = shellCommandBody := hstate
    exact absurd hstate (by decide)
  | signs _ htext _ hsign _ =>
    have hword := hu.isWordChar _ (by rw [show t = _ from htext]; rfl)
    rw [(isWordChar_of_sign hsign).1] at hword
    cases hword
  | other hnone =>
    intro hmem
    rw [← htiles.detokenize] at hmem
    obtain ⟨tk, htk, hmem⟩ := List.mem_flatMap.mp hmem
    exact (hnone tk (hpending ▸ List.mem_cons_of_mem _ htk)).1 hmem

/-- A keyword with a comment behind it. -/
theorem tokenize_keyword_trailing (hname : name ∈ keywords) (hline : line.EqFold name.toList)
    {c : Text} (hc : '\n' ∉ c) :
    tokenize table (line ++ trailing c) = [Token.at .keyword 0 line,
      Token.at .whitespace line.size [' '], Token.at .comment (line.size + 1) ('#' :: c)] := by
  have hdirective : Directive (line ++ trailing c) line :=
    .keyword hname hline rfl (by simp [trailing]; decide)
  have hne : line ++ trailing c ≠ [] := by simp [trailing]
  obtain ⟨others, read, hpending, htext, htiles, hcursor⟩ := exists_step_of_directive hdirective
  have hhash := hash_not_mem_of_directive hdirective hpending htiles rfl
  have hrest := List.append_cancel_left htext
  have hstack : ((Lexer.start table (line ++ trailing c)).step table).stack.OnLevels table
      innerStates := Lexer.onLevels_step twoLevel .entry
  generalize hnext : (Lexer.start table (line ++ trailing c)).step table = next at *
  have hstep : ∀ {tokens : List Token} {end_ : Lexer}, next.settle.Scans table tokens end_ →
      end_.rest = [] → tokenize table (line ++ trailing c) = next.pending ++ tokens :=
    fun hscans hend => tokenize_of_scans (.step_eq hnext rfl hne hscans) hend
  match read, hhash, hrest with
  | [], _, hrest =>
    obtain rfl : others = [] := List.eq_nil_of_length_eq_zero (Nat.le_zero.mp htiles.length_le)
    obtain ⟨end_, hscans, hend⟩ :=
      scans_trailing (Lexer.idle_settle next) hstack hrest.symm hc
    rw [hstep hscans hend, hpending, Lexer.settle_cursor, hcursor]
    rfl
  | [d], _, hrest =>
    obtain ⟨rfl, hafter⟩ := List.cons.inj hrest
    have hsplit : ((Lexer.start table (line ++ trailing c)).step table).pending =
        [Token.at .keyword 0 line] ++ others := by
      rw [hnext, hpending]
      rfl
    obtain rfl := eq_of_blank (Lexer.idle_start _ _) hne .entry hsplit htiles
    obtain ⟨end_, hscans, hend⟩ := scans_comment (Lexer.idle_settle next) hstack hafter.symm hc
    rw [hstep hscans hend, hpending, Lexer.settle_cursor, hcursor]
    rfl
  | d :: d' :: read, hhash, hrest =>
    obtain ⟨-, hrest⟩ := List.cons.inj hrest
    obtain ⟨rfl, -⟩ := List.cons.inj hrest
    exact absurd (by simp) hhash

end Keyword

/-- A text that starts with a directive still does with more text behind it. -/
theorem directive_append {t u x : Text} (h : Directive t u)
    (hx : ∀ c ∈ x.head?, isWordChar c = false) : Directive (t ++ x) u := by
  cases h with
  | @keyword _ _ rest hname hu ht hnext =>
    refine .keyword hname hu (by rw [ht, List.append_assoc]) fun c hc => ?_
    cases rest with
    | nil => exact hx c hc
    | cons d rest => exact hnext c hc
  | deferred hv hb hw hc ht => exact .deferred hv hb hw hc (by rw [ht]; simp; rfl)

/-- A text that is a directive and nothing else is a word. -/
theorem isWordChar_of_directive {t u : Text} (h : Directive t u) (htu : u = t) :
    ∀ c ∈ t, isWordChar c = true := by
  cases h with
  | keyword hname hu _ _ => exact htu ▸ hu.isWordChar (upper_of_mem_keywords _ hname)
  | deferred _ _ _ _ ht =>
    have hlength := congrArg List.length (htu.trans ht)
    simp at hlength

theorem Deferral.directive {line x : Text} {d : Char} (h : Deferral line)
    (hd : d = ' ' ∨ d = '\t') : Directive (line ++ d :: x) line := by
  obtain ⟨v, b, w, rfl, hv, hb, hw⟩ := h
  have htext : v ++ (b ++ w) ++ d :: x = v ++ (b ++ (w ++ d :: x)) := by
    simp only [List.append_assoc]
  exact .deferred hv hb hw hd htext

/-- A deferred directive with nothing behind it does not start with a directive. -/
theorem Deferral.not_directive {line : Text} (h : Deferral line) (u : Text) :
    ¬ Directive line u := by
  intro hu
  -- With a blank behind, it starts with itself and so with no other directive.
  have hblank : Directive (line ++ [' ']) u := directive_append hu (by simp; decide)
  have hwords := isWordChar_of_directive hu (hblank.unique (h.directive (.inl rfl)))
  obtain ⟨v, b, w, rfl, -, hb, -⟩ := h
  obtain ⟨d, b, rfl⟩ := List.exists_cons_of_ne_nil hb.ne_nil
  have hd := hwords d (by simp)
  rw [isWordChar_of_isBlank (hb.isBlank d (List.mem_cons_self ..))] at hd
  cases hd

/-! ## The law -/

/-- The scan of a deferred directive with nothing behind it starts with no keyword, and with a
comment behind it with one. -/
theorem Deferral.tokenize_ne {line : Text} (h : Deferral line) (c : Text) (tokens : List Token) :
    tokenize table (line ++ trailing c) ≠ tokenize table line ++ tokens := by
  have hne : line ≠ [] := by
    obtain ⟨v, b, w, rfl, -, hb, -⟩ := h
    simp [hb.ne_nil]
  intro heq
  have hdirective : Directive (line ++ trailing c) line := h.directive (.inl rfl)
  obtain ⟨others, -, hpending, -⟩ := exists_step_of_directive hdirective
  obtain ⟨more, hwhole⟩ := exists_tokenize_eq (t := line ++ trailing c) (by simp [hne])
  obtain ⟨more', hline⟩ := exists_tokenize_eq hne
  obtain ⟨tk, others', htk⟩ := List.exists_cons_of_ne_nil
    (Lexer.step_pending_ne_nil table (Lexer.idle_start table line) hne)
  rw [hwhole, hline, htk, hpending] at heq
  obtain ⟨rfl, -⟩ := List.cons.inj heq
  cases keywordStep (Lexer.idle_start table line) hne .entry with
  | directive _ _ htokens =>
    obtain ⟨u, -, hu, -⟩ := htokens
    exact h.not_directive u hu
  | other _ hnone => exact hnone _ (htk ▸ List.mem_cons_self ..) rfl

/-- A comment behind a line, with a blank before it, adds the blank and the comment to the tokens
of the line and changes none of them, if and only if the line is no deferred directive without a
command. -/
theorem trailing_comment_iff {line c : Text} (hline : LineBody line) (hc : '\n' ∉ c) :
    tokenize Language.pdfile.grammar (line ++ ' ' :: '#' :: c) =
        tokenize Language.pdfile.grammar line ++
          [Token.at .whitespace line.size [' '], Token.at .comment (line.size + 1) ('#' :: c)] ↔
      ¬ Deferral line := by
  rw [grammar_eq]
  refine ⟨fun h hdeferral => hdeferral.tokenize_ne c _ h, fun hdeferral => ?_⟩
  by_cases hkeyword : ∃ name ∈ keywords, line.EqFold name.toList
  · obtain ⟨name, hname, hfold⟩ := hkeyword
    rw [tokenize_keyword hname hfold]
    exact tokenize_keyword_trailing hname hfold hc
  · have hbare : ¬ Bare line := fun h => h.elim hkeyword hdeferral
    obtain ⟨lx, hscans, hend⟩ := scans_tokenize table line
    have hstack := hscans.onLevels twoLevel .entry
    obtain ⟨read, hread, hcursor⟩ := exists_read_of_scans hscans
    rw [hend, List.append_nil] at hread
    have hwhole := scans_append hline hbare c hscans
    have hrest : (lx.append (trailing c)).rest = trailing c := by simp [hend]
    obtain ⟨end_, hcomment, hdone⟩ := scans_trailing hwhole.idle_right hstack hrest hc
    rw [Lexer.append_cursor, hcursor, ← hread] at hcomment
    exact tokenize_of_scans (hwhole.trans hcomment) hdone

/-- A comment behind a value. -/
theorem trailing_comment_value :
    let line : Text := ['F', 'O', 'R', 'C', 'E', ' ', 't', 'r', 'u', 'e']
    LineBody line ∧ '\n' ∉ (['c'] : Text) ∧
      tokenize Language.pdfile.grammar (line ++ ' ' :: '#' :: ['c']) =
        tokenize Language.pdfile.grammar line ++
          [Token.at .whitespace line.size [' '], Token.at .comment (line.size + 1) ['#', 'c']] := by
  intro line
  have hlast : ∀ c ∈ line.getLast?, isBlank c = false := by
    intro c hc
    obtain rfl : 'e' = c := Option.some.inj hc
    rfl
  have hline : LineBody line :=
    { hash := by decide, newline := by decide, last := hlast, ne_nil := by decide,
      slash := by decide }
  have hdeferral : ¬ Deferral line := by
    rintro ⟨v, b, w, htext, hv, -⟩
    have hword : "ONBUILD".toList = ['O', 'N', 'B', 'U', 'I', 'L', 'D'] := by decide
    rw [hword] at hv
    obtain _ | ⟨hfirst, -⟩ := hv
    obtain ⟨rfl, -⟩ := List.cons.inj htext
    exact absurd hfirst (by decide)
  exact ⟨hline, by decide, (trailing_comment_iff hline (by decide)).mpr hdeferral⟩

/-- With a comment behind it, `ONBUILD RUN` is a keyword and no plain text. -/
theorem trailing_comment_deferral :
    let line : Text := ['O', 'N', 'B', 'U', 'I', 'L', 'D', ' ', 'R', 'U', 'N']
    LineBody line ∧ '\n' ∉ (['c'] : Text) ∧
      tokenize Language.pdfile.grammar (line ++ ' ' :: '#' :: ['c']) ≠
        tokenize Language.pdfile.grammar line ++
          [Token.at .whitespace line.size [' '], Token.at .comment (line.size + 1) ['#', 'c']] := by
  intro line
  have hlast : ∀ c ∈ line.getLast?, isBlank c = false := by
    intro c hc
    obtain rfl : 'N' = c := Option.some.inj hc
    rfl
  have hline : LineBody line :=
    { hash := by decide, newline := by decide, last := hlast, ne_nil := by decide,
      slash := by decide }
  refine ⟨hline, by decide, ?_⟩
  rw [grammar_eq]
  decide +kernel

end Highlighter.Pdfile
