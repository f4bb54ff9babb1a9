import Highlighter.Proofs.Grammar.PreferredRows
import Highlighter.Proofs.Openings

/-!
# Subcommands

A command line is the program, blanks and a subcommand, up to case, and a rest that ends
the subcommand (`CommandLine`): it starts with a blank within the line, or blanks lead
from it to a comment or to the end of the line.  Such a rest goes on with neither a word
character nor a hyphen, and a subcommand has no other characters, so a line is cut in one
way only (`CommandLine.unique`).

Two rules read a subcommand.  One reads blanks behind it, and the other looks for the end
of the line.  Where one of them fires, it reads a command line
(`exists_readsCommand_of_fires`).  At a command line one of them fires
(`CommandLine.exists_firstFiring?`): among the subcommands that stand there, the longer
ones are tried first, and the subcommand of the line is the longest.

No other rule makes an identifier (`commandStep`).  So the identifiers of a source are the
subcommands of its command lines (`subcommand_tokens`).
-/

namespace Highlighter.Prldevops

open Category Pattern

/-! ## Command lines -/

/-- A text ends the word before it. -/
inductive EndsWord : Text → Prop where
  /-- It starts with a blank within the line. -/
  | blank {c : Char} {t : Text} : c = ' ' ∨ c = '\t' → EndsWord (c :: t)
  /-- Blanks lead to a comment or to the end of the line. -/
  | lineEnd {gap t : Text} : (∀ c ∈ gap, c = ' ' ∨ c = '\t' ∨ c = '\r') →
      (∀ c ∈ t.head?, c = '#' ∨ c = '\n') → EndsWord (gap ++ t)

/-- A text that ends a word goes on with neither a word character nor a hyphen. -/
theorem EndsWord.edge {t : Text} (h : EndsWord t) :
    ∀ c ∈ t.head?, isWordChar c = false ∧ c ≠ '-' := by
  have hedge : ∀ c : Char, c = ' ' ∨ c = '\t' ∨ c = '\r' ∨ c = '#' ∨ c = '\n' →
      isWordChar c = false ∧ c ≠ '-' := by
    rintro c (rfl | rfl | rfl | rfl | rfl) <;> decide
  intro c hc
  cases h with
  | @blank d t hd =>
    obtain rfl : d = c := Option.some.inj hc
    exact hedge d (hd.imp id .inl)
  | @lineEnd gap t hgap ht =>
    cases gap with
    | nil => exact hedge c (.inr (.inr (.inr (ht c hc))))
    | cons d gap =>
      obtain rfl : d = c := Option.some.inj hc
      exact hedge d ((hgap d (List.mem_cons_self ..)).imp id (Or.imp id .inl))

/-- The program, blanks, a subcommand, and a rest that ends it. -/
structure CommandLine (p b w rest : Text) : Prop where
  name : p.EqFold program.toList
  blanks : b.Blanks
  subcommand : ∃ s ∈ subcommands, w.EqFold s.toList
  ends : EndsWord rest

variable {p b w rest p' b' w' rest' t line : Text}

/-- What equals a subcommand has word characters and hyphens only. -/
theorem isWordChar_or_hyphen_of_subcommand (hw : ∃ s ∈ subcommands, w.EqFold s.toList) :
    ∀ c ∈ w, (isWordChar c || c == '-') = true := by
  obtain ⟨s, hs, hfold⟩ := hw
  intro c hc
  simpa using hfold.isWordChar_or_hyphen (plainWords_subcommands.plain s hs).chars c hc

namespace CommandLine

/-- The rest goes on with no character of subcommands. -/
theorem edge (h : CommandLine p b w rest) :
    ∀ c ∈ rest.head?, (isWordChar c || c == '-') = false := fun c hc => by
  obtain ⟨hword, hhyphen⟩ := h.ends.edge c hc
  simp [hword, hhyphen]

theorem ne_nil (h : CommandLine p b w rest) : p ≠ [] ∧ b ≠ [] ∧ w ≠ [] := by
  obtain ⟨s, hs, hfold⟩ := h.subcommand
  exact ⟨h.name.ne_nil plain_program.ne_nil, h.blanks.ne_nil,
    hfold.ne_nil (plainWords_subcommands.plain s hs).ne_nil⟩

/-- The subcommand starts with no blank. -/
theorem head?_ne_blank (h : CommandLine p b w rest) :
    ∀ c ∈ (w ++ rest).head?, c ≠ ' ' ∧ c ≠ '\t' := by
  obtain ⟨s, hs, hfold⟩ := h.subcommand
  have hplain := plainWords_subcommands.plain s hs
  rw [List.head?_append_of_ne_nil w (hfold.ne_nil hplain.ne_nil)]
  exact Text.ne_blank_of_solid fun c hc => (hfold.solid hplain c (List.mem_of_head? hc)).1

/-- A line is cut in one way only into a program, blanks, a subcommand and a rest. -/
theorem unique (h : CommandLine p b w rest) (h' : CommandLine p' b' w' rest')
    (hline : p ++ (b ++ (w ++ rest)) = p' ++ (b' ++ (w' ++ rest'))) :
    p = p' ∧ b = b' ∧ w = w' ∧ rest = rest' := by
  have hlength : p.length = p'.length := h.name.length_eq.trans h'.name.length_eq.symm
  obtain ⟨rfl, hbehind⟩ := List.append_inj hline hlength
  obtain ⟨rfl, hword⟩ := h.blanks.cut h'.blanks h.head?_ne_blank h'.head?_ne_blank hbehind
  obtain ⟨rfl, rfl⟩ := Text.cut_unique hword (isWordChar_or_hyphen_of_subcommand h.subcommand)
    (isWordChar_or_hyphen_of_subcommand h'.subcommand) h.edge h'.edge
  exact ⟨rfl, rfl, rfl, rfl⟩

/-- No longer subcommand stands where the subcommand does. -/
theorem length_le (h : CommandLine p b w rest) {u : Text}
    (hu : ∃ s ∈ subcommands, u.EqFold s.toList) (hpre : u <+: w ++ rest) :
    u.length ≤ w.length := by
  obtain ⟨v, hv⟩ := hpre
  rcases List.append_eq_append_iff.mp hv with ⟨x, rfl, -⟩ | ⟨x, rfl, hx⟩
  · simp
  · cases x with
    | nil => simp
    | cons c x =>
      have hedge := h.edge c (by rw [hx]; rfl)
      rw [isWordChar_or_hyphen_of_subcommand hu c (by simp)] at hedge
      cases hedge

end CommandLine

/-! ## The rules for command lines -/

/-- The rule for a subcommand with blanks behind it. -/
def argumentsRule : BuiltRule :=
  ⟨commandWithArguments.tied, true, none, .groups [keyword, whitespace, identifier, whitespace],
    .push commandBody⟩

/-- The rule for a subcommand at the end of a line. -/
def bareRule : BuiltRule :=
  ⟨bareCommand.tied, true, some Pattern.lineEnd.tied,
    .groups [keyword, whitespace, identifier], .stay⟩

/-- The rules of `root` after those for command lines. -/
def otherRules : List BuiltRule := [
  ⟨programAlone.tied, true, none, .token keyword, .stay⟩, .comment .stay, .words, .signs]

theorem rootTable_eq : rootTable = .blanks :: ([argumentsRule, bareRule] ++ otherRules) := rfl

/-- A match on a line reads a command line and makes a token of each part, and after these no
identifier. -/
structure ReadsCommand (rule : BuiltRule) (line : Text) (m : Match) (p b w rest : Text) : Prop where
  command : CommandLine p b w rest
  text : line = p ++ (b ++ (w ++ rest))
  tokens : ∃ u row, line = u ++ m.rest ∧ (∀ x ∈ row, x.1 ≠ identifier) ∧ ∀ base,
    rule.action.tokens base u m =
      Token.row base ([(keyword, p), (whitespace, b), (identifier, w)] ++ row)

section Firing

variable {lineStart : Bool} {m : Match} {rule : BuiltRule}

theorem exists_readsCommand_of_argumentsRule (hm : argumentsRule.fires? lineStart line = some m) :
    ∃ p b w rest, ReadsCommand argumentsRule line m p b w rest := by
  obtain ⟨-, hfind, -, -⟩ := BuiltRule.fires?_eq_some_iff.mp hm
  obtain ⟨ws, htakes, htext, hgroups⟩ := row_commandWithArguments.exists_of_find hfind
  obtain _ | @⟨_, p, _, _, hp, _ | @⟨_, b, _, _, hb, _ | @⟨_, w, _, _, hw,
    _ | @⟨_, gap, _, _, hgap, _ | _⟩⟩⟩⟩ := htakes
  obtain ⟨c, gap', rfl⟩ := List.exists_cons_of_ne_nil hgap.blanks.ne_nil
  have hcommand : CommandLine p b w (c :: gap' ++ m.rest) :=
    ⟨hp.literal plain_program.chars, hb.blanks, hw.words plainWords_subcommands,
      .blank (hgap.blanks.blank c (List.mem_cons_self ..))⟩
  refine ⟨p, b, w, _, hcommand, by simpa using htext, _, [(whitespace, c :: gap')], htext,
    by simp, fun base => ?_⟩
  rw [argumentsRule, Action.tokens_of_groups hgroups rfl]
  simp [hcommand.ne_nil]

theorem exists_readsCommand_of_bareRule (hm : bareRule.fires? lineStart line = some m) :
    ∃ p b w rest, ReadsCommand bareRule line m p b w rest := by
  obtain ⟨-, hfind, -, hlook⟩ := BuiltRule.fires?_eq_some_iff.mp hm
  obtain ⟨gap, t, hrest, hgap, ht⟩ := matches_lineEnd_iff.mp (hlook _ rfl)
  obtain ⟨ws, htakes, htext, hgroups⟩ := row_bareCommand.exists_of_find hfind
  obtain _ | @⟨_, p, _, _, hp, _ | @⟨_, b, _, _, hb, _ | @⟨_, w, _, _, hw, _ | _⟩⟩⟩ := htakes
  have hcommand : CommandLine p b w m.rest :=
    ⟨hp.literal plain_program.chars, hb.blanks, hw.words plainWords_subcommands,
      hrest ▸ .lineEnd hgap ht⟩
  refine ⟨p, b, w, _, hcommand, by simpa using htext, _, [], htext, by simp, fun base => ?_⟩
  rw [bareRule, Action.tokens_of_groups hgroups rfl]
  simp [hcommand.ne_nil]

/-- Where a rule for command lines fires, it reads one. -/
theorem exists_readsCommand_of_fires (hrule : rule ∈ [argumentsRule, bareRule])
    (hm : rule.fires? lineStart line = some m) :
    ∃ p b w rest, ReadsCommand rule line m p b w rest := by
  rcases List.mem_pair.mp hrule with rfl | rfl
  · exact exists_readsCommand_of_argumentsRule hm
  · exact exists_readsCommand_of_bareRule hm

end Firing

namespace CommandLine

/-- The subcommand of a line is what a choice of subcommands prefers to read. -/
theorem exists_prefers_subcommand (h : CommandLine p b w rest) {a : Place}
    (ha : a.rest = w ++ rest) : ∃ e, (Pattern.words subcommands).Prefers a w e := by
  obtain ⟨s, hs, hfold⟩ := h.subcommand
  exact prefers_words_of_longest plainWords_subcommands hs hfold ha
    fun s' hs' u hu hpre => h.length_le ⟨s', hs', hu⟩ hpre

/-- A row that prefers to read some texts where the subcommand starts, after the program and the
blanks. -/
theorem exists_find_row (h : CommandLine p b w rest) {q : Pattern} {ws : List Text}
    (hq : ∀ a : Place, a.rest = w ++ rest → ∃ e, q.PrefersRow 3 a ws e) :
    ∃ m, (groupsThen 1 [.literal program, .blanks] q).tied.find (p ++ (b ++ (w ++ rest))) = some m ∧
      w ++ rest = ws.flatten ++ m.rest := by
  obtain ⟨e₁, hp⟩ := prefers_literal (a := Place.start (p ++ (b ++ (w ++ rest))))
    plain_program.chars h.name rfl
  have hrest₁ : (e₁.capture 1 0).rest = b ++ (w ++ rest) := hp.reads.leaves rfl
  obtain ⟨e₂, hb⟩ := prefers_blanks h.blanks hrest₁ h.head?_ne_blank
  obtain ⟨e₃, hw⟩ := hq (e₂.capture 2 (e₁.capture 1 0).offset) (hb.reads.leaves hrest₁)
  obtain ⟨m, hm, htext, -⟩ :=
    ((hw.cons hb groupless_blanks).cons hp (groupless_literal program)).exists_find
  exact ⟨m, hm, by simpa using htext⟩

/-- Where a blank ends the subcommand, the rule for a subcommand with blanks behind it fires. -/
theorem exists_fires_argumentsRule {c : Char} (h : CommandLine p b w (c :: t))
    (hc : c = ' ' ∨ c = '\t') :
    ∃ m, argumentsRule.fires? true (p ++ (b ++ (w ++ c :: t))) = some m := by
  obtain ⟨gap, t', rfl, hgap, ht'⟩ := t.exists_blanks_append
  have hblanks : Text.Blanks (c :: gap) :=
    ⟨List.cons_ne_nil c gap, List.forall_mem_cons.mpr ⟨hc, hgap⟩⟩
  have hrow : ∀ a : Place, a.rest = w ++ c :: (gap ++ t') →
      ∃ e, (Pattern.seq (.group 3 (.words subcommands)) (.group 4 .blanks)).PrefersRow 3 a
        [w, c :: gap] e := fun a ha => by
    obtain ⟨e₁, hw⟩ := h.exists_prefers_subcommand ha
    have hrest : (e₁.capture 3 a.offset).rest = c :: gap ++ t' := hw.reads.leaves ha
    obtain ⟨e₂, hb⟩ := prefers_blanks hblanks hrest ht'
    exact ⟨_, (hb.last groupless_blanks 4).cons hw (groupless_words subcommands)⟩
  obtain ⟨m, hm, -⟩ := h.exists_find_row hrow
  exact ⟨m, (form_of_mem_rootTable argumentsRule (by simp [rootTable_eq])).fires?_alone hm rfl⟩

/-- Where the end of the line ends the subcommand, the rule for it fires. -/
theorem exists_fires_bareRule {gap : Text} (h : CommandLine p b w (gap ++ t))
    (hgap : ∀ c ∈ gap, c = ' ' ∨ c = '\t' ∨ c = '\r') (ht : ∀ c ∈ t.head?, c = '#' ∨ c = '\n') :
    ∃ m, bareRule.fires? true (p ++ (b ++ (w ++ (gap ++ t)))) = some m := by
  have hrow : ∀ a : Place, a.rest = w ++ (gap ++ t) →
      ∃ e, (Pattern.group 3 (.words subcommands)).PrefersRow 3 a [w] e := fun a ha => by
    obtain ⟨e, hw⟩ := h.exists_prefers_subcommand ha
    exact ⟨_, hw.last (groupless_words subcommands) 3⟩
  obtain ⟨m, hm, htext⟩ := h.exists_find_row hrow
  have htext : w ++ m.rest = w ++ (gap ++ t) := by simpa using htext.symm
  have hrest : m.rest = gap ++ t := List.append_cancel_left htext
  refine ⟨m, (form_of_mem_rootTable bareRule (by simp [rootTable_eq])).fires?_of_find hm
    fun q hq => ?_⟩
  obtain rfl : Pattern.lineEnd.tied = q := Option.some.inj hq
  exact matches_lineEnd_iff.mpr ⟨gap, t, hrest, hgap, ht⟩

/-- At a command line a rule for command lines is the first to fire. -/
theorem exists_firstFiring? (h : CommandLine p b w rest) :
    ∃ rule ∈ [argumentsRule, bareRule], ∃ m,
      firstFiring? true (p ++ (b ++ (w ++ rest))) rootTable = some (rule, m) := by
  have hblank : BuiltRule.blanks.fires? true (p ++ (b ++ (w ++ rest))) = none := by
    refine BuiltRule.fires?_blanks_eq_none fun c hc => ?_
    rw [List.head?_append_of_ne_nil p h.ne_nil.1] at hc
    exact (h.name.solid plain_program c (List.mem_of_head? hc)).1
  have hfires : argumentsRule.fires? true (p ++ (b ++ (w ++ rest))) ≠ none ∨
      bareRule.fires? true (p ++ (b ++ (w ++ rest))) ≠ none := by
    cases h.ends with
    | blank hc =>
      obtain ⟨m, hm⟩ := h.exists_fires_argumentsRule hc
      exact .inl (by simp [hm])
    | lineEnd hgap ht =>
      obtain ⟨m, hm⟩ := h.exists_fires_bareRule hgap ht
      exact .inr (by simp [hm])
  rw [rootTable_eq, firstFiring?, hblank]
  cases harguments : argumentsRule.fires? true (p ++ (b ++ (w ++ rest))) with
  | some m => exact ⟨argumentsRule, by simp, m, by simp [firstFiring?, harguments]⟩
  | none =>
    obtain ⟨m, hm⟩ := Option.ne_none_iff_exists'.mp
      (hfires.resolve_left (not_not_intro harguments))
    exact ⟨bareRule, by simp, m, by simp [firstFiring?, harguments, hm]⟩

end CommandLine

/-! ## Steps -/

/-- The ways a step goes with subcommands. -/
inductive CommandStep (lx : Lexer) : Prop where
  /-- It reads a command line. -/
  | command {p b w rest : Text} {row : List (Category × Text)} : lx.stack = ⟨root, []⟩ →
      lx.lineStart = true → CommandLine p b w rest → lx.rest = p ++ (b ++ (w ++ rest)) →
      (∀ x ∈ row, x.1 ≠ identifier) → (lx.step table).pending =
        Token.row lx.cursor ([(keyword, p), (whitespace, b), (identifier, w)] ++ row) →
      CommandStep lx
  /-- It stands before no command line, and makes no identifier. -/
  | other : (lx.stack = ⟨root, []⟩ → lx.lineStart = true → ∀ p b w rest,
        lx.rest = p ++ (b ++ (w ++ rest)) → ¬ CommandLine p b w rest) →
      (∀ t ∈ (lx.step table).pending, t.category ≠ identifier) → CommandStep lx

/-- A rule of `root` is for command lines, or it makes no identifier. -/
theorem mem_commandRules_or {rule : BuiltRule} (h : rule ∈ rootTable) :
    rule ∈ [argumentsRule, bareRule] ∨ identifier ∉ rule.action.categories := by
  have hothers : ∀ r ∈ .blanks :: otherRules, identifier ∉ r.action.categories := by decide
  rw [rootTable_eq, List.mem_cons, List.mem_append] at h
  rcases h with rfl | h | h
  · exact .inr (hothers _ (List.mem_cons_self ..))
  · exact .inl h
  · exact .inr (hothers _ (List.mem_cons_of_mem _ h))

/-- The rules for command lines are for the start of a line and make an identifier. -/
theorem lineStart_of_mem_commandRules : ∀ rule ∈ [argumentsRule, bareRule],
    rule.lineStart = true ∧ identifier ∈ rule.action.categories := by decide

theorem identifier_not_mem_of_commandBody :
    ∀ rule ∈ commandBodyTable, identifier ∉ rule.action.categories := by decide

/-- Every step of a scan goes one of the ways. -/
theorem commandStep {lx : Lexer} (hidle : lx.Idle) (hrest : lx.rest ≠ [])
    (hstack : lx.stack.OnLevels table innerStates) : CommandStep lx := by
  -- Where a command line stands, a rule for command lines is the first to fire.
  have hfirst : lx.stack = ⟨root, []⟩ → lx.lineStart = true → ∀ p b w rest,
      lx.rest = p ++ (b ++ (w ++ rest)) → CommandLine p b w rest →
      ∃ rule ∈ [argumentsRule, bareRule], ∃ m,
        firstFiring? lx.lineStart lx.rest (table.rulesOf lx.stack.top) = some (rule, m) := by
    intro hroot hline p b w rest hw hcommand
    rw [hroot, hline, hw]
    exact hcommand.exists_firstFiring?
  rcases lx.step_cases table hrest with ⟨rule, m, u, hfire, -, hu, -, -, hstep⟩ |
    ⟨c, rest, hfire, -, hstep⟩
  · obtain ⟨hmem, hm⟩ := firstFiring?_eq_some hfire
    have hroot : identifier ∈ rule.action.categories →
        lx.stack = ⟨root, []⟩ ∧ rule ∈ [argumentsRule, bareRule] := by
      intro hidentifier
      generalize hs : lx.stack = stack at hstack
      rw [hs] at hmem
      cases hstack with
      | entry => exact ⟨rfl, (mem_commandRules_or hmem).resolve_right (not_not_intro hidentifier)⟩
      | @inner state hstate =>
        obtain rfl : state = commandBody := by simpa [innerStates] using hstate
        exact absurd hidentifier (identifier_not_mem_of_commandBody rule hmem)
    by_cases hcategories : identifier ∈ rule.action.categories
    · obtain ⟨hstack, hrule⟩ := hroot hcategories
      have hline := (BuiltRule.fires?_eq_some_iff.mp hm).1
        (lineStart_of_mem_commandRules rule hrule).1
      obtain ⟨p, b, w, rest, hreads⟩ := exists_readsCommand_of_fires hrule hm
      obtain ⟨v, row, hv, hrow, htokens⟩ := hreads.tokens
      obtain rfl : u = v := List.append_cancel_right (hu.symm.trans hv)
      refine .command hstack hline hreads.command hreads.text hrow ?_
      rw [hstep, hidle.pending_consume, htokens]
    · refine .other (fun hroot hline p b w rest hw hcommand => ?_)
        (Lexer.category_ne_of_step hidle hcategories (by decide) hstep)
      obtain ⟨rule', hrule', m', hfire'⟩ := hfirst hroot hline p b w rest hw hcommand
      cases (hfire.symm.trans hfire' : some _ = some _)
      exact hcategories (lineStart_of_mem_commandRules _ hrule').2
  · refine .other (fun hroot hline p b w rest hw hcommand => ?_) (fun t ht => ?_)
    · obtain ⟨rule', -, m', hfire'⟩ := hfirst hroot hline p b w rest hw hcommand
      cases (hfire.symm.trans hfire' : none = some _)
    · rw [hstep, hidle.pending_consume, List.mem_singleton] at ht
      rw [ht]
      exact (by decide : Category.text ≠ .identifier)

/-! ## The tokens of a source -/

/-- A line of a source opens after a text, and it is a command line. -/
structure CommandAt (source before p b w rest : Text) : Prop extends CommandLine p b w rest where
  text : source = before ++ (p ++ (b ++ (w ++ rest)))
  opens : Language.prldevops.Opening source before

theorem grammar_eq : Language.prldevops.grammar = table := Language.prldevopsGrammar_eq

variable {source before : Text} {lx : Lexer} {tokens : List Token}

theorem commandStep_of_scans (h : (Lexer.start table source).Scans table tokens lx)
    (hrest : lx.rest ≠ []) : CommandStep lx := by
  have hlevels := Language.prldevops.twoLevel
  rw [grammar_eq] at hlevels
  exact commandStep h.idle_right hrest (h.onLevels hlevels .entry)

/-- The scan gets to a command line, behind tokens that tile what stands before it. -/
theorem CommandAt.exists_lead (h : CommandAt source before p b w rest) :
    ∃ lead lx, (Lexer.start table source).Scans table lead lx ∧ Tiles 0 before lead ∧
      lx.cursor = before.size ∧ lx.rest = p ++ (b ++ (w ++ rest)) ∧ lx.stack = ⟨root, []⟩ ∧
      lx.lineStart = true := by
  obtain ⟨c, p, rfl⟩ := List.exists_cons_of_ne_nil h.ne_nil.1
  have hsolid := (h.name.solid plain_program c (List.mem_cons_self ..)).1
  have htext : source = before ++ c :: (p ++ (b ++ (w ++ rest))) := h.text
  have hopens := h.opens
  rw [htext] at hopens
  obtain ⟨lead, lx, hscans, hcursor, hrest, hstack, hline⟩ :=
    Language.exists_scan_of_opening hopens hsolid
  rw [← htext, grammar_eq] at hscans
  rw [Language.entry_eq] at hstack
  have hbefore : source = before ++ lx.rest := by
    rw [hrest]
    exact h.text
  exact ⟨lead, lx, hscans, tiles_of_scans hscans hbefore, hcursor, hrest, hstack, hline⟩

/-- Where a scan can read a command line, a line of the source opens. -/
theorem CommandAt.of_scans (h : (Lexer.start table source).Scans table tokens lx)
    (hstack : lx.stack = ⟨root, []⟩) (hline : lx.lineStart = true)
    (hcommand : CommandLine p b w rest) (hrest : lx.rest = p ++ (b ++ (w ++ rest))) :
    ∃ before, CommandAt source before p b w rest ∧ lx.cursor = before.size := by
  obtain ⟨before, htext, hcursor⟩ := exists_read_of_scans h
  rw [← grammar_eq] at h
  have hentry : lx.stack = ⟨Language.prldevops.grammar.entry, []⟩ := by
    rw [Language.entry_eq]
    exact hstack
  exact ⟨before, ⟨hcommand, hrest ▸ htext, Language.opening_of_scans h hentry hline htext⟩, hcursor⟩

/-- A command line gives the program as a keyword, the blanks, and the subcommand as an identifier.
Every identifier is the subcommand of a command line, and neither a word character nor a hyphen
stands after it, so that none is read off a longer word. -/
theorem subcommand_tokens (source : Text) :
    (∀ before p b w rest, CommandAt source before p b w rest →
      ∃ lead others, tokenize Language.prldevops.grammar source =
          lead ++ (Token.row before.size [(.keyword, p), (.whitespace, b), (.identifier, w)] ++
            others) ∧
        Tiles 0 before lead) ∧
    ∀ t ∈ tokenize Language.prldevops.grammar source, t.category = .identifier →
      ∃ before p b w rest, CommandAt source before p b w rest ∧
        t = Token.at .identifier (before.size + p.size + b.size) w ∧
        ∀ c ∈ rest.head?, isWordChar c = false ∧ c ≠ '-' := by
  rw [grammar_eq]
  refine ⟨fun before p b w rest hplace => ?_, fun t ht hcategory => ?_⟩
  · obtain ⟨lead, lx, hscans, hlead, hcursor, hrest, hstack, hline⟩ := hplace.exists_lead
    have hne : lx.rest ≠ [] := hrest ▸ List.append_ne_nil_of_left_ne_nil hplace.ne_nil.1 _
    cases commandStep_of_scans hscans hne with
    | other hnone _ => exact absurd hplace.toCommandLine (hnone hstack hline p b w rest hrest)
    | command _ _ hcommand hrest' _ hpending =>
      obtain ⟨rfl, rfl, rfl, rfl⟩ := hplace.unique hcommand (hrest.symm.trans hrest')
      have hstep := hscans.trans (.step hscans.idle_right hne (.refl (Lexer.idle_settle _)))
      rw [hpending, hcursor] at hstep
      exact ⟨lead, _, by simpa [Token.row] using tokenize_eq_of_scans hstep, hlead⟩
  · obtain ⟨end_, hscans, -⟩ := scans_tokenize table source
    obtain ⟨tokens, lx, hscan, hrest, hmem⟩ := hscans.exists_step_of_mem t ht
    cases commandStep_of_scans hscan hrest with
    | other _ hnone => exact absurd hcategory (hnone t hmem)
    | command hstack hline hcommand hrest' hrow hpending =>
      obtain ⟨before, hplace, hcursor⟩ := CommandAt.of_scans hscan hstack hline hcommand hrest'
      rw [hpending, hcursor] at hmem
      refine ⟨before, _, _, _, _, hplace, ?_, hcommand.ends.edge⟩
      simp only [Token.row, List.cons_append, List.nil_append, List.mem_cons] at hmem
      rcases hmem with rfl | rfl | rfl | hmem
      · cases hcategory
      · cases hcategory
      · rfl
      · obtain ⟨x, hx, hcategory'⟩ := Token.category_of_mem_row t hmem
        exact absurd (hcategory'.symm.trans hcategory) (hrow x hx)

/-- A long s, other cases, and a line that ends with a `\r\n`. -/
theorem subcommand_tokens_import_vm :
    let p : Text := ['P', 'r', 'l', 'd', 'e', 'v', 'o', 'p', 'ſ']
    let w : Text := ['i', 'm', 'p', 'o', 'r', 't', '-', 'V', 'M']
    let rest : Text := ['\r', '\n', 'x']
    CommandAt (p ++ (['\t'] ++ (w ++ rest))) [] p ['\t'] w rest ∧
      ∃ others, tokenize Language.prldevops.grammar (p ++ (['\t'] ++ (w ++ rest))) =
        Token.row 0 [(.keyword, p), (.whitespace, ['\t']), (.identifier, w)] ++ others := by
  intro p w rest
  have hname : p.EqFold program.toList := by decide +kernel
  have hword : w.EqFold "import-vm".toList := by decide +kernel
  have hends : EndsWord (['\r'] ++ ['\n', 'x']) := .lineEnd (by simp) (by simp)
  have hplace : CommandAt (p ++ (['\t'] ++ (w ++ rest))) [] p ['\t'] w rest :=
    ⟨⟨hname, ⟨by simp, by simp⟩, ⟨"import-vm", by simp [subcommands], hword⟩, hends⟩, rfl, .inl rfl⟩
  obtain ⟨lead, others, htokens, hlead⟩ := (subcommand_tokens _).1 _ _ _ _ _ hplace
  rw [hlead.eq_nil] at htokens
  exact ⟨hplace, others, htokens⟩

end Highlighter.Prldevops
