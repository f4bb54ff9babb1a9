import Highlighter.Proofs.Grammar.States

/-!
# Lines and comments

What the rules of the built-in grammars do at the end of a line.  In the entry state a
line end is part of a run of blanks.  In an inner state it fires the rule that leaves
the state, unless a backslash stands before it.  A comment leaves an inner state and
goes on to the end of its line.  All other rules read no line end and make no comment.

`Language.lineStep` says so of every step of a scan.
-/

namespace Highlighter

/-! ## The rules of each state -/

/-- A rule that reads no line end and makes no comment. -/
structure BuiltRule.InLine (rule : BuiltRule) : Prop where
  pattern : ∃ p, rule.pattern = Pattern.tied p ∧ p.accepts '\n' = false
  categories : Category.comment ∉ rule.action.categories

/-- The rules of an entry state, by what they do at a line end. -/
inductive BuiltRule.EntryLine : BuiltRule → Prop where
  | inLine {rule : BuiltRule} : rule.InLine → EntryLine rule
  | comment : EntryLine (.comment .stay)
  | blanks : EntryLine .blanks

/-- The rules of an inner state, by what they do at a line end. -/
inductive BuiltRule.InnerLine : BuiltRule → Prop where
  | inLine {rule : BuiltRule} : rule.InLine → InnerLine rule
  | comment : InnerLine (.comment .pop)
  | lineEnd : InnerLine .closingLineEnd
  | escape : InnerLine .escape

/-- A rule within a line reads no line feed. -/
theorem BuiltRule.InLine.not_mem {rule : BuiltRule} (h : rule.InLine) {lineStart : Bool}
    {t u : Text} {m : Match} (hm : rule.fires? lineStart t = some m) (hu : t = u ++ m.rest) :
    '\n' ∉ u := by
  obtain ⟨p, hp, haccepts⟩ := h.pattern
  intro hmem
  rw [accepts_of_fires? hp hm hu '\n' hmem] at haccepts
  exact Bool.noConfusion haccepts

/-- A rule for the start of a line stays within the line. -/
theorem BuiltRule.Kind.inLine {rule : BuiltRule} (h : rule.Kind) (hline : rule.lineStart = true)
    (hcategories : Category.comment ∉ rule.action.categories) : rule.InLine := by
  cases h with
  | lined hp _ => exact ⟨⟨_, rfl, hp.newline⟩, hcategories⟩
  | blanks => cases hline
  | run => cases hline
  | newline => cases hline
  | escape => cases hline
  | anyChar => cases hline

theorem BuiltRule.inLine_words : words.InLine := ⟨⟨_, rfl, rfl⟩, by decide⟩

theorem BuiltRule.inLine_signs : signs.InLine := ⟨⟨_, rfl, rfl⟩, by decide⟩

theorem BuiltRule.inLine_innerBlanks : innerBlanks.InLine := ⟨⟨_, rfl, rfl⟩, by decide⟩

theorem BuiltRule.inLine_anyChar : anyChar.InLine := ⟨⟨_, rfl, rfl⟩, by decide⟩

/-- The rules that a table for an entry state may have. -/
def BuiltRule.IsEntry (rule : BuiltRule) : Prop :=
  (rule.lineStart = true ∧ Category.comment ∉ rule.action.categories) ∨
    rule = .blanks ∨ rule = .comment .stay ∨ rule = .words ∨ rule = .signs

/-- A rule that an entry state may have is within a line, a comment or a run of blanks. -/
theorem BuiltRule.EntryLine.of_isEntry {rule : BuiltRule} (hkind : rule.Kind)
    (h : rule.IsEntry) : rule.EntryLine := by
  rcases h with ⟨hline, hcategories⟩ | rfl | rfl | rfl | rfl
  · exact .inLine (hkind.inLine hline hcategories)
  · exact .blanks
  · exact .comment
  · exact .inLine inLine_words
  · exact .inLine inLine_signs

namespace Pdfile

theorem isEntry_of_mem_rootTable : ∀ rule ∈ rootTable, rule.IsEntry := by
  unfold BuiltRule.IsEntry
  decide

/-- In an inner state a line end is read by the rule that closes the state, a comment or an
escape. -/
theorem innerLine_of_mem {state : String} (hstate : state ∈ innerStates) :
    ∀ rule ∈ table.rulesOf state, rule.InnerLine := by
  simp only [innerStates, List.mem_cons, List.not_mem_nil, or_false] at hstate
  rcases hstate with rfl | rfl | rfl
  · rw [rulesOf_providerAttributes]
    simp only [providerAttributeTable, List.forall_mem_cons]
    exact ⟨.comment, .lineEnd, .inLine BuiltRule.inLine_innerBlanks,
      .inLine ⟨⟨_, rfl, inside_pairThenSeparator.newline⟩, by decide⟩,
      .inLine ⟨⟨_, rfl, inside_pair.newline⟩, by decide⟩, .inLine BuiltRule.inLine_anyChar,
      by simp⟩
  · rw [rulesOf_commaList]
    simp only [commaListTable, List.forall_mem_cons]
    exact ⟨.comment, .lineEnd, .inLine BuiltRule.inLine_innerBlanks,
      .inLine ⟨⟨_, rfl, inside_itemThenSeparator.newline⟩, by decide⟩,
      .inLine ⟨⟨_, rfl, rfl⟩, by decide⟩, .inLine BuiltRule.inLine_anyChar, by simp⟩
  · rw [rulesOf_shellCommandBody]
    simp only [shellCommandTable, List.forall_mem_cons]
    exact ⟨.lineEnd, .comment, .escape, .inLine BuiltRule.inLine_innerBlanks,
      .inLine ⟨⟨_, rfl, inside_shellWords.newline⟩, by decide⟩, by simp⟩

end Pdfile

namespace Prldevops

theorem isEntry_of_mem_rootTable : ∀ rule ∈ rootTable, rule.IsEntry := by
  unfold BuiltRule.IsEntry
  decide

theorem innerLine_of_mem {state : String} (hstate : state ∈ innerStates) :
    ∀ rule ∈ table.rulesOf state, rule.InnerLine := by
  obtain rfl : state = commandBody := by simpa [innerStates] using hstate
  rw [rulesOf_commandBody]
  simp only [commandBodyTable, List.forall_mem_cons]
  exact ⟨.lineEnd, .escape, .inLine ⟨⟨_, rfl, rfl⟩, by decide⟩, by simp⟩

end Prldevops

namespace Language

theorem entryLine_of_mem (l : Language) :
    ∀ rule ∈ l.grammar.rulesOf l.grammar.entry, rule.EntryLine := by
  intro rule hrule
  refine .of_isEntry (l.kind_of_mem _ rule hrule) ?_
  cases l with
  | pdfile =>
    rw [grammar, pdfileGrammar_eq] at hrule
    exact Pdfile.isEntry_of_mem_rootTable rule hrule
  | prldevops =>
    rw [grammar, prldevopsGrammar_eq] at hrule
    exact Prldevops.isEntry_of_mem_rootTable rule hrule

theorem innerLine_of_mem (l : Language) {state : String} (hstate : state ∈ l.innerStates) :
    ∀ rule ∈ l.grammar.rulesOf state, rule.InnerLine := by
  cases l with
  | pdfile =>
    rw [grammar, pdfileGrammar_eq]
    exact Pdfile.innerLine_of_mem hstate
  | prldevops =>
    rw [grammar, prldevopsGrammar_eq]
    exact Prldevops.innerLine_of_mem hstate

/-! ## Steps -/

/-- The ways a step of a scan goes, by what it does with line ends and comments. -/
inductive LineStep (l : Language) (lx : Lexer) : Prop where
  /-- It reads no line end and no comment. -/
  | inLine : (∀ t ∈ (lx.step l.grammar).pending, '\n' ∉ t.text ∧ t.category ≠ .comment) →
      LineStep l lx
  /-- It reads a comment, and only the entry state is open after it. -/
  | comment {rest : Text} : lx.rest = '#' :: rest →
      (lx.step l.grammar).pending =
        [Token.at .comment lx.cursor ('#' :: rest.takeWhile (· != '\n'))] →
      (lx.step l.grammar).stack = ⟨l.grammar.entry, []⟩ → LineStep l lx
  /-- It reads blanks, and only the entry state is open after it. -/
  | blanks {u : Text} : (∀ c ∈ u, isBlank c = true) → lx.rest = u ++ (lx.step l.grammar).rest →
      (lx.step l.grammar).pending = [Token.at .whitespace lx.cursor u] →
      (lx.step l.grammar).stack = ⟨l.grammar.entry, []⟩ → LineStep l lx
  /-- It reads an escape in an inner state. -/
  | escape {u : Text} : lx.stack.top ∈ l.innerStates →
      lx.rest.escape? = some (u, (lx.step l.grammar).rest) →
      (lx.step l.grammar).pending = [Token.at .constant lx.cursor u] →
      (lx.step l.grammar).stack = lx.stack → LineStep l lx

namespace LineStep

variable {l : Language} {lx : Lexer} {rule : BuiltRule} {m : Match} {u : Text}

/-- The step of a rule within a line. -/
theorem of_inLine (hidle : lx.Idle) (h : rule.InLine)
    (hm : rule.fires? lx.lineStart lx.rest = some m) (hne : u ≠ []) (hu : lx.rest = u ++ m.rest)
    (hparts : ∀ index, ∀ extent ∈ m.group? index, u.HasPart extent)
    (hstep : lx.step l.grammar = lx.consume u m.rest (rule.action.tokens lx.cursor u m)
      rule.transition) :
    l.LineStep lx := by
  have hcategory := Lexer.category_ne_of_step hidle h.categories (by decide) hstep
  refine .inLine fun t ht => ⟨fun hmem => h.not_mem hm hu ?_, hcategory t ht⟩
  rw [hstep, hidle.pending_consume] at ht
  exact (rule.action.tokens_tiles lx.cursor hne hparts).subset t ht '\n' hmem

/-- The step of a rule for comments that is back in the entry state. -/
theorem of_comment {s : Transition} (hidle : lx.Idle)
    (hm : (BuiltRule.comment s).fires? lx.lineStart lx.rest = some m) (hu : lx.rest = u ++ m.rest)
    (hstep : lx.step l.grammar = lx.consume u m.rest
      ((BuiltRule.comment s).action.tokens lx.cursor u m) (BuiltRule.comment s).transition)
    (hstack : lx.stack.apply s = ⟨l.grammar.entry, []⟩) : l.LineStep lx := by
  obtain ⟨rest, htext, hrest⟩ := BuiltRule.fires?_comment_eq_some hm
  rw [htext, hrest] at hu
  obtain rfl := eq_cons_takeWhile hu
  refine .comment htext (Lexer.pending_of_token hidle rfl hstep) ?_
  rw [hstep]
  exact hstack

/-- A rule that reads blanks and is back in the entry state. -/
theorem of_blanks (hidle : lx.Idle) (hblank : ∀ c ∈ u, isBlank c = true)
    (hu : lx.rest = u ++ m.rest) (haction : rule.action = .token .whitespace)
    (hstep : lx.step l.grammar = lx.consume u m.rest (rule.action.tokens lx.cursor u m)
      rule.transition)
    (hstack : lx.stack.apply rule.transition = ⟨l.grammar.entry, []⟩) : l.LineStep lx := by
  refine .blanks hblank ?_ (Lexer.pending_of_token hidle haction hstep) ?_
  · rw [hstep]
    exact hu
  · rw [hstep]
    exact hstack

end LineStep

/-- In the entry state every step goes one of the ways. -/
theorem lineStep_entry (l : Language) {lx : Lexer} (hidle : lx.Idle) (hrest : lx.rest ≠ [])
    (hstack : lx.stack = ⟨l.grammar.entry, []⟩) : l.LineStep lx := by
  have htop : lx.stack.top = l.grammar.entry := by rw [hstack]
  rcases lx.step_cases l.grammar hrest with ⟨rule, m, u, hfire, hne, hu, -, hparts, hstep⟩ |
    ⟨c, rest, hfire, hc, hstep⟩
  · obtain ⟨hmem, hm⟩ := firstFiring?_eq_some hfire
    rw [htop] at hmem
    cases l.entryLine_of_mem rule hmem with
    | inLine h => exact .of_inLine hidle h hm hne hu hparts hstep
    | comment => exact .of_comment hidle hm hu hstep hstack
    | blanks =>
      obtain ⟨c, rest, htext, hc, hrest'⟩ := BuiltRule.fires?_blanks_eq_some hm
      obtain rfl : u = c :: rest.takeWhile isBlank :=
        eq_cons_takeWhile (by rw [← htext, hu, hrest'])
      refine .of_blanks hidle (fun d hd => ?_) hu rfl hstep hstack
      rcases List.mem_cons.mp hd with rfl | hd
      · exact hc
      · exact List.mem_takeWhile_imp hd
  · refine .inLine fun t ht => ?_
    rw [hstep, hidle.pending_consume, List.mem_singleton] at ht
    subst ht
    refine ⟨fun hmem => ?_, (by decide : Category.text ≠ .comment)⟩
    obtain rfl : '\n' = c := List.mem_singleton.mp hmem
    rw [htop, hc, l.firstFiring?_entry_of_blank lx.lineStart rest (by decide)] at hfire
    cases hfire

/-- In an inner state every step goes one of the ways. -/
theorem lineStep_inner (l : Language) {lx : Lexer} (hidle : lx.Idle) (hrest : lx.rest ≠ [])
    {state : String} (hstate : state ∈ l.innerStates)
    (hstack : lx.stack = ⟨state, [l.grammar.entry]⟩) : l.LineStep lx := by
  have htop : lx.stack.top = state := by rw [hstack]
  have hpop : lx.stack.apply .pop = ⟨l.grammar.entry, []⟩ := by rw [hstack]; rfl
  rcases lx.step_cases l.grammar hrest with ⟨rule, m, u, hfire, hne, hu, -, hparts, hstep⟩ |
    ⟨c, rest, hfire, hc, hstep⟩
  · obtain ⟨hmem, hm⟩ := firstFiring?_eq_some hfire
    rw [htop] at hmem
    cases l.innerLine_of_mem hstate rule hmem with
    | inLine h => exact .of_inLine hidle h hm hne hu hparts hstep
    | comment => exact .of_comment hidle hm hu hstep hpop
    | lineEnd =>
      refine .of_blanks hidle (fun d hd => ?_) hu rfl hstep hpop
      rcases BuiltRule.fires?_closingLineEnd_eq_some hm with h | h
      · obtain rfl : ['\n'] = u := List.append_cancel_right (h.symm.trans hu)
        obtain rfl := List.mem_singleton.mp hd
        decide
      · obtain rfl : ['\r', '\n'] = u := List.append_cancel_right (h.symm.trans hu)
        rcases List.mem_pair.mp hd with rfl | rfl <;> decide
    | escape =>
      obtain ⟨v, hescape⟩ := BuiltRule.fires?_escape_eq_some hm
      obtain rfl : u = v :=
        List.append_cancel_right (hu.symm.trans (Text.escape?_cases hescape).1)
      refine .escape (htop ▸ hstate) ?_ (Lexer.pending_of_token hidle rfl hstep) ?_
      · rw [hstep]
        exact hescape
      · rw [hstep]
        rfl
  · refine .inLine fun t ht => ?_
    rw [hstep, hidle.pending_consume, List.mem_singleton] at ht
    subst ht
    refine ⟨fun hmem => ?_, (by decide : Category.text ≠ .comment)⟩
    obtain rfl : '\n' = c := List.mem_singleton.mp hmem
    rw [htop, hc, l.firstFiring?_inner hstate lx.lineStart (by decide)
      (Pattern.find_newline_newline rest)] at hfire
    cases hfire

/-- Every step of a scan goes one of the ways. -/
theorem lineStep (l : Language) {lx : Lexer} (hidle : lx.Idle) (hrest : lx.rest ≠ [])
    (hstack : lx.stack.OnLevels l.grammar l.innerStates) : l.LineStep lx := by
  generalize hs : lx.stack = stack at hstack
  cases hstack with
  | entry => exact l.lineStep_entry hidle hrest hs
  | inner hstate => exact l.lineStep_inner hidle hrest hstate hs

end Language

end Highlighter
