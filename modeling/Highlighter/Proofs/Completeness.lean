import Highlighter.Proofs.Grammar.Rows
import Highlighter.Proofs.Grammar.Words
import Highlighter.Proofs.SubStates

/-!
# The built-in tables are complete

At every step of a scan under a built-in grammar some rule fires, with one exception:
a backslash at the very end, in the state of a command.  Then one character becomes
plain text, as the scan would have it for any text that no rule matches.

The two `root` states have a rule for blanks, one for words and one for all the rest.
Of the inner states two have a rule for any character of a line, and the others read
every character but a backslash that nothing follows
(`Language.firstFiring?_eq_none_iff`).

No match that a step looks at is empty, and the tokens of a match in groups are its
groups: every pattern is a row of groups, so there is nothing between two of them and
none is passed over.
-/

namespace Highlighter

/-! ## Rules that do not fire -/

namespace BuiltRule

variable {lineStart : Bool} {c : Char} {t : Text}

/-- Where a rule for a run does not fire, the character is not one of its set. -/
theorem holds_eq_false_of_run {s s' : CharSet} {action : Action} {transition : Transition}
    (h : (⟨(Pattern.seq (.one s) (.many true s')).tied, false, none, action, transition⟩ :
      BuiltRule).fires? lineStart (c :: t) = none) : s.holds c = false := by
  rw [fires?_plain rfl, Pattern.find_run] at h
  split at h
  · cases h
  · next hc => simpa using hc

theorem eq_newline_of_anyChar (h : anyChar.fires? lineStart (c :: t) = none) : c = '\n' := by
  rw [anyChar, fires?_plain rfl, Pattern.find_inLine] at h
  by_contra hc
  rw [if_neg hc] at h
  cases h

theorem ne_newline_of_closingLineEnd (h : closingLineEnd.fires? lineStart (c :: t) = none) :
    c ≠ '\n' := by
  rintro rfl
  rw [closingLineEnd, fires?_plain rfl, Pattern.find_newline_newline] at h
  cases h

/-- The rule for escapes fires at every backslash but the last character. -/
theorem eq_nil_of_escape (h : escape.fires? lineStart ('\\' :: t) = none) : t = [] := by
  cases t with
  | nil => rfl
  | cons d t =>
    rw [fires?_escape, Option.map_eq_none_iff] at h
    exact absurd h (Text.escape?_ne_none d t)

end BuiltRule

section Tables

variable {rules : List BuiltRule} {lineStart : Bool} {c : Char} {t : Text}

/-- Blanks, words and all the rest are every character. -/
theorem firstFiring?_ne_none_of_words (hblanks : BuiltRule.blanks ∈ rules)
    (hwords : BuiltRule.words ∈ rules) (hsigns : BuiltRule.signs ∈ rules) :
    firstFiring? lineStart (c :: t) rules ≠ none := by
  intro h
  have hnone := firstFiring?_eq_none h
  have hspace := BuiltRule.holds_eq_false_of_run (hnone _ hblanks)
  have hword := BuiltRule.holds_eq_false_of_run (hnone _ hwords)
  have hsign := BuiltRule.holds_eq_false_of_run (hnone _ hsigns)
  rw [CharSet.sign, CharSet.holds, CharSet.holds, hword, hspace] at hsign
  cases hsign

/-- Line ends and any character of a line are every character. -/
theorem firstFiring?_ne_none_of_anyChar (hline : BuiltRule.closingLineEnd ∈ rules)
    (hany : BuiltRule.anyChar ∈ rules) : firstFiring? lineStart (c :: t) rules ≠ none := by
  intro h
  have hnone := firstFiring?_eq_none h
  exact BuiltRule.ne_newline_of_closingLineEnd (hnone _ hline)
    (BuiltRule.eq_newline_of_anyChar (hnone _ hany))

end Tables

/-! ## States of commands -/

namespace Pattern

theorem self_mem_run_loop (p : Pattern) (greedy : Bool) (a : Place) :
    a ∈ (Pattern.loop greedy p).run a := by
  rw [run]
  cases a.rest.length with
  | zero => simp [loopEnds]
  | succ n =>
    rw [loopEnds]
    cases greedy <;> simp

end Pattern

namespace Pdfile

/-- The rule for words of a command fires at every character they have. -/
theorem holds_eq_false_of_shellWords {lineStart : Bool} {c : Char} {t : Text}
    (h : (⟨shellWords.tied, false, none, .token .string, .stay⟩ : BuiltRule).fires? lineStart
      (c :: t) = none) : CharSet.shellChar.holds c = false := by
  by_contra hc
  have hc : CharSet.shellChar.holds c = true := by simpa using hc
  rw [BuiltRule.fires?_plain rfl, Pattern.find_tied, Pattern.matchAt, Option.map_eq_none_iff,
    List.head?_eq_none_iff] at h
  -- A run of one character and no turn of the loop is a match.
  let a := (Place.start (c :: t)).advance c t
  have hone : a ∈ (Pattern.one CharSet.shellChar).run (Place.start (c :: t)) := by
    simp [Pattern.run, Place.start, a, hc]
  have hplus : a ∈ (Pattern.plus CharSet.shellChar).run (Place.start (c :: t)) :=
    List.mem_flatMap.mpr ⟨a, hone, Pattern.mem_runEnds_of_mem (List.mem_cons_self ..)⟩
  have hmem : a ∈ shellWords.run (Place.start (c :: t)) :=
    List.mem_flatMap.mpr ⟨a, hplus, Pattern.self_mem_run_loop _ true a⟩
  rw [h] at hmem
  cases hmem

theorem firstFiring?_shell_eq_none {lineStart : Bool} {c : Char} {t : Text}
    (h : firstFiring? lineStart (c :: t) shellCommandTable = none) : c = '\\' ∧ t = [] := by
  have hnone := firstFiring?_eq_none h
  simp only [shellCommandTable, List.forall_mem_cons] at hnone
  obtain ⟨hline, hcomment, hescape, hblanks, hwords, -⟩ := hnone
  have hnewline := BuiltRule.ne_newline_of_closingLineEnd hline
  have hhash := BuiltRule.holds_eq_false_of_run hcomment
  have hblank := BuiltRule.holds_eq_false_of_run hblanks
  have hshell := holds_eq_false_of_shellWords hwords
  -- What is neither a blank nor `#` nor a character of words is a backslash.
  have hslash : c = '\\' := by
    simp only [CharSet.shellChar, CharSet.innerBlank, CharSet.holds] at hhash hblank hshell
    grind
  subst hslash
  exact ⟨rfl, BuiltRule.eq_nil_of_escape hescape⟩

theorem firstFiring?_shell_backslash (lineStart : Bool) :
    firstFiring? lineStart ['\\'] shellCommandTable = none := by
  cases lineStart <;> rfl

end Pdfile

namespace Prldevops

theorem firstFiring?_commandBody_eq_none {lineStart : Bool} {c : Char} {t : Text}
    (h : firstFiring? lineStart (c :: t) commandBodyTable = none) : c = '\\' ∧ t = [] := by
  have hnone := firstFiring?_eq_none h
  simp only [commandBodyTable, List.forall_mem_cons] at hnone
  obtain ⟨hline, hescape, harguments, -⟩ := hnone
  have hnewline := BuiltRule.ne_newline_of_closingLineEnd hline
  have hargument := BuiltRule.holds_eq_false_of_run harguments
  have hslash : c = '\\' := by
    simp only [CharSet.argumentChar, CharSet.holds] at hargument
    grind
  subst hslash
  exact ⟨rfl, BuiltRule.eq_nil_of_escape hescape⟩

theorem firstFiring?_commandBody_backslash (lineStart : Bool) :
    firstFiring? lineStart ['\\'] commandBodyTable = none := by
  cases lineStart <;> rfl

end Prldevops

namespace Language

/-- The state of a language in which a backslash escapes what follows. -/
def escaping : Language → String
  | pdfile => Pdfile.shellCommandBody
  | prldevops => Prldevops.commandBody

/-- Some rule fires, unless a backslash is the last character of a command. -/
theorem firstFiring?_eq_none_iff (l : Language) {stack : Stack}
    (hstack : stack.OnLevels l.grammar l.innerStates) (lineStart : Bool) {t : Text}
    (ht : t ≠ []) :
    firstFiring? lineStart t (l.grammar.rulesOf stack.top) = none ↔
      t = ['\\'] ∧ stack.top = l.escaping := by
  obtain ⟨c, t, rfl⟩ := List.exists_cons_of_ne_nil ht
  cases l with
  | pdfile =>
    rw [grammar, pdfileGrammar_eq] at hstack ⊢
    cases hstack with
    | entry =>
      refine iff_of_false (firstFiring?_ne_none_of_words ?_ ?_ ?_) fun h => absurd h.2 (by decide)
      all_goals
        show _ ∈ Pdfile.rootTable
        simp [Pdfile.rootTable, Pdfile.blankTable, Pdfile.lastTable]
    | @inner state hstate =>
      simp only [innerStates, Pdfile.innerStates, List.mem_cons, List.not_mem_nil, or_false]
        at hstate
      rcases hstate with rfl | rfl | rfl
      · refine iff_of_false (firstFiring?_ne_none_of_anyChar ?_ ?_) fun h => absurd h.2 (by decide)
        all_goals simp [Pdfile.rulesOf_providerAttributes, Pdfile.providerAttributeTable]
      · refine iff_of_false (firstFiring?_ne_none_of_anyChar ?_ ?_) fun h => absurd h.2 (by decide)
        all_goals simp [Pdfile.rulesOf_commaList, Pdfile.commaListTable]
      · rw [Pdfile.rulesOf_shellCommandBody]
        refine ⟨fun h => ?_, fun h => ?_⟩
        · obtain ⟨rfl, rfl⟩ := Pdfile.firstFiring?_shell_eq_none h
          exact ⟨rfl, rfl⟩
        · rw [h.1, Pdfile.firstFiring?_shell_backslash]
  | prldevops =>
    rw [grammar, prldevopsGrammar_eq] at hstack ⊢
    cases hstack with
    | entry =>
      refine iff_of_false (firstFiring?_ne_none_of_words ?_ ?_ ?_) fun h => absurd h.2 (by decide)
      all_goals
        show _ ∈ Prldevops.rootTable
        simp [Prldevops.rootTable]
    | @inner state hstate =>
      obtain rfl : state = Prldevops.commandBody := by
        simpa [innerStates, Prldevops.innerStates] using hstate
      rw [Prldevops.rulesOf_commandBody]
      refine ⟨fun h => ?_, fun h => ?_⟩
      · obtain ⟨rfl, rfl⟩ := Prldevops.firstFiring?_commandBody_eq_none h
        exact ⟨rfl, rfl⟩
      · rw [h.1, Prldevops.firstFiring?_commandBody_backslash]

end Language

/-! ## Groups that took part -/

/-- The groups of a match, from a number on, that took part and are not empty: their categories
and extents. -/
def Match.parts (m : Match) : Nat → List Category → List (Category × Nat × Nat)
  | _, [] => []
  | k, category :: categories =>
    match m.group? k with
    | some (start, stop) =>
      if start = stop then m.parts (k + 1) categories
      else (category, start, stop) :: m.parts (k + 1) categories
    | none => m.parts (k + 1) categories

/-- The tokens of texts that stand one after another are the groups that have their extents. -/
theorem Match.parts_of_hasGroups {m : Match} (base : Nat) : ∀ {categories : List Category}
    {ws : List Text} {k p : Nat}, categories.length = ws.length → m.HasGroups k p ws →
      (Token.row (base + p) ((categories.zip ws).filter (·.2 ≠ []))).map
          (fun t => (t.category, t.start, t.stop)) =
        (m.parts k categories).map fun (category, start, stop) =>
          (category, base + start, base + stop)
  | [], [], _, _, _, _ => rfl
  | c :: categories, w :: ws, k, p, hlength, ⟨hgroup, hgroups⟩ => by
    have ih := parts_of_hasGroups base (Nat.succ.inj hlength) hgroups
    rw [List.zip_cons_cons, parts]
    by_cases hw : w = []
    · subst hw
      rw [List.filter_cons_of_neg (by simp)]
      rcases hgroup with hgroup | ⟨-, hgroup⟩
      · simp only [hgroup]
        rw [if_pos (by simp)]
        exact ih
      · simp only [hgroup]
        exact ih
    · have hpos : 0 < w.size := Text.size_pos hw
      have hgroup : m.group? k = some (p, p + w.size) := hgroup.resolve_right fun h => hw h.1
      simp only [hgroup]
      rw [List.filter_cons_of_pos (by simpa using hw), if_neg (by omega), Token.row, List.map_cons,
        List.map_cons, Nat.add_assoc, ih]
      simp only [Token.at, Nat.add_assoc]

/-- A rule with a form makes a token of every group that took part and is not empty. -/
theorem BuiltRule.Form.tokens_eq {rule : BuiltRule} (h : rule.Form) {categories : List Category}
    (haction : rule.action = .groups categories) {t u : Text} {m : Match}
    (hm : rule.pattern.find t = some m) (hu : t = u ++ m.rest) (base : Nat) :
    (rule.action.tokens base u m).map (fun t => (t.category, t.start, t.stop)) =
      (m.parts 1 categories).map fun (category, start, stop) =>
        (category, base + start, base + stop) := by
  cases h with
  | token => cases haction
  | @row p ps lineStart q categories' t' _ hrow hlength =>
    cases haction
    obtain ⟨ws, htakes, htext, hgroups⟩ := hrow.exists_of_find hm
    obtain rfl : u = ws.flatten := List.append_cancel_right (hu.symm.trans htext)
    have hlength' := hlength.trans htakes.length_eq
    have htokens := Action.tokens_of_groups hgroups hlength' base
    rw [htokens]
    exact Match.parts_of_hasGroups base hlength' hgroups

/-! ## Steps -/

namespace Language

/-- What the rules of a state do where a scan stands. -/
structure CompleteAt (l : Language) (lx : Lexer) : Prop where
  /-- Some rule fires, unless one backslash is left in the state of a command. -/
  fires : firstFiring? lx.lineStart lx.rest (l.grammar.rulesOf lx.currentState) = none ↔
    lx.rest = ['\\'] ∧
      (lx.currentState = Pdfile.shellCommandBody ∨ lx.currentState = Prldevops.commandBody)
  /-- No rule finds an empty match. -/
  extent : ∀ rule ∈ l.grammar.rulesOf lx.currentState, ∀ m,
    rule.pattern.find lx.rest = some m → m.isEmpty = false
  /-- The tokens of a match in groups are the groups that took part and are not empty, in order. -/
  groups : ∀ rule m categories,
    firstFiring? lx.lineStart lx.rest (l.grammar.rulesOf lx.currentState) = some (rule, m) →
    rule.action = .groups categories →
    (lx.step l.grammar).pending.map (fun t => (t.category, t.start, t.stop)) =
      (m.parts 1 categories).map fun (category, start, stop) =>
        (category, lx.cursor + start, lx.cursor + stop)

/-- The state of a command is the one of the language. -/
theorem eq_escaping_iff (l : Language) {stack : Stack}
    (hstack : stack.OnLevels l.grammar l.innerStates) :
    stack.top = l.escaping ↔
      stack.top = Pdfile.shellCommandBody ∨ stack.top = Prldevops.commandBody := by
  have hstates : ∀ l : Language, ∀ state ∈ "root" :: l.innerStates,
      (state = l.escaping ↔ state = Pdfile.shellCommandBody ∨ state = Prldevops.commandBody) := by
    intro l
    cases l <;> decide
  cases hstack with
  | entry => exact hstates l _ (by simp [l.entry_eq])
  | inner hstate => exact hstates l _ (List.mem_cons_of_mem _ hstate)

/-- The tables of a language are complete: wherever a scan makes a step some rule fires, unless
one backslash is left in the state of a command, no rule finds an empty match, and the tokens of a
match in groups are its groups. -/
theorem tables_complete (l : Language) {source : Text} {lx : Lexer}
    (hreach : Lexer.Reachable l.grammar source lx) (hidle : lx.pending = [])
    (hrest : lx.rest ≠ []) : l.CompleteAt lx := by
  obtain ⟨n, rfl⟩ := Lexer.reachable_iff.mp hreach
  have hstack := (l.handing_after source n).levels
  generalize (Lexer.start l.grammar source).after l.grammar n = lx at *
  refine ⟨?_, fun rule hrule m hm => ?_, fun rule m categories hfire haction => ?_⟩
  · rw [Lexer.currentState, l.firstFiring?_eq_none_iff hstack lx.lineStart hrest,
      l.eq_escaping_iff hstack]
  · exact (l.form_of_mem _ rule hrule).isEmpty_eq hm
  · rcases lx.step_cases l.grammar hrest with ⟨rule', m', u, hfire', -, hu, -, -, hstep⟩ |
      ⟨c, rest, hnone, -, -⟩
    · rw [Lexer.currentState] at hfire
      obtain ⟨rfl, rfl⟩ : rule' = rule ∧ m' = m := by
        simpa using Option.some.inj (hfire'.symm.trans hfire)
      obtain ⟨hmem, hm⟩ := firstFiring?_eq_some hfire
      have hfind := (BuiltRule.fires?_eq_some_iff.mp hm).2.1
      have hpending : (lx.step l.grammar).pending = rule'.action.tokens lx.cursor u m' := by
        rw [hstep]
        exact Lexer.Idle.pending_consume hidle ..
      rw [hpending]
      exact (l.form_of_mem _ rule' hmem).tokens_eq haction hfind hu lx.cursor
    · rw [Lexer.currentState, hnone] at hfire
      cases hfire

/-- A backslash at the end of a command. -/
theorem tables_complete_backslash :
    let lx := (Lexer.start pdfile.grammar ['D', 'O', ' ', '\\']).after pdfile.grammar 2
    Lexer.Reachable pdfile.grammar ['D', 'O', ' ', '\\'] lx ∧ lx.pending = [] ∧ lx.rest ≠ [] ∧
      pdfile.CompleteAt lx ∧
      firstFiring? lx.lineStart lx.rest (pdfile.grammar.rulesOf lx.currentState) = none := by
  intro lx
  have hgrammar : pdfile.grammar = Pdfile.table := pdfileGrammar_eq
  have hlx : lx = ⟨3, false, ['\\'], ⟨Pdfile.shellCommandBody, [Pdfile.root]⟩, []⟩ := by
    simp only [lx, hgrammar]
    decide +kernel
  have hreach : Lexer.Reachable pdfile.grammar ['D', 'O', ' ', '\\'] lx :=
    Lexer.reachable_iff.mpr ⟨2, rfl⟩
  have hidle : lx.pending = [] := by rw [hlx]
  have hrest : lx.rest ≠ [] := by
    rw [hlx]
    decide
  have hcomplete := tables_complete pdfile hreach hidle hrest
  refine ⟨hreach, hidle, hrest, hcomplete, hcomplete.fires.mpr ?_⟩
  rw [hlx]
  exact ⟨rfl, .inl rfl⟩

end Language

end Highlighter
