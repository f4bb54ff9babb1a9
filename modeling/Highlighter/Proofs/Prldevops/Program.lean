import Highlighter.Proofs.Prldevops.Subcommands

/-!
# The program at the start of a line

Three rules of `root` start with the program: two for a subcommand behind it and one for the
program alone.  Whichever of them fires makes the program a keyword
(`exists_program_of_fires`).  At the start of a line where the program stands and no word
character follows, one of them is the first to fire, since the last of them needs no more than
that.  So the first token there is the program (`exists_program_token`).
-/

namespace Highlighter.Prldevops

open Category Pattern

/-- The rule for the program alone. -/
def programRule : BuiltRule := ⟨programAlone.tied, true, none, .token keyword, .stay⟩

/-- The rules that start with the program. -/
def programRules : List BuiltRule := [argumentsRule, bareRule, programRule]

theorem rootTable_eq_programRules :
    rootTable = .blanks :: (programRules ++ [.comment .stay, .words, .signs]) := rfl

theorem letters_program : ∀ c ∈ program.toList, (c.isAlpha || c == '_') = true :=
  List.all_eq_true.mp (by decide)

/-- No rule that starts with the program fires at another character than those of words. -/
theorem wordFirst_of_mem_programRules :
    ∀ rule ∈ programRules, ∃ p, rule.pattern = Pattern.tied p ∧ p.WordFirst := by
  have hprogram : (Pattern.literal program).WordFirst := .literal plain_program
  simp only [programRules, List.forall_mem_cons]
  exact ⟨⟨_, rfl, hprogram.groupsThen ..⟩, ⟨_, rfl, hprogram.groupsThen ..⟩,
    ⟨_, rfl, .wordThen plain_program _⟩, by simp⟩

/-- In `root` a `#` starts a comment up to the end of the line. -/
theorem firstFiring?_root_of_hash (lineStart : Bool) (t : Text) :
    firstFiring? lineStart ('#' :: t) rootTable =
      some (.comment .stay,
        ⟨0, Text.size ('#' :: t.takeWhile (· != '\n')), [], t.dropWhile (· != '\n')⟩) := by
  have hblank : BuiltRule.blanks.fires? lineStart ('#' :: t) = none :=
    BuiltRule.fires?_blanks_eq_none (by simp; decide)
  have hprogram : firstFiring? lineStart ('#' :: t) programRules = none := by
    refine firstFiring?_of_forall_none fun rule hrule => ?_
    obtain ⟨p, hp, hfirst⟩ := wordFirst_of_mem_programRules rule hrule
    exact hfirst.fires?_eq_none hp (by decide) lineStart t
  rw [rootTable_eq_programRules, firstFiring?, hblank, firstFiring?_append, hprogram,
    Option.none_or, firstFiring?, BuiltRule.fires?_comment]

variable {lineStart : Bool} {t u w rest : Text} {m : Match} {rule : BuiltRule}

/-- What the rule for the program alone reads is the program. -/
theorem eqFold_of_programRule (hm : programRule.fires? lineStart t = some m)
    (hu : t = u ++ m.rest) : u.EqFold program.toList := by
  obtain ⟨-, hfind, -, -⟩ := BuiltRule.fires?_eq_some_iff.mp hm
  obtain ⟨e, he, rfl⟩ := exists_mem_run_of_find hfind
  obtain ⟨v, b, hv, hfold, -, he⟩ := exists_of_mem_wordThen plain_program.chars he
  have hcheck : e = b := by
    simp only [Pattern.run] at he
    split at he
    · exact List.mem_singleton.mp he
    · simp at he
  subst hcheck
  obtain rfl : u = v := List.append_cancel_right (hu.symm.trans hv.rest)
  exact hfold

/-- A rule that starts with the program makes it a keyword. -/
theorem exists_program_of_fires (hrule : rule ∈ programRules)
    (hm : rule.fires? lineStart t = some m) (hu : t = u ++ m.rest) (base : Nat) :
    ∃ p rest others, p.EqFold program.toList ∧ t = p ++ rest ∧
      rule.action.tokens base u m = Token.at .keyword base p :: others := by
  have hreads : rule ∈ [argumentsRule, bareRule] ∨ rule = programRule := by
    simpa [programRules, or_assoc] using hrule
  rcases hreads with hcommand | rfl
  · obtain ⟨p, b, w, rest, hreads⟩ := exists_readsCommand_of_fires hcommand hm
    obtain ⟨v, row, hv, -, htokens⟩ := hreads.tokens
    obtain rfl : u = v := List.append_cancel_right (hu.symm.trans hv)
    exact ⟨p, _, _, hreads.command.name, hreads.text, htokens base⟩
  · exact ⟨u, m.rest, [], eqFold_of_programRule hm hu, hu, rfl⟩

/-- Where the program stands, the rule for the program alone fires. -/
theorem exists_fires_programRule (hw : w.EqFold program.toList)
    (hrest : ∀ c ∈ rest.head?, isWordChar c = false) :
    ∃ m, programRule.fires? true (w ++ rest) = some m := by
  obtain ⟨b, hb, hrun⟩ := exists_mem_wordThen (p := .check (.word .either .word))
    (a := Place.start (w ++ rest)) plain_program.chars hw rfl
  have hafter : b.rest = rest := List.append_cancel_left hb.rest.symm
  have hedge := hb.wordEdge (hw.ne_nil plain_program.ne_nil)
    (hw.isWordChar_of_letters letters_program) (hafter ▸ hrest)
  refine BuiltRule.exists_fires (e := b) (consumes_wordThen (by decide) _) (hrun b ?_) ..
  simp [Pattern.run, hedge]

/-- Where the program stands at the start of a line, a rule that starts with it is the first to
fire. -/
theorem exists_programRule (hw : w.EqFold program.toList)
    (hrest : ∀ c ∈ rest.head?, isWordChar c = false) :
    ∃ rule ∈ programRules, ∃ m, firstFiring? true (w ++ rest) rootTable = some (rule, m) := by
  have hblank : BuiltRule.blanks.fires? true (w ++ rest) = none := by
    refine BuiltRule.fires?_blanks_eq_none fun c hc => ?_
    rw [List.head?_append_of_ne_nil w (hw.ne_nil plain_program.ne_nil)] at hc
    exact (hw.solid plain_program c (List.mem_of_head? hc)).1
  obtain ⟨m, hm⟩ := exists_fires_programRule hw hrest
  cases hfirst : firstFiring? true (w ++ rest) programRules with
  | none =>
    rw [firstFiring?_eq_none hfirst programRule (by simp [programRules])] at hm
    cases hm
  | some found =>
    obtain ⟨rule, m'⟩ := found
    refine ⟨rule, (firstFiring?_eq_some hfirst).1, m', ?_⟩
    rw [rootTable_eq_programRules, firstFiring?, hblank, firstFiring?_append, hfirst,
      Option.some_or]

/-- Where the program stands at the start of a line, the first token is the program. -/
theorem exists_program_token {lx : Lexer} (hidle : lx.Idle) (hstack : lx.stack = ⟨root, []⟩)
    (hline : lx.lineStart = true) (htext : lx.rest = w ++ rest) (hw : w.EqFold program.toList)
    (hrest : ∀ c ∈ rest.head?, isWordChar c = false) :
    ∃ others, (lx.step table).pending = Token.at .keyword lx.cursor w :: others := by
  obtain ⟨rule, hrule, m, hfire⟩ := exists_programRule hw hrest
  have hfirst : firstFiring? lx.lineStart lx.rest (table.rulesOf lx.stack.top) =
      some (rule, m) := by
    rw [hline, htext, hstack]
    exact hfire
  obtain ⟨u, -, hu, -⟩ := BuiltRule.fires?_spans (firstFiring?_eq_some hfire).2
  obtain ⟨p, rest', others, hp, hcut, htokens⟩ :=
    exists_program_of_fires hrule (firstFiring?_eq_some hfire).2 hu lx.cursor
  obtain ⟨rfl, -⟩ := List.append_inj hcut (hw.length_eq.trans hp.length_eq.symm)
  refine ⟨others, ?_⟩
  rw [Lexer.step_eq_of_firing hfirst (htext.trans hu), hidle.pending_consume, htokens]

end Highlighter.Prldevops
