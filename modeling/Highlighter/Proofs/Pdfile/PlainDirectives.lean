import Highlighter.Proofs.Pdfile.DirectiveLines

/-!
# Plain directives

A directive is plain if it takes any text: it gives no origin, and it takes no fields, no
closed set of values, no list and no command (`PlainDirective`).  Its line gives the
directive, the blanks and the body of the rest of the line as one string
(`plain_directive_tokens`).  Where a comment stops the line, at most one run of blanks
stands between the string and the comment.

No rule is for the plain directives alone.  The rules that come before the rule for any
directive start with the names of other directives, so they do not fire
(`PlainDirective.not_mem_leadNames`).  This rule reads the body, since the body is what an
argument prefers to read.
-/

namespace Highlighter.Pdfile

open Category

/-- A directive that gives no origin, and takes no fields, no closed set of values, no list and no
command. -/
structure PlainDirective (name : String) : Prop where
  keyword : name ∈ keywords
  origin : name ≠ "FROM"
  field : ∀ entry ∈ fieldDirectives, name ≠ entry.1
  value : ∀ entry ∈ valueDirectives, name ≠ entry.1
  list : name ∉ listDirectives
  shell : name ∉ shellDirectives

namespace PlainDirective

variable {name : String} {w b t : Text}

theorem not_mem_leadNames (h : PlainDirective name) : name ∉ leadNames := by
  have hdeferrer : "ONBUILD" ∉ keywords := by decide
  have hattribute : (attributeDirective, credentialFields) ∈ fieldDirectives := by decide
  simp only [leadNames, List.mem_cons, not_or]
  exact ⟨fun heq => hdeferrer (heq ▸ h.keyword), h.origin, h.field _ hattribute, h.shell⟩

/-- At the line of a plain directive the rule for any directive is the first to fire. -/
theorem exists_firstFiring? (h : PlainDirective name) (hline : ArgumentLine name w b t) :
    ∃ m, firstFiring? true (w ++ (b ++ t)) rootTable = some (anyDirectiveRule, m) ∧
      t = [t.body].flatten ++ m.rest ∧ m.HasGroups 1 0 [w, b, t.body] := by
  have hlead : ∀ rule ∈ leadTable, rule.fires? true (w ++ (b ++ t)) = none := fun rule hrule =>
    (ledBy_of_mem_leadTable rule hrule).fires?_eq_none upper_of_mem_leadNames h.not_mem_leadNames
      h.keyword hline.toDirectiveLine true
  exact hline.exists_firstFiring?_anyDirectiveRule h.keyword hlead h.field h.value h.list

/-- The scan reads the directive, the blanks and the body, and is in root behind them. -/
theorem exists_readsLine {source before : Text} (h : PlainDirective name)
    (hplace : LineAt source before (w ++ (b ++ t))) (hline : ArgumentLine name w b t) :
    ∃ lx, ReadsLine source before [(.keyword, w), (whitespace, b), (string, t.body)] lx ∧
      t = t.body ++ lx.rest ∧ lx.stack = ⟨root, []⟩ := by
  obtain ⟨m, hfire, htext, hgroups⟩ := h.exists_firstFiring? hline
  obtain ⟨lx, hreads, hrest, hstack⟩ := hline.exists_readsLine h.keyword hplace hfire rfl rfl htext
    hgroups
  have hrow : ([string].zip [t.body]).filter (·.2 ≠ []) = [(string, t.body)] := by
    simp [hline.body_ne_nil]
  rw [hrow] at hreads
  exact ⟨lx, hreads, by simpa [hrest] using htext, hstack⟩

end PlainDirective

/-- The line of a plain directive with an argument gives the directive, the blanks, and the body of
the rest of the line as one string.  Where a comment stops the line, the blanks behind the body, if
there are any, and the comment up to the end of the line follow. -/
theorem plain_directive_tokens {source before w b t : Text} {name : String}
    (hname : PlainDirective name) (hplace : LineAt source before (w ++ (b ++ t)))
    (hline : ArgumentLine name w b t) :
    ∃ lead row others, tokenize Language.pdfile.grammar source =
        lead ++ (Token.row before.size
          ([(.keyword, w), (.whitespace, b), (.string, t.body)] ++ row) ++ others) ∧
      Tiles 0 before lead ∧
      ∀ u rest, t = u ++ '#' :: rest → '#' ∉ u → '\n' ∉ u →
        ∃ gap, u = t.body ++ gap ∧
          row = [(.whitespace, gap), (.comment, '#' :: rest.takeWhile (· != '\n'))].filter
            (·.2 ≠ []) := by
  obtain ⟨lx, hreads, htext, hstack⟩ := hname.exists_readsLine hplace hline
  by_cases hstop : ∃ u rest, t = u ++ '#' :: rest ∧ '#' ∉ u ∧ '\n' ∉ u
  · obtain ⟨u, rest, ht, hash, hnewline⟩ := hstop
    obtain ⟨gap, hu, hgap⟩ := Text.exists_eq_body_append_gap hash hnewline rest
    rw [← ht] at hu
    have hrest : lx.rest = gap ++ '#' :: rest := by
      refine List.append_cancel_left (htext.symm.trans ?_)
      rw [← List.append_assoc, ← hu, ht]
    obtain ⟨lx', hmore⟩ := exists_readsRow_to_comment hreads.idle hstack hgap hrest
    obtain ⟨lead, htokens, hlead⟩ := (hreads.append hmore).exists_tokenize_eq
    refine ⟨lead, _, _, htokens, hlead, fun u' rest' ht' hash' hnewline' => ⟨gap, ?_⟩⟩
    obtain ⟨rfl, rfl⟩ := Text.comment_unique hash hnewline hash' hnewline' (ht.symm.trans ht')
    exact ⟨hu, rfl⟩
  · obtain ⟨lead, htokens, hlead⟩ := hreads.exists_tokenize_eq
    exact ⟨lead, [], _, htokens, hlead, fun u rest ht hash hnewline =>
      absurd ⟨u, rest, ht, hash, hnewline⟩ hstop⟩

/-- Blanks beyond ASCII before a comment, and a line that no comment stops. -/
theorem plain_directive_tokens_owner :
    let w : Text := ['O', 'w', 'n', 'e', 'r']
    let stopped : Text := ['a', ' ', '=', '\u00a0', '\t', '#', 'c', '#', '\n', 'x']
    let ended : Text := ['a', ' ', 'b', '\r', '\n', '#', 'c']
    PlainDirective "OWNER" ∧
      (∀ t ∈ [stopped, ended], LineAt (w ++ ([' '] ++ t)) [] (w ++ ([' '] ++ t)) ∧
        ArgumentLine "OWNER" w [' '] t) ∧
      (∃ others, tokenize Language.pdfile.grammar (w ++ ([' '] ++ stopped)) =
        Token.row 0 [(.keyword, w), (.whitespace, [' ']), (.string, ['a', ' ', '=']),
          (.whitespace, ['\u00a0', '\t']), (.comment, ['#', 'c', '#'])] ++ others) ∧
      ∃ row others, tokenize Language.pdfile.grammar (w ++ ([' '] ++ ended)) =
        Token.row 0 ([(.keyword, w), (.whitespace, [' ']), (.string, ['a', ' ', 'b'])] ++ row) ++
          others := by
  intro w stopped ended
  have hname : PlainDirective "OWNER" :=
    ⟨by decide, by decide, by decide, by decide, by decide, by decide⟩
  have hplace : ∀ t : Text, LineAt (w ++ ([' '] ++ t)) [] (w ++ ([' '] ++ t)) := fun t =>
    .first (by decide : isBlank 'O' = false)
  have hfold : w.EqFold "OWNER".toList := by decide +kernel
  have hline : ∀ t : Text, ArgumentLine "OWNER" w [' '] ('a' :: t) := fun t =>
    ⟨hfold, ⟨by decide, by simp⟩, 'a', t, rfl, by decide, by decide⟩
  obtain ⟨lead, row, others, htokens, hlead, hrow⟩ :=
    plain_directive_tokens hname (hplace stopped) (hline _)
  obtain ⟨lead', row', others', htokens', hlead', -⟩ :=
    plain_directive_tokens hname (hplace ended) (hline _)
  obtain ⟨gap, hgap, rfl⟩ :=
    hrow ['a', ' ', '=', '\u00a0', '\t'] ['c', '#', '\n', 'x'] rfl (by decide) (by decide)
  have hcut : ['a', ' ', '='] ++ ['\u00a0', '\t'] = ['a', ' ', '='] ++ gap := hgap
  obtain rfl := List.append_cancel_left hcut
  rw [hlead.eq_nil] at htokens
  rw [hlead'.eq_nil] at htokens'
  exact ⟨hname, by simpa using ⟨⟨hplace stopped, hline _⟩, hplace ended, hline _⟩,
    ⟨others, htokens⟩, row', others', htokens'⟩

end Highlighter.Pdfile
