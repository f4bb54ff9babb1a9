import Highlighter.Proofs.Grammar.Caseless
import Highlighter.Proofs.Scan.Simulation

/-!
# Letter case

Two sources that are equal up to the case of ASCII letters have the same tokens, up
to the case of the letters in their texts.

The two scans are at the same position of alike texts in the same states.  Every rule
is caseless, so the same rule fires in both, with matches of the same extent
(`BuiltRule.Caseless.fires?_rel`), and the tokens that are cut from the matches are
alike one by one (`Action.tokens_alike`).
-/

namespace Highlighter

/-! ## Alike tokens -/

/-- Two tokens that differ in the case of letters at most. -/
structure Token.Alike (t t' : Token) : Prop where
  /-- They have the same category. -/
  category : t'.category = t.category
  /-- They start at the same byte. -/
  start : t'.start = t.start
  /-- They stop at the same byte. -/
  stop : t'.stop = t.stop
  /-- Their texts are equal up to the case of letters. -/
  text : Text.eqIgnoreCase t.text t'.text = true

theorem Token.Alike.at {u u' : Text} (h : u.Alike u') (category : Category) (position : Nat) :
    (Token.at category position u).Alike (Token.at category position u') :=
  ⟨rfl, rfl, by rw [Token.at, Token.at, h.size_eq], h.eqIgnoreCase⟩

/-- Groups of the same extents cut alike texts alike. -/
theorem groupTokens_alike (base : Nat) :
    ∀ (groups : List (Category × Option (Nat × Nat))) (position : Nat) {u u' : Text},
      u.Alike u' → List.Forall₂ Token.Alike (groupTokens base groups position u)
        (groupTokens base groups position u')
  | [], position, u, u', h => by
    rw [groupTokens, groupTokens, h.isEmpty_eq]
    split
    · exact .nil
    · exact .cons (.at h ..) .nil
  | (_, none) :: groups, position, u, u', h => groupTokens_alike base groups position h
  | (category, some (start, stop)) :: groups, position, u, u', h => by
    rw [groupTokens, groupTokens]
    split
    · exact groupTokens_alike base groups position h
    · refine List.rel_append ?_ (.cons (.at ((h.dropBytes _).takeBytes _) ..)
        (groupTokens_alike base groups stop ((h.dropBytes _).dropBytes _)))
      split
      · exact .cons (.at (h.takeBytes _) ..) .nil
      · exact .nil

theorem Action.tokens_alike (action : Action) (base : Nat) {u u' : Text} (h : u.Alike u')
    {m m' : Match} (hm : m.Alike m') :
    List.Forall₂ Token.Alike (action.tokens base u m) (action.tokens base u' m') := by
  cases action with
  | token category => exact .cons (.at h ..) .nil
  | groups categories =>
    simp only [Action.tokens, Match.group?, hm.captures]
    exact groupTokens_alike base _ 0 h

/-! ## Alike scans -/

/-- In alike texts a caseless rule fires in both or in none. -/
theorem BuiltRule.Caseless.fires?_rel {rule : BuiltRule} (h : rule.Caseless) (lineStart : Bool)
    {t t' : Text} (ht : t.Alike t') :
    Option.Rel Match.Alike (rule.fires? lineStart t) (rule.fires? lineStart t') := by
  obtain ⟨p, hp, hcaseless⟩ := h.pattern
  refine BuiltRule.fires?_rel (fun m m' hm => hm.isEmpty) (fun q hq m m' hm => ?_) ?_
  · exact h.lookahead.matches_eq hq hm.rest
  · rw [hp]
    exact Pattern.alike_find hcaseless.uncased ht

/-- Two scans at the same position of alike texts. -/
structure Lexer.Alike (lx lx' : Lexer) : Prop where
  /-- They are at the same position. -/
  cursor : lx'.cursor = lx.cursor
  /-- Both are at the start of a line or none. -/
  lineStart : lx'.lineStart = lx.lineStart
  /-- What is left is alike. -/
  rest : lx.rest.Alike lx'.rest
  /-- The same states are open. -/
  stack : lx'.stack = lx.stack
  /-- No token waits in the other scan. -/
  idle : lx'.Idle

/-- Alike scans go on alike. -/
theorem Lexer.Alike.step (l : Language) {lx lx' : Lexer} (h : lx.Alike lx') (hidle : lx.Idle)
    (hrest : lx.rest ≠ []) :
    lx'.rest ≠ [] ∧
      List.Forall₂ Token.Alike (lx.step l.grammar).pending (lx'.step l.grammar).pending ∧
      (lx.step l.grammar).settle.Alike (lx'.step l.grammar).settle := by
  obtain ⟨hcursor, hline, halike, hstack, hidle'⟩ := h
  have hrest' : lx'.rest ≠ [] := by
    rwa [← List.length_pos_iff, ← halike.length_eq, List.length_pos_iff]
  have hfires := firstFiring?_rel (Q := fun _ => Match.Alike) fun rule hrule =>
    (l.caseless_of_mem lx.stack.top rule hrule).fires?_rel lx.lineStart halike
  refine ⟨hrest', ?_⟩
  rcases step_pair l.grammar (Q := fun _ => Match.Alike) (by rw [hstack]) hline hrest hrest'
      hfires with
    ⟨rule, -, m, m', hm, u, u', htext, hstop, htext', hstop', hstep, hstep'⟩ |
    ⟨c, rest, c', rest', -, hc, hc', hstep, hstep'⟩
  · -- The matches have the same extent, so they cut alike texts from alike texts.
    have hu : u.Alike u' := by
      have htake := halike.takeBytes m.stop
      rwa [htext, hstop, Text.takeBytes_size_append, htext', ← hstop, hm.stop, hstop',
        Text.takeBytes_size_append] at htake
    rw [hstep, hstep', hidle.pending_consume, hidle'.pending_consume, hcursor]
    refine ⟨rule.action.tokens_alike lx.cursor hu hm, ?_, hu.getLast?_beq.symm, hm.rest, ?_, rfl⟩
    · simp only [settle_cursor, consume, hcursor, hu.size_eq]
    · simp only [settle_stack, consume, hstack]
  · rw [hc, hc'] at halike
    have hchar : Text.Alike [c] [c'] := .cons (List.forall₂_cons.mp halike).1 .nil
    rw [hstep, hstep', hidle.pending_consume, hidle'.pending_consume, hcursor]
    refine ⟨.cons (.at hchar ..) .nil, ?_, hchar.getLast?_beq.symm, (List.forall₂_cons.mp halike).2,
      ?_, rfl⟩
    · simp only [settle_cursor, consume, hcursor, hchar.size_eq]
    · simp only [settle_stack, consume, hstack]

/-! ## Alike sources -/

/-- Sources that are equal up to the case of ASCII letters have tokens of the same categories and
extents, one by one. -/
theorem Language.tokenize_eqIgnoreCase (l : Language) {s t : Text}
    (h : Text.eqIgnoreCase s t = true) :
    List.Forall₂ Token.Alike (tokenize l.grammar s) (tokenize l.grammar t) := by
  obtain ⟨lx, hscans, hend⟩ := scans_tokenize l.grammar s
  obtain ⟨tokens, lx', hscans', htokens, halike⟩ := hscans.simulate
    (fun _ _ halike => halike.idle) (fun _ _ hidle hrest halike => halike.step l hidle hrest)
    (show (Lexer.start l.grammar s).Alike (Lexer.start l.grammar t) from
      ⟨rfl, rfl, .of_eqIgnoreCase h, rfl, rfl⟩)
  have hend' : lx'.rest = [] := by
    rw [← List.length_eq_zero_iff, ← halike.rest.length_eq, hend]
    rfl
  rwa [tokenize_of_scans hscans' hend']

/-- A directive in two cases. -/
theorem Language.tokenize_eqIgnoreCase_run :
    Text.eqIgnoreCase "Run eCho".toList "rUN Echo".toList = true ∧
      List.Forall₂ Token.Alike (tokenize pdfile.grammar "Run eCho".toList)
        (tokenize pdfile.grammar "rUN Echo".toList) :=
  ⟨by decide, tokenize_eqIgnoreCase pdfile (by decide)⟩

end Highlighter
