import Highlighter.Proofs.Grammar.Runs
import Highlighter.Proofs.Grammar.States
import Highlighter.Proofs.Scan.Simulation

/-!
# Scanning line by line

A source may be cut where a line ends and no inner state is open, if the next line
does not start with a blank.  The tokens of the source are then those of the part
before the cut and those of the part after it.

Before the cut every rule finds the same match with and without the part after it.
For most kinds of rules this is so because a match does not go beyond the end of its
line.  A run of blanks does, but it stops at the cut, and an escape is never cut
since the last character is a line end.  After the cut the scan is the scan of the
second part, moved.
-/

namespace Highlighter

open Pattern

/-! ## Matches before the cut -/

/-- A text that ends with a line end has a first one. -/
theorem Text.exists_line {t : Text} (h : t.getLast? = some '\n') :
    ∃ u v : Text, t = u ++ '\n' :: v := by
  obtain ⟨u, v, huv⟩ := List.append_of_mem (List.mem_of_getLast? h)
  exact ⟨u, v, huv⟩

section Rules

variable {t B : Text} {lineStart : Bool}

/-- Twins before a line end are twins before the cut. -/
theorem Match.Twins.before_cut {v : Text} {m m' : Match}
    (h : m.Twins ('\n' :: v) ('\n' :: (v ++ B)) m') : m.Twins [] B m' := by
  obtain ⟨w, hw, hw'⟩ := h.rest
  exact ⟨h.start, h.stop, h.captures, w ++ '\n' :: v, by simp [hw], by simp [hw']⟩

/-- A rule that accepts no line end finds the same match with and without the part after the
cut. -/
theorem fires?_append_of_accepts {rule : BuiltRule} {p : Pattern} (hp : rule.pattern = p.tied)
    (haccepts : p.accepts '\n' = false) (hlook : ∀ q ∈ rule.followedBy, ∃ q', q = Pattern.tied q' ∧
      q'.accepts '\n' = false) (ht : t.getLast? = some '\n') :
    Option.Rel (Match.Twins [] B) (rule.fires? lineStart t) (rule.fires? lineStart (t ++ B)) := by
  obtain ⟨u, v, rfl⟩ := Text.exists_line ht
  have htwins : Option.Rel (Match.Twins ('\n' :: v) ('\n' :: (v ++ B)))
      (rule.fires? lineStart (u ++ '\n' :: v)) (rule.fires? lineStart (u ++ '\n' :: (v ++ B))) :=
    BuiltRule.fires?_twins (x := '\n' :: v) (y := '\n' :: (v ++ B)) hp (p.blind_refl _)
    (stays_of_accepts haccepts _) (stays_of_accepts haccepts _) u
    (by
      intro q hq w
      obtain ⟨q', rfl, hq'⟩ := hlook q hq
      exact matches_eq_of_twins (x := '\n' :: v) (y := '\n' :: (v ++ B)) (q'.blind_refl _)
        (stays_of_accepts hq' _) (stays_of_accepts hq' _) w)
  rw [List.append_assoc, List.cons_append]
  generalize rule.fires? lineStart (u ++ '\n' :: v) = m at htwins
  generalize rule.fires? lineStart (u ++ '\n' :: (v ++ B)) = m' at htwins
  cases htwins with
  | none => exact .none
  | some h => exact .some h.before_cut

/-- A rule that accepts only blanks finds the same match with and without the part after the
cut. -/
theorem fires?_append_of_blank {rule : BuiltRule} {p : Pattern} (hp : rule.pattern = p.tied)
    (hblind : ∀ c d, p.Blind c d) (haccepts : ∀ c, p.accepts c = true → isBlank c = true)
    (hlook : rule.followedBy = none) (hB : ∀ c ∈ B.head?, isBlank c = false) :
    Option.Rel (Match.Twins [] B) (rule.fires? lineStart t) (rule.fires? lineStart (t ++ B)) := by
  have hstays : p.Stays B := by
    cases B with
    | nil => exact p.stays_nil
    | cons c B =>
      refine stays_of_accepts ?_ B
      by_contra hc
      have := haccepts c (by simpa using hc)
      rw [hB c rfl] at this
      exact Bool.noConfusion this
  have htwins : Option.Rel (Match.Twins [] B) (rule.fires? lineStart (t ++ []))
      (rule.fires? lineStart (t ++ B)) :=
    BuiltRule.fires?_twins hp (hblind _ _) p.stays_nil hstays t (by simp [hlook])
  rwa [List.append_nil] at htwins

/-- Every kind of rule finds the same match with and without the part after the cut. -/
theorem BuiltRule.Kind.fires?_append {rule : BuiltRule} (h : rule.Kind)
    (ht : t.getLast? = some '\n') (hB : ∀ c ∈ B.head?, isBlank c = false) :
    Option.Rel (Match.Twins [] B) (rule.fires? lineStart t) (rule.fires? lineStart (t ++ B)) := by
  cases h with
  | lined hp hq =>
    refine fires?_append_of_accepts rfl hp.newline ?_ ht
    intro q hmem
    cases hq with
    | none => cases hmem
    | oneLine hq =>
      cases hmem
      exact ⟨_, rfl, hq.newline⟩
    | lineEnd =>
      cases hmem
      exact ⟨_, rfl, rfl⟩
  | blanks =>
    refine fires?_append_of_blank rfl (fun _ _ => ⟨trivial, trivial⟩) (fun c hc => ?_) rfl hB
    simpa [plus, accepts, CharSet.holds] using hc
  | run hs hs' hr =>
    refine fires?_append_of_accepts rfl ?_ (by simp) ht
    rw [accepts, accepts, accepts, hs, hs']
    rfl
  | newline =>
    refine fires?_append_of_blank rfl (fun _ _ => ⟨⟨trivial, trivial⟩, trivial⟩) (fun c hc => ?_)
      rfl hB
    have hc : c = '\r' ∨ c = '\n' := by
      simpa [Pattern.newline, opt, accepts, CharSet.holds] using hc
    rcases hc with rfl | rfl <;> rfl
  | escape =>
    have hescape := find_escape_append (t := t) (B := B) (by rintro rfl; cases ht)
      (by rintro rfl; exact absurd ht (by decide)) (by rintro rfl; exact absurd ht (by decide))
    exact BuiltRule.fires?_rel (fun m m' h => h.isEmpty) (by simp) hescape
  | anyChar => exact fires?_append_of_accepts rfl rfl (by simp) ht

end Rules

/-! ## Scans before the cut -/

/-- The scan of a part before the cut, and the scan of the whole at the same point. -/
structure Lexer.BeforeCut (B : Text) (lx lx' : Lexer) : Prop where
  /-- What is left of the part ends with a line end. -/
  line : lx.rest = [] ∨ lx.rest.getLast? = some '\n'
  /-- The whole goes on after the part. -/
  whole : lx' = { lx with rest := lx.rest ++ B }
  /-- No token waits. -/
  idle : lx.Idle

theorem Lexer.BeforeCut.step {g : Grammar} (hkinds : ∀ state, ∀ rule ∈ g.rulesOf state, rule.Kind)
    {B : Text} (hB : ∀ c ∈ B.head?, isBlank c = false) {lx lx' : Lexer} (h : lx.BeforeCut B lx')
    (hrest : lx.rest ≠ []) :
    lx'.rest ≠ [] ∧ (lx'.step g).pending = (lx.step g).pending ∧
      (lx.step g).settle.BeforeCut B (lx'.step g).settle := by
  obtain ⟨hline, hwhole, hidle⟩ := h
  have hlast : lx.rest.getLast? = some '\n' := hline.resolve_left hrest
  have hstep : lx'.step g = (lx.step g).append B := by
    rw [hwhole]
    exact step_append g hrest fun rule hrule => (hkinds _ rule hrule).fires?_append hlast hB
  refine ⟨by simp [hwhole, hrest], by rw [hstep]; rfl, ?_, by rw [hstep]; rfl, rfl⟩
  obtain ⟨u, -, hu, -⟩ := exists_step_reads g hidle hrest
  by_cases hnext : (lx.step g).rest = []
  · exact Or.inl hnext
  · rw [hu, List.getLast?_append_of_ne_nil _ hnext] at hlast
    exact Or.inr hlast

/-! ## The cut -/

/-- A part that ends with a line end and leaves only the entry state open, and a part after it
that does not start with a blank, are scanned one after the other. -/
theorem Language.tokenize_append (l : Language) (P B : Text) (hline : P.getLast? = some '\n')
    (hstate : ((Lexer.start l.grammar P).drain l.grammar).2.currentState = l.grammar.entry)
    (hdepth : ((Lexer.start l.grammar P).drain l.grammar).2.depth = 1)
    (hB : ∀ c ∈ B.head?, isBlank c = false) :
    tokenize l.grammar (P ++ B) =
      tokenize l.grammar P ++ (tokenize l.grammar B).map (Token.moved P.size) := by
  obtain ⟨hscans, hend⟩ := Lexer.scans_drain l.grammar (Lexer.idle_start l.grammar P)
  obtain ⟨tokens, lx', hscans', htokens, hcut⟩ := hscans.simulate (R := Lexer.BeforeCut B) (T := Eq)
    (fun lx lx' h => by rw [Lexer.Idle, h.whole]; exact h.idle)
    (fun lx lx' _ hrest h => by
      obtain ⟨hrest', hpending, hnext⟩ := h.step l.kind_of_mem hB hrest
      exact ⟨hrest', List.forall₂_eq_eq_eq ▸ hpending.symm, hnext⟩)
    (show (Lexer.start l.grammar P).BeforeCut B (Lexer.start l.grammar (P ++ B)) from
      ⟨Or.inr hline, rfl, rfl⟩)
  -- What is left is a scan of the second part, moved behind the first.
  have hmoved : lx' = (Lexer.start l.grammar B).moved P.size := by
    generalize ((Lexer.start l.grammar P).drain l.grammar).2 = lx at *
    obtain ⟨u, hu, hcursor, -⟩ := hscans.exists_reads
    obtain ⟨v, hv, hlineStart⟩ := hscans.lineStart_eq
    rw [hend, List.append_nil] at hu hv
    have hu : P = u := hu
    have hv : P = v := hv
    rw [← hv, hline] at hlineStart
    rw [← hu] at hcursor
    have hbelow : lx.stack.below = [] := by
      simpa [Lexer.depth, Stack.depth] using hdepth
    rw [hcut.whole]
    cases lx with
    | mk cursor lineStart rest stack pending =>
      obtain rfl : pending = [] := hcut.idle
      obtain rfl : rest = [] := hend
      cases stack with
      | mk top below =>
        obtain rfl : below = [] := hbelow
        obtain rfl : top = l.grammar.entry := hstate
        obtain rfl : lineStart = true := hlineStart
        obtain rfl : cursor = P.size := by simpa [Lexer.start] using hcursor
        simp [Lexer.moved, Lexer.start]
  have hparts : tokens = tokenize l.grammar P := by
    rw [List.forall₂_eq_eq_eq] at htokens
    exact htokens.symm
  rw [tokenize, Lexer.drain_eq_of_scans hscans', hmoved,
    Lexer.drain_moved l.grammar P.size (Lexer.idle_start l.grammar B), hparts]
  rfl

/-- A comment line, and a directive after it. -/
theorem Language.tokenize_append_comment :
    let P : Text := ['#', 'a', '\n']
    let B : Text := ['T', 'A', 'G', ' ', 'b']
    P.getLast? = some '\n' ∧
      ((Lexer.start pdfile.grammar P).drain pdfile.grammar).2.currentState =
        pdfile.grammar.entry ∧
      ((Lexer.start pdfile.grammar P).drain pdfile.grammar).2.depth = 1 ∧
      (∀ c ∈ B.head?, isBlank c = false) ∧
      tokenize pdfile.grammar (P ++ B) =
        tokenize pdfile.grammar P ++ (tokenize pdfile.grammar B).map (Token.moved P.size) := by
  have hcomment : (Lexer.start Pdfile.table ['#', 'a', '\n']).step Pdfile.table =
      ⟨2, false, ['\n'], ⟨Pdfile.root, []⟩, [⟨.comment, 0, 2, ['#', 'a']⟩]⟩ := by
    rw [Lexer.step, show Pdfile.table.rulesOf _ = Pdfile.rootTable from rfl, Lexer.start,
      Pdfile.firstFiring?_root_of_hash]
    rfl
  have hnewline : (⟨2, false, ['\n'], ⟨Pdfile.root, []⟩, []⟩ : Lexer).step Pdfile.table =
      ⟨3, true, [], ⟨Pdfile.root, []⟩, [⟨.whitespace, 2, 3, ['\n']⟩]⟩ := by
    rw [Lexer.step, show Pdfile.table.rulesOf _ = Pdfile.rootTable from rfl,
      Pdfile.firstFiring?_root_of_blank _ _ (by decide)]
    rfl
  have hscans : (Lexer.start Pdfile.table ['#', 'a', '\n']).Scans Pdfile.table
      [⟨.comment, 0, 2, ['#', 'a']⟩, ⟨.whitespace, 2, 3, ['\n']⟩]
      ⟨3, true, [], ⟨Pdfile.root, []⟩, []⟩ :=
    .step_eq hcomment rfl (by simp [Lexer.start]) (.step_eq hnewline rfl (by simp) (.refl rfl))
  have hend := Lexer.drain_of_scans hscans rfl
  have hgrammar : pdfile.grammar = Pdfile.table := pdfileGrammar_eq
  have hstate : ((Lexer.start pdfile.grammar ['#', 'a', '\n']).drain
      pdfile.grammar).2.currentState = pdfile.grammar.entry := by
    rw [hgrammar, hend]
    rfl
  have hdepth : ((Lexer.start pdfile.grammar ['#', 'a', '\n']).drain
      pdfile.grammar).2.depth = 1 := by
    rw [hgrammar, hend]
    rfl
  have hB : ∀ c ∈ (['T', 'A', 'G', ' ', 'b'] : Text).head?, isBlank c = false := by
    rintro c ⟨⟩
    decide
  exact ⟨rfl, hstate, hdepth, hB, tokenize_append pdfile _ _ rfl hstate hdepth hB⟩

end Highlighter
