import Highlighter.Proofs.Grammar.States
import Highlighter.Proofs.Scan.Calls

/-!
# Taking a scan up again

A scan keeps nothing of the text it has read but whether a line starts where it
stands.  So two scans that stand idle before the same text, in the same states, give
the same tokens from there on, and a scan that is back in the entry state at a line
start goes on as if its source started there.
-/

namespace Highlighter

namespace Lexer

/-- Two idle scans of any sources with the same text left, the same stack, and a line start at
both or at neither give the same from there on.  An idle scan at a line start with only the entry
state open goes on as the scan of the text that is left. -/
theorem sameCalls_of_rest (g : Grammar) :
    (∀ (source source' : Text) (lx lx' : Lexer),
      Reachable g source lx → Reachable g source' lx' → lx.Idle → lx'.Idle →
      lx'.stack = lx.stack →
      source'.dropBytes lx'.cursor = source.dropBytes lx.cursor →
      startsLine? source' lx'.cursor = startsLine? source lx.cursor → SameCalls g lx lx') ∧
    (∀ (source : Text) (lx : Lexer), Reachable g source lx → lx.Idle →
      lx.stack = ⟨g.entry, []⟩ → startsLine? source lx.cursor = some true →
      (lx.drain g).1 =
        (tokenize g (source.dropBytes lx.cursor)).map (Token.moved lx.cursor)) := by
  refine ⟨?_, ?_⟩
  · intro source source' lx lx' hreach hreach' hidle hidle' hstack hrest hline
    obtain ⟨read, hread⟩ := hreach.within
    obtain ⟨read', hread'⟩ := hreach'.within
    rw [hread.dropBytes_eq, hread'.dropBytes_eq] at hrest
    rw [hread.startsLine?_eq, hread'.startsLine?_eq, Option.some.injEq] at hline
    have hbase : ({ lx' with cursor := 0 } : Lexer) = { lx with cursor := 0 } := by
      simp only [hrest, hline, hstack, Lexer.mk.injEq, true_and]
      rw [hidle, hidle']
    rw [hidle.eq_moved, hidle'.eq_moved, hbase]
    exact sameCalls_moved g _ rfl lx.cursor lx'.cursor
  · intro source lx hreach hidle hstack hline
    obtain ⟨read, hread⟩ := hreach.within
    rw [hread.startsLine?_eq, Option.some.injEq] at hline
    have hbase : ({ lx with cursor := 0 } : Lexer) = start g lx.rest := by
      rw [start, ← hline, ← hstack]
      simp only [Lexer.mk.injEq, true_and]
      exact hidle
    rw [hread.dropBytes_eq, tokenize]
    conv_lhs => rw [hidle.eq_moved, hbase]
    rw [drain_moved g lx.cursor (idle_start g lx.rest)]

/-- The scan of an empty line and a word, after the empty line, and the scan of the word. -/
theorem sameCalls_of_rest_newline :
    let g := Language.pdfile.grammar
    let lx := ((start g ['\n', 'a']).next g).2
    let lx' := start g ['a']
    (Reachable g ['\n', 'a'] lx ∧ Reachable g ['a'] lx' ∧ lx.Idle ∧ lx'.Idle ∧
      lx'.stack = lx.stack ∧
      Text.dropBytes lx'.cursor ['a'] = Text.dropBytes lx.cursor ['\n', 'a'] ∧
      startsLine? ['a'] lx'.cursor = startsLine? ['\n', 'a'] lx.cursor ∧
      lx.stack = ⟨g.entry, []⟩ ∧ startsLine? ['\n', 'a'] lx.cursor = some true) ∧
    SameCalls g lx lx' ∧
    (lx.drain g).1 =
      (tokenize g (Text.dropBytes lx.cursor ['\n', 'a'])).map (Token.moved lx.cursor) := by
  intro g lx lx'
  have hstep : (start g ['\n', 'a']).step g =
      ⟨1, true, ['a'], ⟨Pdfile.root, []⟩, [⟨.whitespace, 0, 1, ['\n']⟩]⟩ := by
    rw [show g = Pdfile.table from Language.pdfileGrammar_eq, step,
      show Pdfile.table.rulesOf _ = Pdfile.rootTable from rfl, start,
      Pdfile.firstFiring?_root_of_blank _ _ (by decide)]
    rfl
  have hlx : lx = ⟨1, true, ['a'], ⟨Pdfile.root, []⟩, []⟩ := by
    have hpending : ((start g ['\n', 'a']).step g).pending = [⟨.whitespace, 0, 1, ['\n']⟩] := by
      rw [hstep]
    have hrest : (start g ['\n', 'a']).rest ≠ [] := by simp [start]
    simp only [lx]
    rw [next_of_idle g (idle_start g _) hrest, next_of_pending g hpending, hstep]
  have hentry : g.entry = Pdfile.root := by
    rw [show g = Pdfile.table from Language.pdfileGrammar_eq]
    rfl
  have hstack : lx.stack = ⟨g.entry, []⟩ := by rw [hlx, hentry]
  have hreach : Reachable g ['\n', 'a'] lx := .next .start
  have hidle : lx.Idle := by rw [hlx]; rfl
  have hrest : Text.dropBytes lx'.cursor ['a'] = Text.dropBytes lx.cursor ['\n', 'a'] := by
    rw [hlx]
    rfl
  have hline : startsLine? ['\n', 'a'] lx.cursor = some true := by
    rw [hlx]
    rfl
  have hline' : startsLine? ['a'] lx'.cursor = startsLine? ['\n', 'a'] lx.cursor := by
    rw [hline]
    rfl
  exact ⟨⟨hreach, .start, hidle, rfl, hstack.symm, hrest, hline', hstack, hline⟩,
    (sameCalls_of_rest g).1 _ _ lx lx' hreach .start hidle rfl hstack.symm hrest hline',
    (sameCalls_of_rest g).2 _ lx hreach hidle hstack hline⟩

end Lexer

end Highlighter
