import Highlighter.Proofs.Scan.Run

/-!
# Grammars of two levels

In a grammar of two levels the rules of the entry state at most enter one of some
inner states, and the rules of an inner state at most leave it.  So a scan has the
entry state open and at most one inner state on it (`Lexer.Scans.onLevels`).
-/

namespace Highlighter

/-- The rules of the entry state enter inner states, and those of inner states leave them. -/
structure Grammar.TwoLevel (g : Grammar) (inner : List String) : Prop where
  /-- A rule of the entry state leaves the stack alone or enters an inner state. -/
  entry : ∀ rule ∈ g.rulesOf g.entry,
    rule.transition = .stay ∨ ∃ state ∈ inner, rule.transition = .push state
  /-- A rule of an inner state leaves the stack alone or leaves the state. -/
  inner : ∀ state ∈ inner, ∀ rule ∈ g.rulesOf state,
    rule.transition = .stay ∨ rule.transition = .pop

/-- The entry state alone, or an inner state on it. -/
inductive Stack.OnLevels (g : Grammar) (inner : List String) : Stack → Prop where
  /-- The entry state alone. -/
  | entry : Stack.OnLevels g inner ⟨g.entry, []⟩
  /-- An inner state on the entry state. -/
  | inner {state : String} : state ∈ inner → Stack.OnLevels g inner ⟨state, [g.entry]⟩

section Levels

variable {g : Grammar} {inner : List String}

/-- A rule of the innermost state keeps the stack on two levels. -/
theorem Stack.OnLevels.apply (hg : g.TwoLevel inner) {s : Stack} (h : s.OnLevels g inner)
    {rule : BuiltRule} (hrule : rule ∈ g.rulesOf s.top) :
    (s.apply rule.transition).OnLevels g inner := by
  cases h with
  | entry =>
    rcases hg.entry rule hrule with ht | ⟨state, hstate, ht⟩
    · rw [ht]
      exact .entry
    · rw [ht]
      exact .inner hstate
  | inner hstate =>
    rcases hg.inner _ hstate rule hrule with ht | ht
    · rw [ht]
      exact .inner hstate
    · rw [ht]
      exact .entry

theorem Lexer.onLevels_step (hg : g.TwoLevel inner) {lx : Lexer}
    (h : lx.stack.OnLevels g inner) : (lx.step g).stack.OnLevels g inner := by
  by_cases hrest : lx.rest = []
  · rw [Lexer.step, hrest]
    cases hfire : firstFiring? lx.lineStart [] (g.rulesOf lx.stack.top) with
    | none => exact h
    | some found => exact h.apply hg (firstFiring?_eq_some hfire).1
  · rcases Lexer.step_cases g lx hrest with ⟨rule, m, u, hfire, -, -, -, -, hstep⟩ |
      ⟨c, rest, -, -, hstep⟩
    · rw [hstep]
      exact h.apply hg (firstFiring?_eq_some hfire).1
    · rw [hstep]
      exact h

/-- A scan keeps the stack on two levels. -/
theorem Lexer.Scans.onLevels (hg : g.TwoLevel inner) {lx lx' : Lexer} {tokens : List Token}
    (hscans : lx.Scans g tokens lx') (h : lx.stack.OnLevels g inner) :
    lx'.stack.OnLevels g inner := by
  induction hscans with
  | refl _ => exact h
  | step _ _ _ ih => exact ih (Lexer.onLevels_step hg h)

end Levels

end Highlighter
