import Highlighter.Proofs.Grammar.Lines
import Highlighter.Proofs.Scan.Calls

/-!
# Inner states between calls

A scan under a built-in grammar has one or two states open, and has left the inner
state as soon as a comment or an unescaped line end was handed out.  The states change
with a step, before the tokens of the step are handed out, so the invariant
(`Language.Handing`) is about the tokens that wait as well.
-/

namespace Highlighter

/-- A token that ends the inner state: a comment, or blanks with a line end. -/
def Token.EndsState (t : Token) : Prop :=
  t.category = .comment ∨ t.category = .whitespace ∧ '\n' ∈ t.text

/-- A token of an escaped line end. -/
def Token.EscapesLineEnd (t : Token) : Prop :=
  t.category = .constant ∧ (t.text = ['\\', '\n'] ∨ t.text = ['\\', '\r', '\n'])

namespace Language

/-- What holds between the calls of a scan. -/
structure Handing (l : Language) (lx : Lexer) : Prop where
  /-- The entry state is open, and at most one inner state on it. -/
  levels : lx.stack.OnLevels l.grammar l.innerStates
  /-- Where a token waits that ends the inner state, that state is left already. -/
  left : ∀ t ∈ lx.pending, t.EndsState → lx.stack = ⟨l.grammar.entry, []⟩
  /-- A line end that waits is among blanks or escaped. -/
  lineEnd : ∀ t ∈ lx.pending, '\n' ∈ t.text → t.category = .whitespace ∨ t.EscapesLineEnd

variable {l : Language} {lx : Lexer}

theorem handing_start (l : Language) (source : Text) :
    l.Handing (Lexer.start l.grammar source) where
  levels := .entry
  left := by simp [Lexer.start]
  lineEnd := by simp [Lexer.start]

/-- A step puts tokens in line that keep the invariant. -/
theorem Handing.step (h : l.Handing lx) (hidle : lx.Idle) (hrest : lx.rest ≠ []) :
    l.Handing (lx.step l.grammar) := by
  have hlevels := Lexer.onLevels_step l.twoLevel h.levels
  cases l.lineStep hidle hrest h.levels with
  | inLine hnone =>
    refine ⟨hlevels, fun t ht hends => ?_, fun t ht hmem => absurd hmem (hnone t ht).1⟩
    rcases hends with hcomment | ⟨-, hmem⟩
    · exact absurd hcomment (hnone t ht).2
    · exact absurd hmem (hnone t ht).1
  | comment _ hpending hstack =>
    refine ⟨hlevels, fun _ _ _ => hstack, fun t ht hmem => ?_⟩
    rw [hpending] at ht
    obtain rfl := List.mem_singleton.mp ht
    rcases List.mem_cons.mp hmem with hc | hmem
    · cases hc
    · exact absurd (List.mem_takeWhile_imp hmem) (by decide)
  | blanks _ _ hpending hstack =>
    refine ⟨hlevels, fun _ _ _ => hstack, fun t ht _ => ?_⟩
    rw [hpending] at ht
    obtain rfl := List.mem_singleton.mp ht
    exact Or.inl rfl
  | @escape u _ hescape hpending _ =>
    refine ⟨hlevels, fun t ht hends => ?_, fun t ht hmem => ?_⟩ <;> rw [hpending] at ht <;>
      obtain rfl := List.mem_singleton.mp ht
    · rcases hends with hcomment | ⟨hblank, -⟩
      · cases hcomment
      · cases hblank
    · refine Or.inr ⟨rfl, ?_⟩
      rcases (Text.escape?_cases hescape).2 with hu | ⟨c, hu⟩
      · exact Or.inr hu
      · obtain rfl : u = ['\\', c] := hu
        obtain rfl : c = '\n' := by simpa [Token.at, eq_comm] using hmem
        exact Or.inl rfl

theorem Handing.of_cons {t : Token} {more : List Token} (h : l.Handing lx)
    (hpending : lx.pending = t :: more) : l.Handing { lx with pending := more } where
  levels := h.levels
  left t' ht' := h.left t' (hpending ▸ List.mem_cons_of_mem t ht')
  lineEnd t' ht' := h.lineEnd t' (hpending ▸ List.mem_cons_of_mem t ht')

/-- A call keeps the invariant, and what it hands out was in line with it. -/
theorem Handing.next (h : l.Handing lx) : l.Handing (lx.next l.grammar).2 ∧
    ∀ t ∈ (lx.next l.grammar).1,
      (t.EndsState → (lx.next l.grammar).2.stack = ⟨l.grammar.entry, []⟩) ∧
      ('\n' ∈ t.text → t.category = .whitespace ∨ t.EscapesLineEnd) := by
  rcases lx.next_cases l.grammar with ⟨-, -, hnext⟩ |
    ⟨lx₀, t, more, hlx₀, hpending, hnext⟩
  · rw [hnext]
    exact ⟨h, by simp⟩
  · have h₀ : l.Handing lx₀ := by
      rcases hlx₀ with rfl | ⟨hidle, hrest, rfl⟩
      · exact h
      · exact h.step hidle hrest
    have hmem : t ∈ lx₀.pending := hpending ▸ List.mem_cons_self ..
    rw [hnext]
    refine ⟨h₀.of_cons hpending, fun t' ht' => ?_⟩
    cases ht'
    exact ⟨h₀.left t hmem, h₀.lineEnd t hmem⟩

theorem handing_after (l : Language) (source : Text) (n : Nat) :
    l.Handing ((Lexer.start l.grammar source).after l.grammar n) := by
  induction n with
  | zero => exact l.handing_start source
  | succ n ih =>
    rw [Lexer.after_succ]
    exact ih.next.1

/-- After any number of calls one or two states are open, and it is one exactly in the entry
state.  When a call has handed out a comment or blanks with a line end, the entry state alone is
open, and no other token has a line end but an escape. -/
theorem inner_state_left (l : Language) (source : Text) (n : Nat) :
    let lx := (Lexer.start l.grammar source).after l.grammar n
    (lx.depth = 1 ∨ lx.depth = 2) ∧ (lx.depth = 1 ↔ lx.currentState = "root") ∧
    ∀ t lx', lx.next l.grammar = (some t, lx') →
      (t.category = .comment ∨ t.category = .whitespace ∧ '\n' ∈ t.text →
        lx'.currentState = "root" ∧ lx'.depth = 1) ∧
      ('\n' ∈ t.text → t.category = .whitespace ∨
        t.category = .constant ∧ (t.text = ['\\', '\n'] ∨ t.text = ['\\', '\r', '\n'])) := by
  intro lx
  have h : l.Handing lx := l.handing_after source n
  have hlevels : (lx.depth = 1 ∨ lx.depth = 2) ∧ (lx.depth = 1 ↔ lx.currentState = "root") := by
    have hstack := h.levels
    rw [Lexer.depth, Lexer.currentState]
    generalize lx.stack = stack at hstack
    cases hstack with
    | entry => exact ⟨Or.inl rfl, iff_of_true rfl l.entry_eq⟩
    | inner hstate =>
      exact ⟨Or.inr rfl, iff_of_false (by simp [Stack.depth])
        (l.ne_root_of_mem_innerStates _ hstate)⟩
  refine ⟨hlevels.1, hlevels.2, fun t lx' hnext => ?_⟩
  have hcall := h.next.2
  rw [hnext] at hcall
  obtain ⟨hleft, hlineEnd⟩ := hcall t rfl
  refine ⟨fun hends => ?_, hlineEnd⟩
  have hstack : lx'.stack = ⟨l.grammar.entry, []⟩ := hleft hends
  rw [Lexer.currentState, Lexer.depth, hstack]
  exact ⟨l.entry_eq, rfl⟩

/-- The line end after a command leaves the state of the command. -/
theorem inner_state_left_newline :
    let lx := (Lexer.start pdfile.grammar ['D', 'O', ' ', 'x', '\n']).after pdfile.grammar 3
    let t : Token := ⟨.whitespace, 4, 5, ['\n']⟩
    lx.depth = 2 ∧ ∃ lx', lx.next pdfile.grammar = (some t, lx') ∧ '\n' ∈ t.text ∧
      lx'.currentState = "root" ∧ lx'.depth = 1 := by
  intro lx t
  have hgrammar : pdfile.grammar = Pdfile.table := pdfileGrammar_eq
  have hlx : lx = ⟨4, false, ['\n'], ⟨Pdfile.shellCommandBody, [Pdfile.root]⟩, []⟩ := by
    simp only [lx, hgrammar]
    decide +kernel
  have hnext : lx.next pdfile.grammar = (some t, ⟨5, true, [], ⟨Pdfile.root, []⟩, []⟩) := by
    rw [hlx, hgrammar]
    decide +kernel
  have hleft := ((inner_state_left pdfile ['D', 'O', ' ', 'x', '\n'] 3).2.2 t _ hnext).1
  exact ⟨by rw [hlx]; rfl, _, hnext, by decide, hleft (.inr ⟨rfl, by decide⟩)⟩

end Language

end Highlighter
