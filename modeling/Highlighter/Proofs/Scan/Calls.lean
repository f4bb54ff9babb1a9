import Highlighter.Proofs.Scan.Simulation
import Highlighter.Proofs.Scan.Slices

/-!
# Calls

A caller sees a scan through `Lexer.next`, one token at a time.  `lx.after g n` is
the scan after `n` more calls, so the scans a caller can hold are those after some
number of calls from the start of a source (`Lexer.reachable_iff`).

What the calls give is settled by the text that is left, the stack, the tokens that
wait and whether a line starts.  Two idle scans with the same of these are one scan
moved to two positions, and a call commutes with moving (`Lexer.next_moved`).
-/

namespace Highlighter

/-- Two tokens with the same characters at positions that are as far from `k` as from `k'`. -/
structure Token.Shifted (k k' : Nat) (t t' : Token) : Prop where
  category : t'.category = t.category
  text : t'.text = t.text
  start : t'.start + k = t.start + k'
  stop : t'.stop + k = t.stop + k'

theorem Token.shifted_moved (k k' : Nat) (t : Token) : (t.moved k).Shifted k k' (t.moved k') where
  category := rfl
  text := rfl
  start := by simp only [Token.moved]; omega
  stop := by simp only [Token.moved]; omega

namespace Lexer

variable {g : Grammar} {source source' : Text} {lx lx' : Lexer}

/-- The scan after some more calls. -/
def after (g : Grammar) : Nat → Lexer → Lexer
  | 0, lx => lx
  | n + 1, lx => after g n (lx.next g).2

theorem after_succ (g : Grammar) (n : Nat) (lx : Lexer) :
    lx.after g (n + 1) = ((lx.after g n).next g).2 := by
  induction n generalizing lx with
  | zero => rfl
  | succ n ih =>
    rw [after, ih]
    rfl

/-- A scan is reachable when a number of calls from the start leads to it. -/
theorem reachable_iff : Reachable g source lx ↔ ∃ n, lx = (start g source).after g n := by
  constructor
  · intro h
    induction h with
    | start => exact ⟨0, rfl⟩
    | next _ ih =>
      obtain ⟨n, rfl⟩ := ih
      exact ⟨n + 1, (after_succ g n _).symm⟩
  · rintro ⟨n, rfl⟩
    induction n with
    | zero => exact .start
    | succ n ih =>
      rw [after_succ]
      exact .next ih

/-! ## Calls of a moved scan -/

/-- A call does not look at the position. -/
theorem next_moved (g : Grammar) (k : Nat) (lx : Lexer) :
    (lx.moved k).next g = ((lx.next g).1.map (Token.moved k), (lx.next g).2.moved k) := by
  cases hpending : lx.pending with
  | cons t more =>
    have hmoved : (lx.moved k).pending = t.moved k :: more.map (Token.moved k) := by
      rw [moved, hpending]
      rfl
    rw [next_of_pending g hpending, next_of_pending g hmoved]
    rfl
  | nil =>
    have hidle : (lx.moved k).Idle := by
      rw [Idle, moved, hpending]
      rfl
    by_cases hrest : lx.rest = []
    · rw [next_of_rest_nil g hpending hrest, next_of_rest_nil g hidle hrest]
      rfl
    · obtain ⟨t, more, hstep⟩ := List.exists_cons_of_ne_nil (step_pending_ne_nil g hpending hrest)
      have hmoved : ((lx.step g).moved k).pending = t.moved k :: more.map (Token.moved k) := by
        rw [moved, hstep]
        rfl
      rw [next_of_idle g hpending hrest, next_of_idle g hidle hrest, step_moved,
        next_of_pending g hstep, next_of_pending g hmoved]
      rfl

theorem after_moved (g : Grammar) (k n : Nat) (lx : Lexer) :
    (lx.moved k).after g n = (lx.after g n).moved k := by
  induction n generalizing lx with
  | zero => rfl
  | succ n ih => rw [after, after, next_moved, ih]

/-! ## Scans with the same calls -/

/-- Whatever number of calls is made on two scans, the next one gives the same token on both, at
positions as far from their cursors, and their stacks look the same. -/
structure SameCalls (g : Grammar) (lx lx' : Lexer) : Prop where
  next : ∀ n, Option.Rel (Token.Shifted lx.cursor lx'.cursor)
    ((lx.after g n).next g).1 ((lx'.after g n).next g).1
  currentState : ∀ n, (lx'.after g n).currentState = (lx.after g n).currentState
  depth : ∀ n, (lx'.after g n).depth = (lx.after g n).depth

theorem sameCalls_moved (g : Grammar) (base : Lexer) (hcursor : base.cursor = 0) (k k' : Nat) :
    SameCalls g (base.moved k) (base.moved k') where
  next n := by
    have hk : ∀ k, (base.moved k).cursor = k := fun k => by simp [moved, hcursor]
    rw [after_moved, after_moved, next_moved, next_moved, hk, hk]
    cases ((base.after g n).next g).1 with
    | none => exact .none
    | some t => exact .some (t.shifted_moved k k')
  currentState n := by
    rw [after_moved, after_moved]
    rfl
  depth n := by
    rw [after_moved, after_moved]
    rfl

/-- An idle scan is moved from position `0` to where it is. -/
theorem Idle.eq_moved (h : lx.Idle) : lx = ({ lx with cursor := 0 } : Lexer).moved lx.cursor := by
  cases lx with
  | mk cursor lineStart rest stack pending =>
    obtain rfl : pending = [] := h
    simp [moved]

end Lexer

end Highlighter
