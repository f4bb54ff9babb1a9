import Highlighter.Proofs.OpenStates

/-!
# States by position

A built grammar can refer to its states by their positions in the list of states
instead of by their names.  `PlacedLexer` is the scan that does so.  The name of a state
that is entered is looked up for its position, and the rules in force are those at
a position.

Both scans are one.  `PlacedLexer.named` puts the names for the positions, and under a
closed grammar a step and a call commute with it (`PlacedLexer.named_step`,
`PlacedLexer.named_next`), as long as every position on the stack is that of a state
(`PlacedStack.Placed`), which steps keep.  So a caller sees the same of both
(`PlacedLexer.view_after`).
-/

namespace Highlighter

/-! ## States of a grammar by position -/

namespace Grammar

/-- The position of the first state with a name. -/
def positionOf (g : Grammar) (name : String) : Nat := g.states.findIdx (·.name == name)

/-- The name of the state at a position. -/
def nameAt (g : Grammar) (i : Nat) : String := (g.states[i]?.map (·.name)).getD ""

/-- The rules of the state at a position. -/
def rulesAt (g : Grammar) (i : Nat) : List BuiltRule := (g.states[i]?.map (·.rules)).getD []

variable {g : Grammar} {name : String} {i : Nat}

theorem positionOf_lt (h : name ∈ g.states.map (·.name)) : g.positionOf name < g.states.length := by
  obtain ⟨s, hs, rfl⟩ := List.mem_map.mp h
  exact List.findIdx_lt_length_of_exists ⟨s, hs, by simp⟩

theorem nameAt_positionOf (h : name ∈ g.states.map (·.name)) :
    g.nameAt (g.positionOf name) = name := by
  have hlt := positionOf_lt h
  have hfound : (g.states[g.positionOf name].name == name) = true :=
    List.findIdx_getElem (w := hlt)
  rw [nameAt, List.getElem?_eq_getElem hlt]
  exact beq_iff_eq.mp hfound

/-- The rules at a position are those of the state of the name that stands there. -/
theorem Closed.rulesOf_nameAt (hg : g.Closed) (hi : i < g.states.length) :
    g.rulesOf (g.nameAt i) = g.rulesAt i := by
  rw [nameAt, rulesAt, List.getElem?_eq_getElem hi]
  exact hg.rulesOf_eq (List.getElem_mem hi)

end Grammar

/-! ## Stacks of positions -/

/-- The positions of the open states, innermost first. -/
structure PlacedStack where
  /-- The position of the innermost state. -/
  top : Nat
  /-- The positions of the states around it. -/
  below : List Nat
  deriving DecidableEq, Repr

namespace PlacedStack

/-- The stack after a transition. The last state is never left. -/
def apply (g : Grammar) (s : PlacedStack) : Transition → PlacedStack
  | .stay => s
  | .push state => ⟨g.positionOf state, s.top :: s.below⟩
  | .pop =>
    match s.below with
    | [] => s
    | outer :: others => ⟨outer, others⟩

/-- The names of the open states. -/
def named (g : Grammar) (s : PlacedStack) : Stack := ⟨g.nameAt s.top, s.below.map g.nameAt⟩

/-- Every position of a stack is that of a state. -/
structure Placed (g : Grammar) (s : PlacedStack) : Prop where
  top : s.top < g.states.length
  below : ∀ i ∈ s.below, i < g.states.length

variable {g : Grammar} {s : PlacedStack} {t : Transition}

theorem Placed.apply (h : s.Placed g)
    (ht : ∀ target, t = .push target → target ∈ g.states.map (·.name)) :
    (s.apply g t).Placed g := by
  cases t with
  | stay => exact h
  | push target =>
    refine ⟨Grammar.positionOf_lt (ht target rfl), ?_⟩
    exact List.forall_mem_cons.mpr ⟨h.top, h.below⟩
  | pop =>
    rw [PlacedStack.apply]
    split
    · exact h
    · next outer others hbelow =>
      have hall := h.below
      rw [hbelow, List.forall_mem_cons] at hall
      exact ⟨hall.1, hall.2⟩

theorem named_apply (ht : ∀ target, t = .push target → target ∈ g.states.map (·.name)) :
    (s.apply g t).named g = (s.named g).apply t := by
  cases t with
  | stay => rfl
  | push target =>
    rw [apply, named, Grammar.nameAt_positionOf (ht target rfl)]
    rfl
  | pop =>
    obtain ⟨top, below⟩ := s
    cases below <;> rfl

theorem depth_named (s : PlacedStack) : (s.named g).depth = s.below.length + 1 := by
  rw [named, Stack.depth, List.length_map]

end PlacedStack

/-! ## Scans with stacks of positions -/

/-- A scan in progress that keeps its states by position. -/
structure PlacedLexer where
  /-- The byte position in the source. -/
  cursor : Nat
  /-- Whether the position is at the start of a line. -/
  lineStart : Bool
  /-- The text that is left. -/
  rest : Text
  /-- The positions of the open states. -/
  stack : PlacedStack
  /-- The tokens that are found and not handed out. -/
  pending : List Token
  deriving DecidableEq, Repr

/-- What a caller sees of a scan: the token that the next call gives, the name of the innermost
state, and the number of open states. -/
structure View where
  /-- The token that the next call gives. -/
  token : Option Token
  /-- The name of the innermost state. -/
  state : String
  /-- The number of open states. -/
  depth : Nat
  deriving DecidableEq, Repr

/-- What a caller sees of a scan. -/
def Lexer.view (g : Grammar) (lx : Lexer) : View := ⟨(lx.next g).1, lx.currentState, lx.depth⟩

namespace PlacedLexer

/-- A scan at the start of a source. -/
def start (g : Grammar) (source : Text) : PlacedLexer :=
  ⟨0, true, source, ⟨g.positionOf g.entry, []⟩, []⟩

/-- The scan after a text was consumed that gave some tokens. -/
def consume (g : Grammar) (lx : PlacedLexer) (text rest : Text) (tokens : List Token)
    (t : Transition) : PlacedLexer :=
  { cursor := lx.cursor + text.size
    lineStart := text.getLast? == some '\n'
    rest
    stack := lx.stack.apply g t
    pending := lx.pending ++ tokens }

/-- One step: the first rule at the innermost position that fires, or one character of plain
text. -/
def step (g : Grammar) (lx : PlacedLexer) : PlacedLexer :=
  match firstFiring? lx.lineStart lx.rest (g.rulesAt lx.stack.top) with
  | some (rule, m) =>
    let text := lx.rest.takeBytes m.stop
    lx.consume g text m.rest (rule.action.tokens lx.cursor text m) rule.transition
  | none =>
    match lx.rest with
    | [] => lx
    | c :: rest => lx.consume g [c] rest [Token.at .text lx.cursor [c]] .stay

/-- The next token, and the scan after it. -/
def next (g : Grammar) (lx : PlacedLexer) : Option Token × PlacedLexer :=
  match lx.pending with
  | t :: more => (some t, { lx with pending := more })
  | [] =>
    if lx.rest.isEmpty then (none, lx)
    else
      let lx := lx.step g
      match lx.pending with
      | t :: more => (some t, { lx with pending := more })
      | [] => (none, lx)

/-- The scan after some more calls. -/
def after (g : Grammar) : Nat → PlacedLexer → PlacedLexer
  | 0, lx => lx
  | n + 1, lx => after g n (lx.next g).2

/-- What a caller sees of a scan. -/
def view (g : Grammar) (lx : PlacedLexer) : View :=
  ⟨(lx.next g).1, g.nameAt lx.stack.top, lx.stack.below.length + 1⟩

/-- The scan with names for the positions. -/
def named (g : Grammar) (lx : PlacedLexer) : Lexer :=
  ⟨lx.cursor, lx.lineStart, lx.rest, lx.stack.named g, lx.pending⟩

variable {g : Grammar} {lx : PlacedLexer}

theorem named_start (hg : g.Closed) (source : Text) :
    (start g source).named g = Lexer.start g source := by
  rw [named, start, PlacedStack.named, Grammar.nameAt_positionOf hg.entry]
  rfl

theorem placed_start (hg : g.Closed) (source : Text) : (start g source).stack.Placed g :=
  ⟨Grammar.positionOf_lt hg.entry, by simp [start]⟩

/-- A rule in force in a closed grammar enters declared states only. -/
theorem target_mem_names (hg : g.Closed) {i : Nat} {rule : BuiltRule} (h : rule ∈ g.rulesAt i) :
    ∀ target, rule.transition = .push target → target ∈ g.states.map (·.name) := by
  cases hs : g.states[i]? with
  | none => simp [Grammar.rulesAt, hs] at h
  | some s =>
    rw [Grammar.rulesAt, hs] at h
    exact hg.target s (List.mem_of_getElem? hs) rule h

/-- A step with positions is a step with names, and it leaves positions of states. -/
theorem named_step (hg : g.Closed) (h : lx.stack.Placed g) :
    (lx.step g).named g = (lx.named g).step g ∧ (lx.step g).stack.Placed g := by
  have hrules : g.rulesOf (lx.named g).stack.top = g.rulesAt lx.stack.top :=
    hg.rulesOf_nameAt h.top
  have hfields : (lx.named g).lineStart = lx.lineStart ∧ (lx.named g).rest = lx.rest := ⟨rfl, rfl⟩
  rw [Lexer.step, hrules, hfields.1, hfields.2, step]
  cases hfire : firstFiring? lx.lineStart lx.rest (g.rulesAt lx.stack.top) with
  | some found =>
    obtain ⟨rule, m⟩ := found
    have htarget := target_mem_names hg (firstFiring?_eq_some hfire).1
    refine ⟨?_, h.apply htarget⟩
    simp only [named, consume, PlacedStack.named_apply htarget, Lexer.consume]
  | none =>
    cases hrest : lx.rest with
    | nil => exact ⟨rfl, h⟩
    | cons c rest => exact ⟨rfl, h⟩

/-- A call with positions is a call with names, and it leaves positions of states. -/
theorem named_next (hg : g.Closed) (h : lx.stack.Placed g) :
    (lx.named g).next g = ((lx.next g).1, (lx.next g).2.named g) ∧
      (lx.next g).2.stack.Placed g := by
  obtain ⟨hstep, hplaced⟩ := named_step hg h
  cases hpending : lx.pending with
  | cons t more =>
    have hnamed : (lx.named g).pending = t :: more := hpending
    rw [next, Lexer.next, hpending, hnamed]
    exact ⟨rfl, h⟩
  | nil =>
    have hnamed : (lx.named g).pending = [] := hpending
    rw [next, Lexer.next, hpending, hnamed]
    have hrest : (lx.named g).rest = lx.rest := rfl
    simp only [hrest]
    split
    · exact ⟨rfl, h⟩
    · rw [← hstep]
      have hfound : ((lx.step g).named g).pending = (lx.step g).pending := rfl
      simp only [hfound]
      cases (lx.step g).pending <;> exact ⟨rfl, hplaced⟩

theorem named_after (hg : g.Closed) (n : Nat) (h : lx.stack.Placed g) :
    (lx.named g).after g n = (lx.after g n).named g ∧ (lx.after g n).stack.Placed g := by
  induction n generalizing lx with
  | zero => exact ⟨rfl, h⟩
  | succ n ih =>
    obtain ⟨hnext, hplaced⟩ := named_next hg h
    rw [Lexer.after, hnext, after]
    exact ih hplaced

/-- A caller sees the same of a scan with positions and of one with names. -/
theorem view_after (hg : g.Closed) (source : Text) (n : Nat) :
    ((start g source).after g n).view g = ((Lexer.start g source).after g n).view g := by
  obtain ⟨hafter, hplaced⟩ := named_after hg n (placed_start hg source)
  rw [named_start hg] at hafter
  rw [hafter, view, Lexer.view, (named_next hg hplaced).1, Lexer.depth]
  simp only [Lexer.currentState, named, PlacedStack.depth_named]
  rfl

end PlacedLexer

end Highlighter
