import Highlighter.Proofs.Scan.Calls
import Highlighter.Proofs.Validation

/-!
# Open states

What a scan under a built grammar has open: states of the grammar, with the entry state
around all others.  Since no rule of the entry state pops, an entry state that is open
stays open, be it the outermost one or one that an inner state has entered again.  So a
pop always finds another state to come back to.

`Stack.Sound` is the invariant, and `Lexer.exists_transition` says all that a step does
to the stack.
-/

namespace Highlighter

/-- The open states, innermost first. -/
def Stack.states (s : Stack) : List String := s.top :: s.below

theorem Stack.length_states (s : Stack) : s.states.length = s.depth := rfl

theorem Stack.states_push (s : Stack) (state : String) :
    (s.apply (.push state)).states = state :: s.states := rfl

/-- A pop takes the innermost state away if there is another. -/
theorem Stack.states_pop {s : Stack} (h : s.below ≠ []) : (s.apply .pop).states = s.below := by
  obtain ⟨outer, others, hbelow⟩ := List.exists_cons_of_ne_nil h
  rw [apply, hbelow]
  rfl

/-- What holds of the open states between the steps of a scan. -/
structure Stack.Sound (g : Grammar) (s : Stack) : Prop where
  /-- The outermost state is the entry state. -/
  entry : s.states.getLast? = some g.entry
  /-- Every open state is a state of the grammar. -/
  declared : ∀ state ∈ s.states, state ∈ g.states.map (·.name)

/-- An entry state is open around which there are some states. -/
def Stack.KeepsEntry (g : Grammar) (around : List String) (s : Stack) : Prop :=
  ∃ inside, s.states = inside ++ g.entry :: around

/-! ## Rules of a closed grammar -/

section Closed

variable {g : Grammar} {s : Stack} {rule : BuiltRule} {around : List String}

/-- A rule in force in a state belongs to a state of that name. -/
theorem Grammar.exists_state_of_mem_rulesOf {state : String} (h : rule ∈ g.rulesOf state) :
    ∃ st ∈ g.states, st.name = state ∧ rule ∈ st.rules := by
  rw [rulesOf] at h
  split at h
  · next st hfind =>
    exact ⟨st, List.mem_of_find?_eq_some hfind, by simpa using List.find?_some hfind, h⟩
  · simp at h

theorem Grammar.Closed.top_ne_entry (hg : g.Closed) (hrule : rule ∈ g.rulesOf s.top)
    (hpop : rule.transition = .pop) : s.top ≠ g.entry := by
  obtain ⟨st, hst, hname, hmem⟩ := g.exists_state_of_mem_rulesOf hrule
  exact fun htop => hg.keepsEntry st hst (hname.trans htop) rule hmem hpop

/-- Where a rule pops, the innermost state is not the only one. -/
theorem Stack.Sound.below_ne_nil (hg : g.Closed) (h : s.Sound g) (hrule : rule ∈ g.rulesOf s.top)
    (hpop : rule.transition = .pop) : s.below ≠ [] := by
  intro hbelow
  have hentry := h.entry
  rw [states, hbelow, List.getLast?_singleton, Option.some.injEq] at hentry
  exact hg.top_ne_entry hrule hpop hentry

/-- A rule of the innermost state keeps the invariant. -/
theorem Stack.Sound.apply (hg : g.Closed) (h : s.Sound g) (hrule : rule ∈ g.rulesOf s.top) :
    (s.apply rule.transition).Sound g := by
  cases ht : rule.transition with
  | stay => exact h
  | push target =>
    obtain ⟨st, hst, -, hmem⟩ := g.exists_state_of_mem_rulesOf hrule
    refine ⟨?_, ?_⟩
    · rw [states_push, states, List.getLast?_cons_cons]
      exact h.entry
    · rw [states_push, List.forall_mem_cons]
      exact ⟨hg.target st hst rule hmem target ht, h.declared⟩
  | pop =>
    have hbelow := h.below_ne_nil hg hrule ht
    have hentry := h.entry
    refine ⟨?_, ?_⟩ <;> rw [states_pop hbelow]
    · obtain ⟨outer, others, heq⟩ := List.exists_cons_of_ne_nil hbelow
      rwa [states, heq, List.getLast?_cons_cons, ← heq] at hentry
    · exact fun state hstate => h.declared state (List.mem_cons_of_mem _ hstate)

/-- A rule of the innermost state keeps an entry state open, and the states around it. -/
theorem Stack.KeepsEntry.apply (hg : g.Closed) (h : s.KeepsEntry g around)
    (hrule : rule ∈ g.rulesOf s.top) : (s.apply rule.transition).KeepsEntry g around := by
  obtain ⟨inside, hinside⟩ := h
  cases ht : rule.transition with
  | stay => exact ⟨inside, hinside⟩
  | push target => exact ⟨target :: inside, by rw [states_push, hinside]; rfl⟩
  | pop =>
    cases inside with
    | nil =>
      rw [states, List.nil_append, List.cons.injEq] at hinside
      exact absurd hinside.1 (hg.top_ne_entry hrule ht)
    | cons state inside =>
      rw [states, List.cons_append, List.cons.injEq] at hinside
      have hbelow : s.below ≠ [] := by simp [hinside.2]
      exact ⟨inside, by rw [states_pop hbelow, hinside.2]⟩

end Closed

/-! ## Runs -/

namespace Lexer

variable {g : Grammar} {source : Text} {lx : Lexer}

/-- A step leaves the stack alone, or a rule of the innermost state changes it. -/
theorem exists_transition (g : Grammar) (lx : Lexer) : (lx.step g).stack = lx.stack ∨
    ∃ rule ∈ g.rulesOf lx.stack.top, (lx.step g).stack = lx.stack.apply rule.transition := by
  rw [step]
  cases hfire : firstFiring? lx.lineStart lx.rest (g.rulesOf lx.stack.top) with
  | some found => exact Or.inr ⟨found.1, (firstFiring?_eq_some hfire).1, rfl⟩
  | none =>
    cases lx.rest with
    | nil => exact Or.inl rfl
    | cons c rest => exact Or.inl rfl

/-- What rules keep of the stack, calls keep. -/
theorem stack_next {P : Stack → Prop}
    (hP : ∀ s, P s → ∀ rule ∈ g.rulesOf s.top, P (s.apply rule.transition)) (h : P lx.stack) :
    P (lx.next g).2.stack := by
  rcases lx.next_cases g with ⟨-, -, hnext⟩ |
    ⟨_, t, more, rfl | ⟨-, -, rfl⟩, -, hnext⟩ <;> rw [hnext]
  · exact h
  · exact h
  · rcases exists_transition g lx with heq | ⟨rule, hrule, heq⟩
    · rw [show ({ lx.step g with pending := more } : Lexer).stack = (lx.step g).stack from rfl, heq]
      exact h
    · rw [show ({ lx.step g with pending := more } : Lexer).stack = (lx.step g).stack from rfl, heq]
      exact hP _ h rule hrule

theorem stack_after {P : Stack → Prop}
    (hP : ∀ s, P s → ∀ rule ∈ g.rulesOf s.top, P (s.apply rule.transition)) (h : P lx.stack)
    (n : Nat) : P (lx.after g n).stack := by
  induction n generalizing lx with
  | zero => exact h
  | succ n ih => exact ih (stack_next hP h)

/-- The open states of a scan under a closed grammar are sound. -/
theorem sound_of_reachable (hg : g.Closed) (h : Reachable g source lx) : lx.stack.Sound g := by
  obtain ⟨n, rfl⟩ := reachable_iff.mp h
  refine stack_after (fun s hs rule hrule => hs.apply hg hrule) ⟨rfl, ?_⟩ n
  intro state hstate
  rw [List.mem_singleton.mp hstate]
  exact hg.entry

/-- Under a built grammar the outermost open state is always the entry state, and all open states
are declared.  A rule that pops in the innermost state finds another one open.  An entry state that
is open stays open whatever comes, and so do the states around it. -/
theorem open_states {compile : Regex.Compiler} {decl : GrammarDecl} {g : Grammar}
    (hbuild : decl.build compile = .ok g) {source : Text} {lx : Lexer}
    (h : Reachable g source lx) :
    lx.stack.states.getLast? = some g.entry ∧
    (∀ state ∈ lx.stack.states, state ∈ decl.names) ∧
    (∀ rule ∈ g.rulesOf lx.currentState, rule.transition = .pop →
      2 ≤ lx.depth ∧ (lx.stack.apply rule.transition).states = lx.stack.states.tail) ∧
    ∀ inside around, lx.stack.states = inside ++ g.entry :: around → ∀ n,
      (∃ inside', (lx.after g n).stack.states = inside' ++ g.entry :: around) ∧
        around.length < (lx.after g n).depth := by
  have hg := GrammarDecl.closed_of_build hbuild
  have hsound := sound_of_reachable hg h
  refine ⟨hsound.entry, ?_, ?_, ?_⟩
  · rw [← GrammarDecl.names_of_build hbuild]
    exact hsound.declared
  · intro rule hrule hpop
    have hbelow := hsound.below_ne_nil hg hrule hpop
    refine ⟨?_, by rw [hpop, Stack.states_pop hbelow]; rfl⟩
    exact Nat.succ_le_succ (List.length_pos_iff.mpr hbelow)
  · intro inside around hstates n
    obtain ⟨inside', hinside'⟩ : (lx.after g n).stack.KeepsEntry g around :=
      stack_after (fun s hs rule hrule => hs.apply hg hrule) ⟨inside, hstates⟩ n
    refine ⟨⟨inside', hinside'⟩, ?_⟩
    rw [depth, ← Stack.length_states, hinside', List.length_append, List.length_cons]
    omega

/-- A grammar whose inner state enters the entry state again, after both are open. -/
theorem open_states_nested :
    let decl : GrammarDecl := ⟨"nested", "root",
      [⟨"root", [{ pattern := ['x'], transition := .push "list" }]⟩,
        ⟨"list", [{ pattern := ['y'], transition := .push "root" },
          { pattern := ['z'], transition := .pop }]⟩]⟩
    let built (c : Char) (t : Transition) : BuiltRule :=
      ⟨.seq (.check .textStart) (.one (.only c)), false, none, .token .text, t⟩
    let g : Grammar := ⟨"nested", "root",
      [⟨"root", [built 'x' (.push "list")]⟩, ⟨"list", [built 'y' (.push "root"), built 'z' .pop]⟩]⟩
    let lx := (start g ['x', 'y', 'x', 'z', 'z']).after g 2
    (decl.build .standard = .ok g ∧ Reachable g ['x', 'y', 'x', 'z', 'z'] lx ∧
      lx.stack.states = [] ++ g.entry :: ["list", "root"]) ∧
    ∀ n, (∃ inside', (lx.after g n).stack.states = inside' ++ g.entry :: ["list", "root"]) ∧
      2 < (lx.after g n).depth := by
  intro decl built g lx
  have hbuild : decl.build .standard = .ok g := by decide +kernel
  have hreach : Reachable g ['x', 'y', 'x', 'z', 'z'] lx := .next (.next .start)
  have hstates : lx.stack.states = [] ++ g.entry :: ["list", "root"] := by decide +kernel
  exact ⟨⟨hbuild, hreach, hstates⟩, (open_states hbuild hreach).2.2.2 [] ["list", "root"] hstates⟩

end Lexer

end Highlighter
