import Highlighter.Proofs.DeclarationOrder

/-!
# Rules at the end of a state

The first rule that fires decides a step.  Rules at the end of a state are asked only
where no rule before them fires, and there a scan without them gives one character as
plain text.  A state is *complete* for a source when this never happens while it is the
innermost state (`Grammar.Complete`).  Whether it happens is settled after as many calls
as the source has characters, so it can be computed.

What is built from a declaration with more rules at the end of a state has the same
rules as before under every name, and more of them under that one
(`GrammarDecl.exists_extends`).  A step of the larger grammar is then the step of the
smaller one (`Lexer.step_extends`), call by call, and a caller sees no difference
(`GrammarDecl.appended_rules_inert`).
-/

namespace Highlighter

/-! ## Declarations with more rules -/

/-- A state with more rules at its end, if it has the given name. -/
def StateDecl.appendRules (s : StateDecl) (state : String) (extra : List Rule) : StateDecl :=
  if s.name = state then { s with rules := s.rules ++ extra } else s

/-- A declaration with more rules at the end of the state with a name. -/
def GrammarDecl.appendRules (decl : GrammarDecl) (state : String) (extra : List Rule) :
    GrammarDecl :=
  decl.withStates (decl.states.map (·.appendRules state extra))

theorem StateDecl.name_appendRules (s : StateDecl) (state : String) (extra : List Rule) :
    (s.appendRules state extra).name = s.name := by
  rw [appendRules]
  split <;> rfl

theorem StateDecl.rules_appendRules (s : StateDecl) (state : String) (extra : List Rule) :
    (s.appendRules state extra).rules = s.rules ++ if s.name = state then extra else [] := by
  rw [appendRules]
  split <;> simp

theorem GrammarDecl.names_appendRules (decl : GrammarDecl) (state : String)
    (extra : List Rule) : (decl.appendRules state extra).names = decl.names := by
  have h : ∀ s : StateDecl, (s.appendRules state extra).name = s.name :=
    fun s => s.name_appendRules state extra
  simp [names, appendRules, withStates, h]

/-- A grammar has the entry state and the rules of another, and more rules at the end of one of
its states. -/
structure Grammar.Extends (g' g : Grammar) (state : String) (extra : List BuiltRule) : Prop where
  entry : g'.entry = g.entry
  rulesOf : ∀ name, g'.rulesOf name = g.rulesOf name ++ if name = state then extra else []

namespace GrammarDecl

variable {compile : Regex.Compiler} {decl : GrammarDecl} {state : String} {extra : List Rule}
variable {g g' : Grammar}

/-- The rules under the name of a declared state are built from the rules that are declared. -/
theorem builds_rulesOf (h : decl.build compile = .ok g) {s : StateDecl} (hs : s ∈ decl.states) :
    List.Forall₂ (Rule.Builds compile) s.rules (g.rulesOf s.name) := by
  obtain ⟨-, -, -, hbuilds⟩ := builds_of_build h
  obtain ⟨built, hmem, hbuilt⟩ := exists_left_of_mem hbuilds.flip hs
  rw [← hbuilt.name, (closed_of_build h).rulesOf_eq hmem]
  exact hbuilt.rules

/-- No rules are under a name that is not declared. -/
theorem rulesOf_eq_nil (h : decl.build compile = .ok g) {name : String}
    (hname : name ∉ decl.names) : g.rulesOf name = [] := by
  rcases g.rulesOf_eq name with hnil | ⟨s, hs, rfl, -⟩
  · exact hnil
  · exact absurd (names_of_build h ▸ List.mem_map_of_mem hs) hname

/-- What is built with more rules extends what is built without them. -/
theorem exists_extends (hg : decl.build compile = .ok g)
    (hg' : (decl.appendRules state extra).build compile = .ok g') :
    ∃ built, g'.Extends g state built := by
  refine ⟨(g'.rulesOf state).drop (g.rulesOf state).length,
    (builds_of_build hg').2.2.1.trans (builds_of_build hg).2.2.1.symm, fun name => ?_⟩
  by_cases hname : name ∈ decl.names
  · obtain ⟨s, hs, rfl⟩ := List.mem_map.mp hname
    have hbefore := builds_rulesOf hg hs
    have hafter := builds_rulesOf hg' (List.mem_map_of_mem hs)
    rw [StateDecl.name_appendRules, StateDecl.rules_appendRules] at hafter
    split
    · next hstate =>
      subst hstate
      rw [if_pos rfl] at hafter
      -- The rules that were declared before are built into the same ones as before.
      have htake := (List.forall₂_take_append _ _ _ hafter.flip).flip
      rw [hbefore.length_eq] at htake
      have hsame := List.right_unique_forall₂' Rule.Builds.rightUnique htake hbefore
      exact (List.take_append_drop _ _).symm.trans (congrArg (· ++ _) hsame)
    · next hstate =>
      rw [if_neg hstate, List.append_nil] at hafter
      rw [List.append_nil]
      exact List.right_unique_forall₂' Rule.Builds.rightUnique hafter hbefore
  · have hname' : name ∉ (decl.appendRules state extra).names := by
      rwa [names_appendRules]
    have hnil := rulesOf_eq_nil hg hname
    have hnil' := rulesOf_eq_nil hg' hname'
    split
    · next hstate =>
      subst hstate
      rw [hnil, hnil']
      rfl
    · rw [hnil, hnil']
      rfl

end GrammarDecl

/-! ## Complete states -/

namespace Lexer

variable {g g' : Grammar} {lx : Lexer}

/-- The next call makes a step in which no rule fires. -/
structure CatchesAll (g : Grammar) (lx : Lexer) : Prop where
  idle : lx.pending = []
  text : lx.rest ≠ []
  silent : firstFiring? lx.lineStart lx.rest (g.rulesOf lx.stack.top) = none

instance (g : Grammar) (lx : Lexer) : Decidable (lx.CatchesAll g) :=
  decidable_of_iff (lx.pending = [] ∧ lx.rest ≠ [] ∧
      firstFiring? lx.lineStart lx.rest (g.rulesOf lx.stack.top) = none)
    ⟨fun ⟨hidle, htext, hsilent⟩ => ⟨hidle, htext, hsilent⟩,
      fun ⟨hidle, htext, hsilent⟩ => ⟨hidle, htext, hsilent⟩⟩

/-- The tokens that wait and the characters that are left are fewer after each call. -/
theorem waiting_next_le (g : Grammar) (lx : Lexer) :
    (lx.next g).2.pending.length + (lx.next g).2.rest.length ≤
      lx.pending.length + lx.rest.length - 1 := by
  rcases next_cases g lx with ⟨hidle, hrest, hnext⟩ |
    ⟨lx₀, t, more, hlx₀, hpending, hnext⟩
  · have hpending : lx.pending = [] := hidle
    rw [hnext, hpending, hrest]
    exact Nat.zero_le _
  · have hlength : lx₀.pending.length = more.length + 1 := by rw [hpending, List.length_cons]
    have hle : lx₀.pending.length + lx₀.rest.length ≤ lx.pending.length + lx.rest.length := by
      rcases hlx₀ with rfl | ⟨hidle, hrest, rfl⟩
      · exact Nat.le_refl _
      · have := length_step_le g hidle hrest
        omega
    rw [hnext]
    simp only
    omega

theorem waiting_after_le (g : Grammar) (n : Nat) (lx : Lexer) :
    (lx.after g n).pending.length + (lx.after g n).rest.length ≤
      lx.pending.length + lx.rest.length - n := by
  induction n with
  | zero => exact Nat.le_refl _
  | succ n ih =>
    have := waiting_next_le g (lx.after g n)
    rw [after_succ]
    omega

end Lexer

/-- A state is complete for a source when one of its rules fires at every step that the scan of
the source makes while it is the innermost state. -/
def Grammar.Complete (g : Grammar) (state : String) (source : Text) : Prop :=
  ∀ n, ((Lexer.start g source).after g n).currentState = state →
    ¬ ((Lexer.start g source).after g n).CatchesAll g

/-- After as many calls as the source has characters the scan is over. -/
theorem Grammar.complete_iff {g : Grammar} {state : String} {source : Text} :
    g.Complete state source ↔ ∀ n < source.length,
      ((Lexer.start g source).after g n).currentState = state →
        ¬ ((Lexer.start g source).after g n).CatchesAll g := by
  refine ⟨fun h n _ => h n, fun h n hstate hcatches => ?_⟩
  by_cases hn : n < source.length
  · exact h n hn hstate hcatches
  · have hle := Lexer.waiting_after_le g n (Lexer.start g source)
    have hpos := List.length_pos_iff.mpr hcatches.text
    have hstart : (Lexer.start g source).pending.length + (Lexer.start g source).rest.length =
        source.length := Nat.zero_add _
    omega

instance (g : Grammar) (state : String) (source : Text) : Decidable (g.Complete state source) :=
  decidable_of_iff _ Grammar.complete_iff.symm

/-! ## Scans under a grammar with more rules -/

namespace Lexer

variable {g g' : Grammar} {state : String} {extra : List BuiltRule} {lx : Lexer}

/-- Where a rule of the state fires anyway, the rules after it are not asked. -/
theorem step_extends (h : g'.Extends g state extra)
    (hfires : lx.currentState = state →
      firstFiring? lx.lineStart lx.rest (g.rulesOf lx.stack.top) ≠ none) :
    lx.step g' = lx.step g := by
  have hfirst : firstFiring? lx.lineStart lx.rest (g'.rulesOf lx.stack.top) =
      firstFiring? lx.lineStart lx.rest (g.rulesOf lx.stack.top) := by
    rw [h.rulesOf, firstFiring?_append]
    split
    · next hstate =>
      obtain ⟨found, hfound⟩ := Option.ne_none_iff_exists'.mp (hfires hstate)
      rw [hfound, Option.some_or]
    · rw [firstFiring?, Option.or_none]
  rw [step, step, hfirst]

theorem next_extends (h : g'.Extends g state extra)
    (hcomplete : lx.currentState = state → ¬ lx.CatchesAll g) : lx.next g' = lx.next g := by
  cases hpending : lx.pending with
  | cons t more => rw [next_of_pending g' hpending, next_of_pending g hpending]
  | nil =>
    by_cases hrest : lx.rest = []
    · rw [next_of_rest_nil g' hpending hrest, next_of_rest_nil g hpending hrest]
    · have hstep : lx.step g' = lx.step g := step_extends h fun hstate hsilent =>
        hcomplete hstate ⟨hpending, hrest, hsilent⟩
      rw [next, next, hstep]

/-- The calls on a scan, as long as no step lacks a rule in the state with more rules. -/
theorem after_extends (h : g'.Extends g state extra)
    (hcomplete : ∀ n, (lx.after g n).currentState = state → ¬ (lx.after g n).CatchesAll g)
    (n : Nat) : lx.after g' n = lx.after g n := by
  induction n generalizing lx with
  | zero => rfl
  | succ n ih =>
    have hnext : lx.next g' = lx.next g := next_extends h (hcomplete 0)
    rw [after, after, hnext]
    exact ih fun n => hcomplete (n + 1)

theorem take_extends (h : g'.Extends g state extra)
    (hcomplete : ∀ n, (lx.after g n).currentState = state → ¬ (lx.after g n).CatchesAll g)
    (n : Nat) : lx.take g' n = lx.take g n := by
  induction n generalizing lx with
  | zero => rfl
  | succ n ih =>
    have hnext : lx.next g' = lx.next g := next_extends h (hcomplete 0)
    have hrest := @ih (lx.next g).2 fun n => hcomplete (n + 1)
    rw [take, take, hnext]
    cases hcall : lx.next g with
    | mk t lx' =>
      rw [hcall] at hrest
      cases t with
      | none => rfl
      | some t => simp only [hrest]

end Lexer

namespace GrammarDecl

variable {compile : Regex.Compiler} {decl : GrammarDecl} {state : String} {extra : List Rule}
variable {g g' : Grammar} {source : Text}

/-- Rules at the end of a state that is complete for a source are inert.  With and without them
the source has the same tokens, and a caller sees the same after every number of calls. -/
theorem appended_rules_inert (hg : decl.build compile = .ok g)
    (hg' : (decl.appendRules state extra).build compile = .ok g')
    (hcomplete : g.Complete state source) :
    tokenize g' source = tokenize g source ∧
    ∀ n, ((Lexer.start g' source).after g' n).view g' =
      ((Lexer.start g source).after g n).view g := by
  obtain ⟨built, hextends⟩ := exists_extends hg hg'
  have hstart : Lexer.start g' source = Lexer.start g source := by
    rw [Lexer.start, Lexer.start, hextends.entry]
  refine ⟨?_, fun n => ?_⟩
  · rw [tokenize, tokenize, hstart, Lexer.drain, Lexer.drain,
      Lexer.take_extends hextends hcomplete]
  · rw [hstart, Lexer.after_extends hextends hcomplete, Lexer.view, Lexer.view,
      Lexer.next_extends hextends (hcomplete n)]

/-- In `list` a `b` is an identifier already, so a rule for it at the end changes nothing.  Outside
of `list` no rule reads the `?`. -/
theorem appended_rules_inert_list :
    let rootDecl : StateDecl := ⟨"root", [{ pattern := ['a'], transition := .push "list" }]⟩
    let listDecl : StateDecl := ⟨"list", [{ pattern := ['b'], action := .token .identifier },
      { pattern := ['c'], transition := .pop }]⟩
    let decl : GrammarDecl := ⟨"lists", "root", [rootDecl, listDecl]⟩
    let extra : List Rule := [{ pattern := ['b'], action := .token .error, transition := .pop }]
    let source : Text := ['?', 'a', 'b', 'b', 'c', '?']
    ∃ g g', decl.build .standard = .ok g ∧
      (decl.appendRules "list" extra).build .standard = .ok g' ∧
      g.Complete "list" source ∧ ¬ g.Complete "root" source ∧
      (g.rulesOf "list").length = 2 ∧ (g'.rulesOf "list").length = 3 ∧
      tokenize g' source = tokenize g source ∧
      ((Lexer.start g' source).after g' 3).view g' =
        ⟨some ⟨.identifier, 3, 4, ['b']⟩, "list", 2⟩ := by
  intro rootDecl listDecl decl extra source
  obtain ⟨g, hg, hcomplete, hroot, hlength, hview⟩ : ∃ g, decl.build .standard = .ok g ∧
      g.Complete "list" source ∧ ¬ g.Complete "root" source ∧ (g.rulesOf "list").length = 2 ∧
      ((Lexer.start g source).after g 3).view g =
        ⟨some ⟨.identifier, 3, 4, ['b']⟩, "list", 2⟩ :=
    ⟨_, rfl, by decide +kernel, by decide +kernel, by decide +kernel, by decide +kernel⟩
  obtain ⟨g', hg', hlength'⟩ : ∃ g', (decl.appendRules "list" extra).build .standard = .ok g' ∧
      (g'.rulesOf "list").length = 3 := ⟨_, rfl, by decide +kernel⟩
  obtain ⟨htokens, hviews⟩ := appended_rules_inert hg hg' hcomplete
  exact ⟨g, g', hg, hg', hcomplete, hroot, hlength, hlength', htokens, (hviews 3).trans hview⟩

end GrammarDecl

end Highlighter
