import Mathlib.Data.List.Perm.Basic
import Highlighter.Proofs.Grammar.States
import Highlighter.Proofs.Scan.Positions

/-!
# The order of declarations

The states of a grammar may be declared in any order.  Whether a declaration is valid
does not depend on the order (`GrammarDecl.Valid.perm`), though the defect it is refused
for may.  What is built from two orders has the same states (`GrammarDecl.states_perm`)
and so, since no two states share a name, the same rules under every name
(`GrammarDecl.rulesOf_perm`).

A scan asks a grammar only for its entry state and for the rules under a name, so both
grammars give the same scans.  A scan that keeps its states by position holds other
positions under the two orders, and a caller sees no difference either
(`GrammarDecl.declaration_order`).
-/

namespace Highlighter

/-! ## Building in another order -/

/-- A declaration with its states in another order, or with other states altogether. -/
def GrammarDecl.withStates (decl : GrammarDecl) (states : List StateDecl) : GrammarDecl :=
  { decl with states }

variable {compile : Regex.Compiler}

/-- A rule is built into one rule only. -/
theorem Rule.Builds.rightUnique : Relator.RightUnique (Rule.Builds compile) := by
  intro rule built built' h h'
  obtain ⟨regex, hregex, hpattern⟩ := h.pattern
  obtain ⟨regex', hregex', hpattern'⟩ := h'.pattern
  have hpatterns : built.pattern = built'.pattern := by
    rw [hpattern, hpattern', Except.ok.inj (hregex.symm.trans hregex')]
  have hlookaheads : built.followedBy = built'.followedBy := by
    have hlook := h.followedBy
    have hlook' := h'.followedBy
    cases htext : rule.followedBy with
    | none =>
      rw [htext] at hlook hlook'
      generalize built.followedBy = q at hlook ⊢
      generalize built'.followedBy = q' at hlook' ⊢
      cases hlook
      cases hlook'
      rfl
    | some t =>
      rw [htext] at hlook hlook'
      generalize built.followedBy = q at hlook ⊢
      generalize built'.followedBy = q' at hlook' ⊢
      cases hlook with | some hq =>
      cases hlook' with | some hq' =>
      obtain ⟨r, hr, rfl⟩ := hq
      obtain ⟨r', hr', rfl⟩ := hq'
      rw [Except.ok.inj (hr.symm.trans hr')]
  cases built
  cases built'
  simp only [BuiltRule.mk.injEq]
  exact ⟨hpatterns, h.lineStart.trans h'.lineStart.symm, hlookaheads,
    h.action.trans h'.action.symm, h.transition.trans h'.transition.symm⟩

/-- A state is built into one state only. -/
theorem StateDecl.Builds.rightUnique : Relator.RightUnique (StateDecl.Builds compile) := by
  intro s built built' h h'
  have hrules : built.rules = built'.rules :=
    List.right_unique_forall₂' Rule.Builds.rightUnique h.rules h'.rules
  cases built
  cases built'
  simp only [State.mk.injEq]
  exact ⟨h.name.trans h'.name.symm, hrules⟩

namespace GrammarDecl

variable {decl : GrammarDecl} {states : List StateDecl} {g g' : Grammar}

/-- Validity does not depend on the order of the states. -/
theorem Valid.perm (h : decl.Valid compile) (hperm : decl.states.Perm states) :
    (decl.withStates states).Valid compile := by
  have hnames : decl.names.Perm (decl.withStates states).names := hperm.map _
  refine ⟨hnames.nodup h.distinct, hnames.mem_iff.mp h.entry, fun s hs rule hrule => ?_,
    fun s hs => h.keepsEntry s (hperm.mem_iff.mpr hs)⟩
  have hrule := h.rules s (hperm.mem_iff.mpr hs) rule hrule
  exact ⟨hrule.pattern, hrule.lookahead,
    fun target ht => hnames.mem_iff.mp (hrule.target target ht)⟩

theorem exists_build_iff_valid (compile : Regex.Compiler) (decl : GrammarDecl) :
    (∃ g, decl.build compile = .ok g) ↔ decl.Valid compile := by
  constructor
  · rintro ⟨g, hg⟩
    exact (builds_of_build hg).1
  · intro hvalid
    rcases decl.build_cases compile with ⟨e, -, p, hp, -⟩ | ⟨built, hok, -⟩
    · exact absurd hp (valid_iff.mp hvalid p e)
    · exact ⟨_, hok⟩

/-- The states that are built from two orders are the same up to their order. -/
theorem states_perm (hperm : decl.states.Perm states) (hg : decl.build compile = .ok g)
    (hg' : (decl.withStates states).build compile = .ok g') : g.states.Perm g'.states :=
  List.rel_perm_imp StateDecl.Builds.rightUnique (builds_of_build hg).2.2.2
    (builds_of_build hg').2.2.2 hperm

end GrammarDecl

/-- Closed grammars with the same states have the same rules under every name. -/
theorem Grammar.Closed.rulesOf_perm {g g' : Grammar} (hg : g.Closed) (hg' : g'.Closed)
    (hperm : g.states.Perm g'.states) (state : String) : g.rulesOf state = g'.rulesOf state := by
  rcases g.rulesOf_eq state with hnone | ⟨s, hs, rfl, hrules⟩
  · rcases g'.rulesOf_eq state with hnone' | ⟨s, hs, rfl, hrules⟩
    · rw [hnone, hnone']
    · rw [hrules, hg.rulesOf_eq (hperm.mem_iff.mpr hs)]
  · rw [hrules, hg'.rulesOf_eq (hperm.mem_iff.mp hs)]

/-! ## Scans under equal rules -/

namespace Lexer

variable {g g' : Grammar}

theorem step_congr (h : ∀ state, g.rulesOf state = g'.rulesOf state) (lx : Lexer) :
    lx.step g = lx.step g' := by
  rw [step, step, h]

theorem next_congr (h : ∀ state, g.rulesOf state = g'.rulesOf state) (lx : Lexer) :
    lx.next g = lx.next g' := by
  rw [next, next, step_congr h]

theorem after_congr (h : ∀ state, g.rulesOf state = g'.rulesOf state) (n : Nat) (lx : Lexer) :
    lx.after g n = lx.after g' n := by
  induction n generalizing lx with
  | zero => rfl
  | succ n ih => rw [after, after, next_congr h, ih]

theorem take_congr (h : ∀ state, g.rulesOf state = g'.rulesOf state) (n : Nat) (lx : Lexer) :
    lx.take g n = lx.take g' n := by
  induction n generalizing lx with
  | zero => rfl
  | succ n ih => simp only [take, next_congr h, ih]

end Lexer

/-! ## Scans of declarations in two orders -/

namespace GrammarDecl

/-- The states of a declaration may stand in any order, whatever compiles the patterns.  It is built
in one order exactly if it is built in the other, and then every source has the same tokens, and a
caller sees the same after every number of calls, whether the scan keeps its states by name or by
position. -/
theorem declaration_order (compile : Regex.Compiler) (decl : GrammarDecl)
    {states : List StateDecl} (hperm : decl.states.Perm states) :
    ((∃ g, decl.build compile = .ok g) ↔ ∃ g, (decl.withStates states).build compile = .ok g) ∧
    ∀ g g', decl.build compile = .ok g → (decl.withStates states).build compile = .ok g' →
      ∀ source,
      tokenize g source = tokenize g' source ∧
      ∀ n, ((Lexer.start g source).after g n).view g =
          ((Lexer.start g' source).after g' n).view g' ∧
        ((PlacedLexer.start g source).after g n).view g =
          ((PlacedLexer.start g' source).after g' n).view g' := by
  refine ⟨?_, fun g g' hg hg' source => ?_⟩
  · rw [exists_build_iff_valid, exists_build_iff_valid]
    exact ⟨fun h => h.perm hperm, fun h =>
      @Valid.perm compile (decl.withStates states) decl.states h hperm.symm⟩
  · have hclosed := closed_of_build hg
    have hclosed' := closed_of_build hg'
    have hrules := hclosed.rulesOf_perm hclosed' (states_perm hperm hg hg')
    have hentry : g.entry = g'.entry :=
      (builds_of_build hg).2.2.1.trans (builds_of_build hg').2.2.1.symm
    have hstart : Lexer.start g source = Lexer.start g' source := by
      rw [Lexer.start, Lexer.start, hentry]
    have hview : ∀ n, ((Lexer.start g source).after g n).view g =
        ((Lexer.start g' source).after g' n).view g' := by
      intro n
      rw [hstart, Lexer.after_congr hrules, Lexer.view, Lexer.view, Lexer.next_congr hrules]
    refine ⟨?_, fun n => ⟨hview n, ?_⟩⟩
    · rw [tokenize, tokenize, hstart, Lexer.drain, Lexer.drain, Lexer.take_congr hrules]
    · rw [PlacedLexer.view_after hclosed, PlacedLexer.view_after hclosed', hview n]

/-- Two states that enter each other, in both orders.  The entry state is at another position. -/
theorem declaration_order_swap :
    let rootDecl : StateDecl := ⟨"root", [{ pattern := ['x'], transition := .push "list" }]⟩
    let listDecl : StateDecl := ⟨"list", [{ pattern := ['y'], transition := .push "root" },
      { pattern := ['z'], transition := .pop }]⟩
    let decl : GrammarDecl := ⟨"nested", "root", [rootDecl, listDecl]⟩
    let built (c : Char) (t : Transition) : BuiltRule :=
      ⟨.seq (.check .textStart) (.one (.only c)), false, none, .token .text, t⟩
    let rootState : State := ⟨"root", [built 'x' (.push "list")]⟩
    let listState : State := ⟨"list", [built 'y' (.push "root"), built 'z' .pop]⟩
    let g : Grammar := ⟨"nested", "root", [rootState, listState]⟩
    let g' : Grammar := ⟨"nested", "root", [listState, rootState]⟩
    let source : Text := ['x', 'y', 'x', 'z', 'z']
    (decl.states.Perm [listDecl, rootDecl] ∧ decl.build .standard = .ok g ∧
      (decl.withStates [listDecl, rootDecl]).build .standard = .ok g' ∧
      ((PlacedLexer.start g source).after g 3).stack = ⟨1, [0, 1, 0]⟩ ∧
      ((PlacedLexer.start g' source).after g' 3).stack = ⟨0, [1, 0, 1]⟩) ∧
    tokenize g source = tokenize g' source ∧
    ((PlacedLexer.start g source).after g 3).view g = ⟨some ⟨.text, 3, 4, ['z']⟩, "list", 4⟩ ∧
    ((PlacedLexer.start g' source).after g' 3).view g' =
      ⟨some ⟨.text, 3, 4, ['z']⟩, "list", 4⟩ := by
  intro rootDecl listDecl decl built rootState listState g g' source
  have hperm : decl.states.Perm [listDecl, rootDecl] := .swap ..
  have hbuild : decl.build .standard = .ok g := by decide +kernel
  have hbuild' : (decl.withStates [listDecl, rootDecl]).build .standard = .ok g' := by
    decide +kernel
  have hstack : ((PlacedLexer.start g source).after g 3).stack = ⟨1, [0, 1, 0]⟩ := by
    decide +kernel
  have hstack' : ((PlacedLexer.start g' source).after g' 3).stack = ⟨0, [1, 0, 1]⟩ := by
    decide +kernel
  have hview : ((PlacedLexer.start g source).after g 3).view g =
      ⟨some ⟨.text, 3, 4, ['z']⟩, "list", 4⟩ := by decide +kernel
  obtain ⟨htokens, hviews⟩ := (declaration_order .standard decl hperm).2 g g' hbuild hbuild' source
  exact ⟨⟨hperm, hbuild, hbuild', hstack, hstack'⟩, htokens, hview, (hviews 3).2 ▸ hview⟩

end GrammarDecl

end Highlighter
