import Mathlib.Data.List.Forall2
import Highlighter.Grammar.Basic

/-!
# Defects of a declaration

Building a grammar stops at the first defect it meets.  Here every defect of a
declaration is described by itself, whatever others there are, at the place where it
is.  The compiler of regular expressions is arbitrary.  A place is a list of numbers, and
of two places the one that is first in dictionary order is before the other.

* `[0, j]`: the name of state `j` was declared before.
* `[1]`: the entry state is not declared.
* `[2, i, 0, j, k]`: rule `j` of state `i` does not pass check `k` of its five.
* `[2, i, 1]`: state `i` is the entry state and a rule of it pops.

`Least D e` says that `e` is the defect at the first place of all.
-/

namespace Highlighter

/-! ## Places -/

section Places

variable {α ε : Type}

/-- The first place is before the second one, or they are the same. -/
def Precedes : List Nat → List Nat → Prop
  | [], _ => True
  | _ :: _, [] => False
  | i :: p, j :: q => i < j ∨ i = j ∧ Precedes p q

theorem precedes_cons_iff {i j : Nat} {p q : List Nat} :
    Precedes (i :: p) (j :: q) ↔ i < j ∨ i = j ∧ Precedes p q := Iff.rfl

theorem Precedes.refl : ∀ p : List Nat, Precedes p p
  | [] => trivial
  | _ :: p => Or.inr ⟨rfl, refl p⟩

/-- Two places that precede each other are one. -/
theorem Precedes.antisymm : ∀ {p q : List Nat}, Precedes p q → Precedes q p → p = q
  | [], [], _, _ => rfl
  | i :: p, j :: q, h, h' => by
    rcases precedes_cons_iff.mp h with hlt | ⟨rfl, hpq⟩
    · rcases precedes_cons_iff.mp h' with hlt' | ⟨rfl, -⟩
      · exact absurd hlt' (Nat.lt_asymm hlt)
      · exact absurd hlt (Nat.lt_irrefl j)
    · rcases precedes_cons_iff.mp h' with hlt' | ⟨-, hqp⟩
      · exact absurd hlt' (Nat.lt_irrefl i)
      · rw [antisymm hpq hqp]

/-- What is at the first of all places where there is something. -/
def Least (D : List Nat → ε → Prop) (e : ε) : Prop :=
  ∃ p, D p e ∧ ∀ p' e', D p' e' → Precedes p p'

/-- What there is in the members of a list, at the number of the member. -/
def InMember (xs : List α) (D : α → List Nat → ε → Prop) (p : List Nat) (e : ε) : Prop :=
  ∃ i x q, xs[i]? = some x ∧ p = i :: q ∧ D x q e

variable {D : α → List Nat → ε → Prop} {x : α} {xs : List α} {e : ε}

theorem InMember.nil {p : List Nat} : ¬ InMember [] D p e := by
  rintro ⟨i, x, q, hx, -⟩
  simp at hx

/-- There is something in a list with one more member in front if there is something in that
member or in the list. -/
theorem inMember_cons_iff {p : List Nat} : InMember (x :: xs) D p e ↔
    (∃ q, p = 0 :: q ∧ D x q e) ∨ ∃ i q, p = (i + 1) :: q ∧ InMember xs D (i :: q) e := by
  constructor
  · rintro ⟨i, y, q, hy, rfl, hD⟩
    cases i with
    | zero =>
      cases hy
      exact Or.inl ⟨q, rfl, hD⟩
    | succ i => exact Or.inr ⟨i, q, rfl, i, y, q, by simpa using hy, rfl, hD⟩
  · rintro (⟨q, rfl, hD⟩ | ⟨i, q, rfl, j, y, r, hy, heq, hD⟩)
    · exact ⟨0, x, q, rfl, rfl, hD⟩
    · cases heq
      exact ⟨i + 1, y, q, by simpa using hy, rfl, hD⟩

/-- What is first in the first member is first in the list. -/
theorem Least.head (h : Least (D x) e) : Least (InMember (x :: xs) D) e := by
  obtain ⟨p, hp, hleast⟩ := h
  refine ⟨0 :: p, inMember_cons_iff.mpr (Or.inl ⟨p, rfl, hp⟩), ?_⟩
  intro p' e' h'
  rcases inMember_cons_iff.mp h' with ⟨q, rfl, hq⟩ | ⟨i, q, rfl, -⟩
  · exact precedes_cons_iff.mpr (Or.inr ⟨rfl, hleast q e' hq⟩)
  · exact precedes_cons_iff.mpr (Or.inl (Nat.succ_pos i))

/-- What is first in the later members is first in the list if there is nothing in the first. -/
theorem Least.tail (hx : ∀ p e', ¬ D x p e') (h : Least (InMember xs D) e) :
    Least (InMember (x :: xs) D) e := by
  obtain ⟨_, ⟨i, y, q, hy, rfl, hD⟩, hleast⟩ := h
  refine ⟨(i + 1) :: q, ⟨i + 1, y, q, by simpa using hy, rfl, hD⟩, ?_⟩
  intro p' e' h'
  rcases inMember_cons_iff.mp h' with ⟨q', rfl, hq'⟩ | ⟨i', q', rfl, hq'⟩
  · exact absurd hq' (hx q' e')
  · have hle := hleast _ e' hq'
    rcases precedes_cons_iff.mp hle with hlt | ⟨rfl, hq⟩
    · exact precedes_cons_iff.mpr (Or.inl (Nat.succ_lt_succ hlt))
    · exact precedes_cons_iff.mpr (Or.inr ⟨rfl, hq⟩)

/-- There is one thing at most at a place of a list if there is one at most in each member. -/
theorem InMember.unique {p : List Nat} {e' : ε} (h : InMember xs D p e) (h' : InMember xs D p e')
    (hD : ∀ x p e e', D x p e → D x p e' → e = e') : e = e' := by
  obtain ⟨i, x, q, hx, rfl, hq⟩ := h
  obtain ⟨i', x', q', hx', heq, hq'⟩ := h'
  cases heq
  cases hx.symm.trans hx'
  exact hD x q e e' hq hq'

/-- The least defect is unique where each place has one. -/
theorem Least.unique {D : List Nat → ε → Prop} {e' : ε} (h : Least D e) (h' : Least D e')
    (hD : ∀ p e e', D p e → D p e' → e = e') : e = e' := by
  obtain ⟨p, hp, hleast⟩ := h
  obtain ⟨p', hp', hleast'⟩ := h'
  obtain rfl : p = p' := Precedes.antisymm (hleast p' e' hp') (hleast' p e hp)
  exact hD p e e' hp hp'

end Places

/-! ## Defects -/

/-- The names of the states of a declaration. -/
def GrammarDecl.names (decl : GrammarDecl) : List String := decl.states.map (·.name)

/-- The defects of a rule in a state, where `declared` tells the names of the states.  The place is
the number of the check. -/
inductive Rule.Defect (compile : Regex.Compiler) (state : String) (declared : String → Bool)
    (rule : Rule) : List Nat → GrammarError → Prop where
  /-- The pattern does not compile. -/
  | pattern {message : String} : compile.tied rule.ignoreCase rule.pattern = .error message →
      Defect compile state declared rule [0] (.invalidPattern state rule.pattern message)
  /-- On one of the probes the pattern has a match of no extent. -/
  | width {regex : Regex} {probe : Text} :
      compile.tied rule.ignoreCase rule.pattern = .ok regex → probe ∈ probes →
      regex.toPattern.stallsOn probe = true →
      Defect compile state declared rule [1] (.zeroWidth state rule.pattern)
  /-- The pattern has another number of groups than there are categories. -/
  | groups {regex : Regex} {categories : List Category} :
      compile.tied rule.ignoreCase rule.pattern = .ok regex → rule.action = .groups categories →
      regex.groupCount ≠ categories.length → Defect compile state declared rule [2]
        (.groupMismatch state rule.pattern regex.groupCount categories.length)
  /-- The lookahead does not compile. -/
  | lookahead {pattern : Text} {message : String} : rule.followedBy = some pattern →
      compile.tied rule.ignoreCase pattern = .error message →
      Defect compile state declared rule [3] (.invalidPattern state pattern message)
  /-- The state that is entered is not declared. -/
  | target {target : String} : rule.transition = .push target → declared target = false →
      Defect compile state declared rule [4] (.undefinedState state target)

/-- The defects of a state: those of its rules, and after them that the entry state pops. -/
inductive StateDecl.Defect (compile : Regex.Compiler) (entry : String) (names : List String)
    (s : StateDecl) : List Nat → GrammarError → Prop where
  /-- A defect of a rule. -/
  | rule {p : List Nat} {e : GrammarError} :
      InMember s.rules (Rule.Defect compile s.name names.contains) p e →
      Defect compile entry names s (0 :: p) e
  /-- A rule of the entry state pops. -/
  | pop {rule : Rule} : s.name = entry → rule ∈ s.rules → rule.transition = .pop →
      Defect compile entry names s [1] (.popFromEntry s.name)

/-- The defects of a declaration. -/
inductive GrammarDecl.Defect (compile : Regex.Compiler) (decl : GrammarDecl) :
    List Nat → GrammarError → Prop where
  /-- A name was declared before. -/
  | duplicate {j : Nat} {name : String} : decl.names[j]? = some name →
      name ∈ decl.names.take j → Defect compile decl [0, j] (.duplicateState name)
  /-- The entry state is not declared. -/
  | entry : decl.entry ∉ decl.names → Defect compile decl [1] (.missingEntry decl.entry)
  /-- A defect of a state. -/
  | state {p : List Nat} {e : GrammarError} :
      InMember decl.states (StateDecl.Defect compile decl.entry decl.names) p e →
      Defect compile decl (2 :: p) e

variable {compile : Regex.Compiler}

/-- A rule has one defect at most at a place. -/
theorem Rule.Defect.unique {state : String} {declared : String → Bool} {rule : Rule} {p : List Nat}
    {e e' : GrammarError} (h : rule.Defect compile state declared p e)
    (h' : rule.Defect compile state declared p e') : e = e' := by
  cases h <;> cases h' <;> grind

/-- A place in a state has one defect. -/
theorem StateDecl.Defect.unique {entry : String} {names : List String} {s : StateDecl}
    {p : List Nat} {e e' : GrammarError} (h : s.Defect compile entry names p e)
    (h' : s.Defect compile entry names p e') : e = e' := by
  cases h with
  | rule h =>
    cases h' with
    | rule h' => exact h.unique h' fun _ _ _ _ => Rule.Defect.unique
  | pop =>
    cases h' with
    | pop => rfl

/-- A place in a declaration has one defect. -/
theorem GrammarDecl.Defect.unique {decl : GrammarDecl} {p : List Nat} {e e' : GrammarError}
    (h : decl.Defect compile p e) (h' : decl.Defect compile p e') : e = e' := by
  cases h with
  | duplicate hj =>
    cases h' with
    | duplicate hj' => rw [Option.some.inj (hj.symm.trans hj')]
  | entry =>
    cases h' with
    | entry => rfl
  | state h =>
    cases h' with
    | state h' => exact h.unique h' fun _ _ _ _ => StateDecl.Defect.unique

/-! ## Rules -/

/-- What a rule is built into. -/
structure Rule.Builds (compile : Regex.Compiler) (rule : Rule) (built : BuiltRule) : Prop where
  /-- The pattern is that of the pattern text. -/
  pattern : ∃ regex, compile.tied rule.ignoreCase rule.pattern = .ok regex ∧
    built.pattern = regex.toPattern
  /-- The lookahead is that of the lookahead text. -/
  followedBy : Option.Rel (fun t p => ∃ regex, compile.tied rule.ignoreCase t = .ok regex ∧
    p = regex.toPattern) rule.followedBy built.followedBy
  lineStart : built.lineStart = rule.lineStart
  action : built.action = rule.action
  transition : built.transition = rule.transition

/-- An action fits a number of groups if it maps none, or has a category for each. -/
theorem Action.mismatch?_eq_none_iff {groups : Nat} {action : Action} :
    action.mismatch? groups = none ↔
      ∀ categories, action = .groups categories → groups = categories.length := by
  cases action <;> simp [mismatch?]

theorem Action.mismatch?_eq_some {groups n : Nat} {action : Action}
    (h : action.mismatch? groups = some n) :
    ∃ categories, action = .groups categories ∧ n = categories.length ∧
      groups ≠ categories.length := by
  cases action with
  | token category => cases h
  | groups categories =>
    rw [mismatch?] at h
    split at h
    · cases h
    · next hne =>
      cases h
      exact ⟨categories, rfl, rfl, hne⟩

section Rules

variable {rule : Rule} {state : String} {declared : String → Bool} {built : BuiltRule}
variable {e : GrammarError}

/-- A defect of a rule is the first if the checks before it are passed. -/
theorem Rule.Defect.least {k : Nat} (h : rule.Defect compile state declared [k] e)
    (hbefore : ∀ k' < k, ∀ e', ¬ rule.Defect compile state declared [k'] e') :
    Least (rule.Defect compile state declared) e := by
  refine ⟨[k], h, fun p e' h' => ?_⟩
  obtain ⟨k', rfl⟩ : ∃ k', p = [k'] := by cases h' <;> exact ⟨_, rfl⟩
  have hle : k ≤ k' := Nat.le_of_not_lt fun hlt => hbefore k' hlt e' h'
  rcases Nat.eq_or_lt_of_le hle with rfl | hlt
  · exact Precedes.refl _
  · exact precedes_cons_iff.mpr (Or.inl hlt)

/-- A rule with its two patterns is refused for its target, or it is finished. -/
theorem Rule.finish_cases (rule : Rule) (state : String) (declared : String → Bool) (p : Pattern)
    (q : Option Pattern) :
    (∃ target, rule.transition = .push target ∧ declared target = false ∧
      rule.finish state declared p q = .error (.undefinedState state target)) ∨
    (∀ target, rule.transition = .push target → declared target = true) ∧
      rule.finish state declared p q =
        .ok ⟨p, rule.lineStart, q, rule.action, rule.transition⟩ := by
  cases ht : rule.transition with
  | stay => exact Or.inr ⟨by simp, by simp only [finish, ht]⟩
  | pop => exact Or.inr ⟨by simp, by simp only [finish, ht]⟩
  | push target =>
    cases hd : declared target with
    | false =>
      exact Or.inl ⟨target, rfl, hd, by simp only [finish, ht, hd, Bool.false_eq_true, if_false]⟩
    | true => exact Or.inr ⟨by rintro _ ⟨⟩; exact hd, by simp only [finish, ht, hd, if_true]⟩

/-- A rule with its pattern is refused for its lookahead, or it is left to see to the target. -/
theorem Rule.withPattern_cases (compile : Regex.Compiler) (rule : Rule) (state : String)
    (declared : String → Bool) (p : Pattern) :
    (∃ t message, rule.followedBy = some t ∧ compile.tied rule.ignoreCase t = .error message ∧
      rule.withPattern compile state declared p = .error (.invalidPattern state t message)) ∨
    ∃ q, Option.Rel (fun t p => ∃ r, compile.tied rule.ignoreCase t = .ok r ∧ p = r.toPattern)
        rule.followedBy q ∧
      rule.withPattern compile state declared p = rule.finish state declared p q := by
  cases hlook : rule.followedBy with
  | none => exact Or.inr ⟨none, .none, by simp only [withPattern, hlook]⟩
  | some t =>
    cases hr : compile.tied rule.ignoreCase t with
    | error message => exact Or.inl ⟨t, message, rfl, hr, by simp only [withPattern, hlook, hr]⟩
    | ok r =>
      exact Or.inr ⟨some r.toPattern, .some ⟨r, hr, rfl⟩, by simp only [withPattern, hlook, hr]⟩

/-- A rule is refused for its first defect, or it has none and is built. -/
theorem Rule.build_cases (compile : Regex.Compiler) (rule : Rule) (state : String)
    (declared : String → Bool) :
    (∃ e, rule.build compile state declared = .error e ∧
      Least (rule.Defect compile state declared) e) ∨
    ∃ built, rule.build compile state declared = .ok built ∧ rule.Builds compile built ∧
      ∀ p e, ¬ rule.Defect compile state declared p e := by
  cases hregex : compile.tied rule.ignoreCase rule.pattern with
  | error message =>
    exact Or.inl ⟨_, by simp only [build, hregex], (Defect.pattern hregex).least (by simp)⟩
  | ok regex =>
  cases hwidth : probes.any regex.toPattern.stallsOn with
  | true =>
    obtain ⟨probe, hmem, hprobe⟩ := List.any_eq_true.mp hwidth
    refine Or.inl ⟨_, by simp only [build, hregex, hwidth, if_true],
      (Defect.width hregex hmem hprobe).least ?_⟩
    rintro k hk e h
    cases h <;> grind
  | false =>
  have hnowidth : ∀ probe ∈ probes, regex.toPattern.stallsOn probe = false := by
    simpa using hwidth
  cases hmismatch : rule.action.mismatch? regex.groupCount with
  | some n =>
    obtain ⟨categories, haction, rfl, hne⟩ := Action.mismatch?_eq_some hmismatch
    refine Or.inl ⟨_, by simp only [build, hregex, hwidth, hmismatch, Bool.false_eq_true, if_false],
      (Defect.groups hregex haction hne).least ?_⟩
    rintro k hk e h
    cases h <;> grind
  | none =>
  have hfits := Action.mismatch?_eq_none_iff.mp hmismatch
  have hbuild : rule.build compile state declared =
      rule.withPattern compile state declared regex.toPattern := by
    simp only [build, hregex, hwidth, hmismatch, Bool.false_eq_true, if_false]
  rcases rule.withPattern_cases compile state declared regex.toPattern with
    ⟨t, message, hlook, herror, hrefused⟩ | ⟨q, hq, hleft⟩
  · refine Or.inl ⟨_, hbuild.trans hrefused, (Defect.lookahead hlook herror).least ?_⟩
    rintro k hk e h
    cases h <;> grind
  have hlook : ∀ t message, rule.followedBy = some t →
      compile.tied rule.ignoreCase t ≠ .error message := by
    intro t message ht
    rw [ht] at hq
    cases hq with
    | some hr =>
    obtain ⟨r, hr, -⟩ := hr
    simp [hr]
  rcases rule.finish_cases state declared regex.toPattern q with
    ⟨target, htarget, hundeclared, hfinish⟩ | ⟨hdeclared, hfinish⟩
  · refine Or.inl ⟨_, hbuild.trans (hleft.trans hfinish),
      (Defect.target htarget hundeclared).least ?_⟩
    rintro k hk e h
    cases h <;> grind
  · refine Or.inr ⟨_, hbuild.trans (hleft.trans hfinish),
      ⟨⟨regex, hregex, rfl⟩, hq, rfl, rfl, rfl⟩, ?_⟩
    rintro p e h
    cases h <;> grind

end Rules

/-! ## Rules and states in a row -/

/-- What a state is built into: a state of its name, with its rules in their order. -/
structure StateDecl.Builds (compile : Regex.Compiler) (s : StateDecl) (built : State) : Prop where
  name : built.name = s.name
  rules : List.Forall₂ (Rule.Builds compile) s.rules built.rules

/-- The rules of a state are refused for their first defect, or they have none and are built. -/
theorem buildRules_cases (compile : Regex.Compiler) (state : String) (declared : String → Bool)
    (rules : List Rule) :
    (∃ e, buildRules compile state declared rules = .error e ∧
      Least (InMember rules (Rule.Defect compile state declared)) e) ∨
    ∃ table, buildRules compile state declared rules = .ok table ∧
      List.Forall₂ (Rule.Builds compile) rules table ∧
      ∀ p e, ¬ InMember rules (Rule.Defect compile state declared) p e := by
  induction rules with
  | nil => exact Or.inr ⟨[], rfl, .nil, fun _ _ => InMember.nil⟩
  | cons rule rules ih =>
    rcases rule.build_cases compile state declared with ⟨e, hbuild, hleast⟩ |
      ⟨built, hbuild, hbuilds, hnone⟩
    · exact Or.inl ⟨e, by rw [buildRules, hbuild], hleast.head⟩
    rcases ih with ⟨e, hrest, hleast⟩ | ⟨table, hrest, htable, hnonerest⟩
    · exact Or.inl ⟨e, by rw [buildRules, hbuild]; simp only [hrest], hleast.tail hnone⟩
    · refine Or.inr ⟨built :: table, by rw [buildRules, hbuild]; simp only [hrest],
        .cons hbuilds htable, fun p e h => ?_⟩
      rcases inMember_cons_iff.mp h with ⟨q, -, hq⟩ | ⟨i, q, -, hq⟩
      · exact hnone q e hq
      · exact hnonerest _ e hq

/-- Some rule pops exactly when one pops of those it was built into. -/
theorem any_pop_iff {rules : List Rule} {table : List BuiltRule}
    (h : List.Forall₂ (Rule.Builds compile) rules table) :
    table.any (·.transition == .pop) = true ↔ ∃ rule ∈ rules, rule.transition = .pop := by
  induction h with
  | nil => simp
  | cons hbuilds _ ih =>
    rw [List.any_cons, Bool.or_eq_true, ih, List.exists_mem_cons_iff, beq_iff_eq,
      hbuilds.transition]

/-- The states of a grammar are refused for their first defect, or they have none and are built. -/
theorem buildStates_cases (compile : Regex.Compiler) (entry : String) (names : List String)
    (decls : List StateDecl) :
    (∃ e, buildStates compile entry names.contains decls = .error e ∧
      Least (InMember decls (StateDecl.Defect compile entry names)) e) ∨
    ∃ states, buildStates compile entry names.contains decls = .ok states ∧
      List.Forall₂ (StateDecl.Builds compile) decls states ∧
      ∀ p e, ¬ InMember decls (StateDecl.Defect compile entry names) p e := by
  induction decls with
  | nil => exact Or.inr ⟨[], rfl, .nil, fun _ _ => InMember.nil⟩
  | cons s decls ih =>
    rcases buildRules_cases compile s.name names.contains s.rules with ⟨e, hrules, p, hp, hleast⟩ |
      ⟨table, hrules, htable, hnone⟩
    · have hstate : Least (s.Defect compile entry names) e := by
        refine ⟨0 :: p, .rule hp, fun p' e' h' => ?_⟩
        cases h' with
        | rule h' => exact precedes_cons_iff.mpr (Or.inr ⟨rfl, hleast _ e' h'⟩)
        | pop => exact precedes_cons_iff.mpr (Or.inl Nat.one_pos)
      exact Or.inl ⟨e, by rw [buildStates, hrules], hstate.head⟩
    by_cases hpop : s.name = entry ∧ ∃ rule ∈ s.rules, rule.transition = .pop
    · obtain ⟨hentry, rule, hmem, htransition⟩ := hpop
      have hany := (any_pop_iff htable).mpr ⟨rule, hmem, htransition⟩
      have hstate : Least (s.Defect compile entry names) (.popFromEntry s.name) := by
        refine ⟨[1], .pop hentry hmem htransition, fun p' e' h' => ?_⟩
        cases h' with
        | rule h' => exact absurd h' (hnone _ e')
        | pop => exact Precedes.refl _
      exact Or.inl ⟨_, by rw [buildStates, hrules]; simp only [hany, beq_iff_eq.mpr hentry,
        Bool.and_self, if_true], hstate.head⟩
    have hkeeps : (s.name == entry && table.any (·.transition == .pop)) = false := by
      rw [Bool.and_eq_false_imp]
      intro hentry
      rw [← Bool.not_eq_true, any_pop_iff htable]
      exact fun h => hpop ⟨beq_iff_eq.mp hentry, h⟩
    have hsound : ∀ p e, ¬ s.Defect compile entry names p e := by
      intro p e h
      cases h with
      | rule h => exact hnone _ e h
      | pop hentry hmem htransition => exact hpop ⟨hentry, _, hmem, htransition⟩
    rcases ih with ⟨e, hrest, hleast⟩ | ⟨states, hrest, hstates, hnonerest⟩
    · refine Or.inl ⟨e, ?_, hleast.tail hsound⟩
      rw [buildStates, hrules]
      simp only [hkeeps, hrest, Bool.false_eq_true, if_false]
    · refine Or.inr ⟨⟨s.name, table⟩ :: states, ?_, .cons ⟨rfl, htable⟩ hstates, fun p e h => ?_⟩
      · rw [buildStates, hrules]
        simp only [hkeeps, hrest, Bool.false_eq_true, if_false]
      · rcases inMember_cons_iff.mp h with ⟨q, -, hq⟩ | ⟨i, q, -, hq⟩
        · exact hsound q e hq
        · exact hnonerest _ e hq

/-! ## Repeated names -/

/-- The name found is at the first place where a name stands that stood before. -/
theorem firstRepeated?_eq_some {name : String} : ∀ {names seen : List String},
    firstRepeated? seen names = some name →
      ∃ j, names[j]? = some name ∧ name ∈ seen ++ names.take j ∧
        ∀ j' name', names[j']? = some name' → name' ∈ seen ++ names.take j' → j ≤ j'
  | [], seen, h => by cases h
  | first :: names, seen, h => by
    rw [firstRepeated?] at h
    split at h
    · next hseen =>
      cases h
      exact ⟨0, rfl, by simpa using hseen, fun j' _ _ _ => Nat.zero_le j'⟩
    · next hseen =>
      obtain ⟨j, hj, hmem, hleast⟩ := firstRepeated?_eq_some h
      refine ⟨j + 1, by simpa using hj, by simpa [or_left_comm] using hmem, ?_⟩
      intro j' name' hj' hmem'
      cases j' with
      | zero =>
        cases hj'
        exact absurd (by simpa using hmem') hseen
      | succ j' =>
        exact Nat.succ_le_succ (hleast j' name' (by simpa using hj')
          (by simpa [or_left_comm] using hmem'))

/-- No name is repeated where none is among those before it. -/
theorem firstRepeated?_eq_none_iff : ∀ {names seen : List String},
    firstRepeated? seen names = none ↔
      ∀ j name, names[j]? = some name → name ∉ seen ++ names.take j
  | [], seen => by simp [firstRepeated?]
  | first :: names, seen => by
    rw [firstRepeated?]
    split
    · next hseen =>
      refine iff_of_false (by simp) fun h => h 0 first rfl (by simpa using hseen)
    · next hseen =>
      rw [firstRepeated?_eq_none_iff]
      constructor
      · intro h j name hj hmem
        cases j with
        | zero =>
          cases hj
          exact hseen (by simpa using hmem)
        | succ j => exact h j name (by simpa using hj) (by simpa [or_left_comm] using hmem)
      · intro h j name hj hmem
        exact h (j + 1) name (by simpa using hj) (by simpa [or_left_comm] using hmem)

/-! ## Declarations -/

/-- A declaration is refused for its first defect, or it has none and is built. -/
theorem GrammarDecl.build_cases (compile : Regex.Compiler) (decl : GrammarDecl) :
    (∃ e, decl.build compile = .error e ∧ Least (decl.Defect compile) e) ∨
    ∃ states, decl.build compile = .ok ⟨decl.name, decl.entry, states⟩ ∧
      List.Forall₂ (StateDecl.Builds compile) decl.states states ∧
      ∀ p e, ¬ decl.Defect compile p e := by
  have hnames : decl.states.map (·.name) = decl.names := rfl
  cases hrepeated : firstRepeated? [] decl.names with
  | some name =>
    obtain ⟨j, hj, hmem, hleast⟩ := firstRepeated?_eq_some hrepeated
    refine Or.inl ⟨.duplicateState name, by simp only [build, hnames, hrepeated], [0, j],
      .duplicate hj (by simpa using hmem), fun p e h => ?_⟩
    cases h with
    | @duplicate j' name' hj' hmem' =>
      have hle : j ≤ j' := hleast j' name' hj' (by simpa using hmem')
      rcases Nat.eq_or_lt_of_le hle with rfl | hlt
      · exact Precedes.refl _
      · exact precedes_cons_iff.mpr (Or.inr ⟨rfl, precedes_cons_iff.mpr (Or.inl hlt)⟩)
    | entry => exact precedes_cons_iff.mpr (Or.inl (by decide))
    | state => exact precedes_cons_iff.mpr (Or.inl (by decide))
  | none =>
  have hdistinct : ∀ j name, decl.names[j]? = some name → name ∉ decl.names.take j := by
    simpa using firstRepeated?_eq_none_iff.mp hrepeated
  by_cases hentry : decl.entry ∈ decl.names
  · rcases buildStates_cases compile decl.entry decl.names decl.states with
      ⟨e, hstates, p, hp, hleast⟩ | ⟨states, hstates, hbuilds, hnone⟩
    · refine Or.inl ⟨e, ?_, 2 :: p, .state hp, fun p' e' h => ?_⟩
      · simp only [build, hnames, hrepeated, List.contains_iff_mem.mpr hentry, hstates,
          Bool.not_true, Bool.false_eq_true, if_false]
      · cases h with
        | duplicate hj hmem => exact absurd hmem (hdistinct _ _ hj)
        | entry hmissing => exact absurd hentry hmissing
        | state h => exact precedes_cons_iff.mpr (Or.inr ⟨rfl, hleast _ e' h⟩)
    · refine Or.inr ⟨states, ?_, hbuilds, fun p e h => ?_⟩
      · simp only [build, hnames, hrepeated, List.contains_iff_mem.mpr hentry, hstates,
          Bool.not_true, Bool.false_eq_true, if_false]
      · cases h with
        | duplicate hj hmem => exact hdistinct _ _ hj hmem
        | entry hmissing => exact hmissing hentry
        | state h => exact hnone _ e h
  · have hcontains : decl.names.contains decl.entry = false := by simpa using hentry
    refine Or.inl ⟨.missingEntry decl.entry, ?_, [1], .entry hentry, fun p e h => ?_⟩
    · simp only [build, hnames, hrepeated, hcontains, Bool.not_false, if_true]
    · cases h with
      | duplicate hj hmem => exact absurd hmem (hdistinct _ _ hj)
      | entry => exact Precedes.refl _
      | state => exact precedes_cons_iff.mpr (Or.inl (by decide))

end Highlighter
