import Mathlib.Data.List.Forall2
import Highlighter.Grammar.Basic
import Highlighter.Proofs.Regex.Meaning

/-!
# Building from meanings

Building a grammar compiles every pattern text.  Here the standard compiler is replaced
by its result.  `rule.Means p q` says that the pattern text of a rule means `p`, its
lookahead means `q`, `p` consumes, and there is a category for each group.  Such a
rule passes every check of `Rule.build` and is built into `rule.builtFrom p q`.

`GrammarDecl.build_eq_ok` puts rules together: a declaration whose rules are all
built is built into the states with the rules in the same order.
-/

namespace Highlighter

/-! ## Rules -/

/-- The number of groups an action has categories for, if it maps groups at all. -/
def Action.Fits (groups : Nat) : Action → Prop
  | .token _ => True
  | .groups categories => groups = categories.length

/-- What the texts of a rule mean. -/
structure Rule.Means (rule : Rule) (p : Pattern) (q : Option Pattern) : Prop where
  /-- The pattern, with as many groups as there are categories. -/
  pattern : ∃ groups n, Regex.MeansBody rule.ignoreCase 0 groups n rule.pattern p ∧ n ≤ 130 ∧
    rule.action.Fits groups
  /-- The pattern consumes. -/
  consumes : p.consumes = true
  /-- The lookahead. -/
  lookahead : Option.Rel (fun t q => ∃ groups n,
    Regex.MeansBody rule.ignoreCase 0 groups n t q ∧ n ≤ 130) rule.followedBy q

/-- A rule built with a pattern and a lookahead. -/
def Rule.builtFrom (rule : Rule) (p : Pattern) (q : Option Pattern) : BuiltRule :=
  { pattern := p.tied
    lineStart := rule.lineStart
    followedBy := q.map Pattern.tied
    action := rule.action
    transition := rule.transition }

/-- Whether the state a transition enters, if it enters one, is declared. -/
def Transition.Declared (declared : String → Bool) : Transition → Prop
  | .push state => declared state = true
  | _ => True

/-- An action that fits names as many groups as the pattern has. -/
theorem Action.Fits.mismatch?_eq_none {groups : Nat} {action : Action} (h : action.Fits groups) :
    action.mismatch? groups = none := by
  cases action with
  | token category => rfl
  | groups categories => exact if_pos h

/-- A pattern that consumes matches no probe without extent. -/
theorem Pattern.stallsOn_tied_eq_false {p : Pattern} (h : p.consumes = true) (t : Text) :
    p.tied.stallsOn t = false := by
  rw [stallsOn]
  cases hfind : p.tied.find t with
  | none => rfl
  | some m =>
    have hcons : p.tied.consumes = true := by simp [tied, consumes, h]
    simpa using isEmpty_of_find hcons hfind

/-- A rule is finished where the state it enters is declared. -/
theorem Rule.finish_eq_ok {rule : Rule} {declared : String → Bool}
    (htarget : rule.transition.Declared declared) (state : String) (p : Pattern)
    (q : Option Pattern) :
    rule.finish state declared p q =
      .ok ⟨p, rule.lineStart, q, rule.action, rule.transition⟩ := by
  cases ht : rule.transition with
  | stay => simp only [finish, ht]
  | pop => simp only [finish, ht]
  | push target =>
    rw [ht] at htarget
    have hdeclared : declared target = true := htarget
    simp only [finish, ht, hdeclared, if_true]

/-- A rule whose texts have a meaning is built. -/
theorem Rule.build_eq_ok {rule : Rule} {p : Pattern} {q : Option Pattern} (h : rule.Means p q)
    (state : String) {declared : String → Bool} (htarget : rule.transition.Declared declared) :
    rule.build .standard state declared = .ok (rule.builtFrom p q) := by
  obtain ⟨⟨groups, n, hbody, hn, hfits⟩, hconsumes, hlook⟩ := h
  obtain ⟨r, hr, hpattern, rfl⟩ := hbody.tied_eq_ok hn
  have htied : r.toPattern = p.tied := hpattern
  have hstalls : probes.any p.tied.stallsOn = false :=
    List.any_eq_false.mpr fun t _ => by simp [Pattern.stallsOn_tied_eq_false hconsumes]
  have hbuild : rule.build .standard state declared =
      rule.withPattern .standard state declared p.tied := by
    simp only [build, hr, htied, hstalls, hfits.mismatch?_eq_none, Bool.false_eq_true, if_false]
  rw [hbuild, withPattern]
  cases hf : rule.followedBy with
  | none =>
    rw [hf] at hlook
    cases hlook
    exact finish_eq_ok htarget state _ _
  | some t =>
    rw [hf] at hlook
    cases hlook with
    | some hlook =>
    obtain ⟨groups', n', hbody', hn'⟩ := hlook
    obtain ⟨r', hr', hpattern', -⟩ := hbody'.tied_eq_ok hn'
    simp only [hr', hpattern']
    exact finish_eq_ok htarget state _ _

/-- What a rule without a lookahead means, from what its pattern is read as. -/
theorem Rule.Means.alone {rule : Rule} {p : Pattern} {groups n : Nat}
    (h : Regex.MeansSeq rule.ignoreCase 0 groups n rule.pattern p) (hn : n ≤ 130)
    (hfits : rule.action.Fits groups) (hconsumes : p.consumes = true)
    (hnone : rule.followedBy = none) : rule.Means p none :=
  ⟨⟨groups, n, h.body, hn, hfits⟩, hconsumes, hnone ▸ .none⟩

/-- What a rule with a lookahead means, from what its two patterns are read as. -/
theorem Rule.Means.before {rule : Rule} {p q : Pattern} {t : Text} {groups groups' n n' : Nat}
    (h : Regex.MeansSeq rule.ignoreCase 0 groups n rule.pattern p) (hn : n ≤ 130)
    (hfits : rule.action.Fits groups) (hconsumes : p.consumes = true)
    (hsome : rule.followedBy = some t)
    (hq : Regex.MeansSeq rule.ignoreCase 0 groups' n' t q) (hn' : n' ≤ 130) :
    rule.Means p (some q) :=
  ⟨⟨groups, n, h.body, hn, hfits⟩, hconsumes, hsome ▸ .some ⟨groups', n', hq.body, hn'⟩⟩

/-! ## States and grammars -/

/-- Rules are built into other rules, in the same order. -/
def BuildTo (declared : String → Bool) (rules : List Rule) (table : List BuiltRule) : Prop :=
  ∀ state,
    List.Forall₂ (fun rule built => rule.build .standard state declared = .ok built) rules table

section Tables

variable {declared : String → Bool} {rules rules' : List Rule} {table table' : List BuiltRule}

theorem BuildTo.nil : BuildTo declared [] [] := fun _ => .nil

/-- A rule that means two patterns is built with them in place of its texts. -/
theorem BuildTo.cons {rule : Rule} {built : BuiltRule} {p : Pattern} {q : Option Pattern}
    (h : rule.Means p q) (htarget : rule.transition.Declared declared)
    (hbuilt : rule.builtFrom p q = built) (hrest : BuildTo declared rules table) :
    BuildTo declared (rule :: rules) (built :: table) :=
  fun state => .cons (hbuilt ▸ Rule.build_eq_ok h state htarget) (hrest state)

theorem BuildTo.append (h : BuildTo declared rules table) (h' : BuildTo declared rules' table') :
    BuildTo declared (rules ++ rules') (table ++ table') :=
  fun state => List.rel_append (h state) (h' state)

/-- Rules that are listed for each entry of a table are built entry by entry. -/
theorem BuildTo.flatMap {α : Type} {f : α → List Rule} {g : α → List BuiltRule} :
    ∀ {entries : List α}, (∀ e ∈ entries, BuildTo declared (f e) (g e)) →
      BuildTo declared (entries.flatMap f) (entries.flatMap g)
  | [], _ => .nil
  | e :: entries, h => by
    have hrest := flatMap fun e' he' => h e' (List.mem_cons_of_mem e he')
    exact (h e (List.mem_cons_self ..)).append hrest

/-- Rules that are built into others pass the checks of their state. -/
theorem BuildTo.buildRules_eq_ok (h : BuildTo declared rules table) (state : String) :
    buildRules .standard state declared rules = .ok table := by
  have hbuilt := h state
  clear h
  induction hbuilt with
  | nil => rfl
  | cons hrule _ ih => rw [buildRules, hrule, ih]

end Tables

/-- The states of a grammar are built, where no rule of the entry state pops. -/
theorem buildStates_eq_ok {entry : String} {declared : String → Bool} {decls : List StateDecl}
    {states : List State}
    (h : List.Forall₂ (fun decl state => state.name = decl.name ∧
      BuildTo declared decl.rules state.rules ∧
        (decl.name = entry → ∀ rule ∈ state.rules, rule.transition ≠ .pop)) decls states) :
    buildStates .standard entry declared decls = .ok states := by
  induction h with
  | nil => rfl
  | @cons decl state decls states hstate _ ih =>
    obtain ⟨hname, hrules, hpop⟩ := hstate
    have hentry : (decl.name == entry && state.rules.any (·.transition == .pop)) = false := by
      rw [Bool.and_eq_false_imp]
      intro heq
      rw [List.any_eq_false]
      intro rule hrule
      simpa using hpop (beq_iff_eq.mp heq) rule hrule
    rw [buildStates, hrules.buildRules_eq_ok]
    simp only [hentry, Bool.false_eq_true, if_false, ih]
    rw [← hname]

/-- A declaration with distinct states, one of them the entry, is built state by state. -/
theorem GrammarDecl.build_eq_ok {decl : GrammarDecl} {states : List State}
    (hdistinct : firstRepeated? [] (decl.states.map (·.name)) = none)
    (hentry : decl.entry ∈ decl.states.map (·.name))
    (hstates : buildStates .standard decl.entry (decl.states.map (·.name)).contains decl.states =
      .ok states) :
    decl.build .standard = .ok ⟨decl.name, decl.entry, states⟩ := by
  rw [build]
  simp only [hdistinct, List.contains_iff_mem.mpr hentry, hstates, Bool.not_true,
    Bool.false_eq_true, if_false]

end Highlighter
