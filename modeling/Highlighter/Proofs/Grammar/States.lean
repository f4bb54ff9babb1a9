import Highlighter.Proofs.Grammar.Firing
import Highlighter.Proofs.Grammar.Kinds
import Highlighter.Proofs.Scan.Levels

/-!
# The states of the built-in grammars

What the built tables say about states: the rules of each state, that both grammars
have two levels, and that every rule of a language has a kind.
-/

namespace Highlighter

namespace Pdfile

theorem rulesOf_root : table.rulesOf root = rootTable := rfl

theorem rulesOf_providerAttributes :
    table.rulesOf providerAttributes = providerAttributeTable := rfl

theorem rulesOf_commaList : table.rulesOf commaList = commaListTable := rfl

theorem rulesOf_shellCommandBody : table.rulesOf shellCommandBody = shellCommandTable := rfl

section Root

variable (lineStart : Bool) (t : Text)

/-- In `root` a blank starts a run of blanks. -/
theorem firstFiring?_root_of_blank {c : Char} (hc : isBlank c = true) :
    firstFiring? lineStart (c :: t) rootTable =
      some (BuiltRule.blanks,
        ⟨0, Text.size (c :: t.takeWhile isBlank), [], t.dropWhile isBlank⟩) :=
  firstFiring?_blanks lineStart t _ hc

/-- In `root` a `#` starts a comment up to the end of the line. -/
theorem firstFiring?_root_of_hash :
    firstFiring? lineStart ('#' :: t) rootTable =
      some (.comment .stay,
        ⟨0, Text.size ('#' :: t.takeWhile (· != '\n')), [], t.dropWhile (· != '\n')⟩) := by
  have hblank : BuiltRule.blanks.fires? lineStart ('#' :: t) = none :=
    BuiltRule.fires?_blanks_eq_none (by simp; decide)
  show firstFiring? lineStart ('#' :: t) (BuiltRule.blanks :: .comment .stay :: _) = _
  rw [firstFiring?, hblank, firstFiring?, BuiltRule.fires?_comment]

end Root

/-- The states that are entered from `root`. -/
def innerStates : List String := [providerAttributes, commaList, shellCommandBody]

/-- In every inner state a line end fires the rule that leaves the state. -/
theorem firstFiring?_inner {state : String} (hstate : state ∈ innerStates) (lineStart : Bool)
    {t : Text} {c : Char} (hc : c ≠ '#') {m : Match}
    (hm : Pattern.newline.tied.find (c :: t) = some m) :
    firstFiring? lineStart (c :: t) (table.rulesOf state) = some (.closingLineEnd, m) := by
  have hnewline : BuiltRule.closingLineEnd.fires? lineStart (c :: t) = some m := by
    rw [BuiltRule.closingLineEnd, BuiltRule.fires?_plain rfl, hm]
  have hcomment : (BuiltRule.comment .pop).fires? lineStart (c :: t) = none :=
    BuiltRule.fires?_comment_eq_none (by simpa using hc)
  simp only [innerStates, List.mem_cons, List.not_mem_nil, or_false] at hstate
  rcases hstate with rfl | rfl | rfl
  · rw [rulesOf_providerAttributes, providerAttributeTable, firstFiring?, hcomment, firstFiring?,
      hnewline]
  · rw [rulesOf_commaList, commaListTable, firstFiring?, hcomment, firstFiring?, hnewline]
  · rw [rulesOf_shellCommandBody, shellCommandTable, firstFiring?, hnewline]

/-- The root state opens the inner states, and they open no other. -/
theorem twoLevel : table.TwoLevel innerStates where
  entry := by
    rw [show table.entry = root from rfl, rulesOf_root]
    decide
  inner := by
    simp only [innerStates, List.forall_mem_cons]
    refine ⟨?_, ?_, ?_, by simp⟩
    · rw [rulesOf_providerAttributes]
      decide
    · rw [rulesOf_commaList]
      decide
    · rw [rulesOf_shellCommandBody]
      decide

end Pdfile

namespace Prldevops

theorem rulesOf_root : table.rulesOf root = rootTable := rfl

theorem rulesOf_commandBody : table.rulesOf commandBody = commandBodyTable := rfl

/-- In `root` a blank starts a run of blanks. -/
theorem firstFiring?_root_of_blank (lineStart : Bool) (t : Text) {c : Char}
    (hc : isBlank c = true) :
    firstFiring? lineStart (c :: t) rootTable =
      some (BuiltRule.blanks,
        ⟨0, Text.size (c :: t.takeWhile isBlank), [], t.dropWhile isBlank⟩) :=
  firstFiring?_blanks lineStart t _ hc

/-- The states that are entered from `root`. -/
def innerStates : List String := [commandBody]

/-- In the inner state a line end fires the rule that leaves the state. -/
theorem firstFiring?_inner {state : String} (hstate : state ∈ innerStates) (lineStart : Bool)
    {t : Text} {m : Match} (hm : Pattern.newline.tied.find t = some m) :
    firstFiring? lineStart t (table.rulesOf state) = some (.closingLineEnd, m) := by
  obtain rfl : state = commandBody := by simpa [innerStates] using hstate
  have hnewline : BuiltRule.closingLineEnd.fires? lineStart t = some m := by
    rw [BuiltRule.closingLineEnd, BuiltRule.fires?_plain rfl, hm]
  rw [rulesOf_commandBody, commandBodyTable, firstFiring?, hnewline]

theorem twoLevel : table.TwoLevel innerStates where
  entry := by
    rw [show table.entry = root from rfl, rulesOf_root]
    decide
  inner := by
    simp only [innerStates, List.forall_mem_cons]
    refine ⟨?_, by simp⟩
    rw [rulesOf_commandBody]
    decide

end Prldevops

/-- The rules of a state are those of a declared state, or none. -/
theorem Grammar.rulesOf_eq (g : Grammar) (state : String) :
    g.rulesOf state = [] ∨ ∃ s ∈ g.states, s.name = state ∧ g.rulesOf state = s.rules := by
  rw [rulesOf]
  cases h : g.states.find? (·.name == state) with
  | none => exact Or.inl rfl
  | some s =>
    exact Or.inr ⟨s, List.mem_of_find?_eq_some h, by simpa using List.find?_some h, rfl⟩

/-- What holds of the rules of the declared states holds of the rules of every state. -/
theorem Grammar.forall_mem_rulesOf (g : Grammar) {P : BuiltRule → Prop}
    (h : ∀ s ∈ g.states, ∀ rule ∈ s.rules, P rule) (state : String) :
    ∀ rule ∈ g.rulesOf state, P rule := by
  rcases g.rulesOf_eq state with hnone | ⟨s, hs, -, hrules⟩
  · rw [hnone]
    simp
  · rw [hrules]
    exact h s hs

namespace Language

/-- The states that are entered from the entry state of a language. -/
def innerStates : Language → List String
  | pdfile => Pdfile.innerStates
  | prldevops => Prldevops.innerStates

theorem twoLevel (l : Language) : l.grammar.TwoLevel l.innerStates := by
  cases l with
  | pdfile =>
    rw [grammar, pdfileGrammar_eq]
    exact Pdfile.twoLevel
  | prldevops =>
    rw [grammar, prldevopsGrammar_eq]
    exact Prldevops.twoLevel

/-- Both languages are entered in their root state. -/
theorem entry_eq (l : Language) : l.grammar.entry = "root" := by
  cases l with
  | pdfile =>
    rw [grammar, pdfileGrammar_eq]
    rfl
  | prldevops =>
    rw [grammar, prldevopsGrammar_eq]
    rfl

/-- The root state is no inner state. -/
theorem ne_root_of_mem_innerStates (l : Language) : ∀ state ∈ l.innerStates, state ≠ "root" := by
  cases l <;> decide

/-- In the entry state of a language a blank starts a run of blanks. -/
theorem firstFiring?_entry_of_blank (l : Language) (lineStart : Bool) (t : Text) {c : Char}
    (hc : isBlank c = true) :
    firstFiring? lineStart (c :: t) (l.grammar.rulesOf l.grammar.entry) =
      some (BuiltRule.blanks,
        ⟨0, Text.size (c :: t.takeWhile isBlank), [], t.dropWhile isBlank⟩) := by
  cases l with
  | pdfile =>
    rw [grammar, pdfileGrammar_eq]
    exact Pdfile.firstFiring?_root_of_blank lineStart t hc
  | prldevops =>
    rw [grammar, prldevopsGrammar_eq]
    exact Prldevops.firstFiring?_root_of_blank lineStart t hc

/-- In an inner state of a language a line end fires the rule that leaves the state. -/
theorem firstFiring?_inner (l : Language) {state : String} (hstate : state ∈ l.innerStates)
    (lineStart : Bool) {t : Text} {c : Char} (hc : c ≠ '#') {m : Match}
    (hm : Pattern.newline.tied.find (c :: t) = some m) :
    firstFiring? lineStart (c :: t) (l.grammar.rulesOf state) =
      some (.closingLineEnd, m) := by
  cases l with
  | pdfile =>
    rw [grammar, pdfileGrammar_eq]
    exact Pdfile.firstFiring?_inner hstate lineStart hc hm
  | prldevops =>
    rw [grammar, prldevopsGrammar_eq]
    exact Prldevops.firstFiring?_inner hstate lineStart hm

/-- Every rule of a language has a kind. -/
theorem kind_of_mem (l : Language) (state : String) :
    ∀ rule ∈ l.grammar.rulesOf state, rule.Kind := by
  refine l.grammar.forall_mem_rulesOf ?_ state
  cases l with
  | pdfile =>
    rw [grammar, pdfileGrammar_eq]
    simp only [Pdfile.table, List.forall_mem_cons]
    exact ⟨Pdfile.kind_of_mem_rootTable, Pdfile.kind_of_mem_providerAttributeTable,
      Pdfile.kind_of_mem_commaListTable, Pdfile.kind_of_mem_shellCommandTable, by simp⟩
  | prldevops =>
    rw [grammar, prldevopsGrammar_eq]
    simp only [Prldevops.table, List.forall_mem_cons]
    exact ⟨Prldevops.kind_of_mem_rootTable, Prldevops.kind_of_mem_commandBodyTable, by simp⟩

end Language

end Highlighter
