import Mathlib.Data.List.Nodup
import Highlighter.Proofs.Grammar.Defects

/-!
# Validation of a declaration

A declaration is built exactly when it is valid, and it is refused for the first of
its defects otherwise.  A valid declaration has distinct states, among them the entry
state.  The pattern of each of its rules is a regular expression that matches no probe
without extent and has a group for each category.  The lookaheads are regular
expressions, the states that are entered are declared, and the entry state never pops.
What is a regular expression is left to the compiler, which is arbitrary here.

A built grammar is *closed*: a rule enters a state that the grammar has, and no rule of
the entry state pops.
-/

namespace Highlighter

/-! ## Valid declarations -/

/-- What makes a rule valid, where `names` are those of the states. -/
structure Rule.Valid (compile : Regex.Compiler) (names : List String) (rule : Rule) : Prop where
  /-- The pattern is a regular expression that matches no probe without extent and has as many
  groups as there are categories. -/
  pattern : ∃ regex, compile.tied rule.ignoreCase rule.pattern = .ok regex ∧
    (∀ probe ∈ probes, ∀ m, regex.toPattern.find probe = some m → m.start ≠ m.stop) ∧
    ∀ categories, rule.action = .groups categories → categories.length = regex.groupCount
  /-- The lookahead is a regular expression. -/
  lookahead : ∀ t, rule.followedBy = some t → ∃ regex, compile.tied rule.ignoreCase t = .ok regex
  /-- The state that is entered is declared. -/
  target : ∀ target, rule.transition = .push target → target ∈ names

/-- What makes a declaration valid. -/
structure GrammarDecl.Valid (compile : Regex.Compiler) (decl : GrammarDecl) : Prop where
  /-- No name is declared twice. -/
  distinct : decl.names.Nodup
  /-- The entry state is declared. -/
  entry : decl.entry ∈ decl.names
  /-- Every rule is valid. -/
  rules : ∀ s ∈ decl.states, ∀ rule ∈ s.rules, rule.Valid compile decl.names
  /-- No rule of the entry state pops. -/
  keepsEntry : ∀ s ∈ decl.states, s.name = decl.entry → ∀ rule ∈ s.rules, rule.transition ≠ .pop

variable {compile : Regex.Compiler}

/-- A pattern stalls on a text if it has a match of no extent there. -/
theorem Pattern.stallsOn_eq_false_iff {p : Pattern} {t : Text} :
    p.stallsOn t = false ↔ ∀ m, p.find t = some m → m.start ≠ m.stop := by
  rw [stallsOn]
  cases p.find t <;> simp [Match.isEmpty]

/-- What is never refused is compiled. -/
theorem exists_ok_of_ne_error {ε α : Type} {x : Except ε α} (h : ∀ e, x ≠ .error e) :
    ∃ a, x = .ok a := by
  cases x with
  | error e => exact absurd rfl (h e)
  | ok a => exact ⟨a, rfl⟩

/-- A rule is valid exactly when it has no defect. -/
theorem Rule.valid_iff {rule : Rule} {state : String} {names : List String} :
    rule.Valid compile names ↔ ∀ p e, ¬ rule.Defect compile state names.contains p e := by
  constructor
  · rintro ⟨⟨regex, hregex, hwidth, hgroups⟩, hlook, htarget⟩ p e h
    cases h with
    | pattern herror => cases hregex.symm.trans herror
    | width hregex' hprobe hstalls =>
      cases hregex.symm.trans hregex'
      rw [Pattern.stallsOn_eq_false_iff.mpr (hwidth _ hprobe)] at hstalls
      cases hstalls
    | groups hregex' haction hne =>
      cases hregex.symm.trans hregex'
      exact hne (hgroups _ haction).symm
    | lookahead ht herror =>
      obtain ⟨r, hr⟩ := hlook _ ht
      cases hr.symm.trans herror
    | target ht hundeclared =>
      rw [List.contains_iff_mem.mpr (htarget _ ht)] at hundeclared
      cases hundeclared
  · intro h
    obtain ⟨regex, hregex⟩ : ∃ regex, compile.tied rule.ignoreCase rule.pattern = .ok regex :=
      exists_ok_of_ne_error fun _ herror => h _ _ (.pattern herror)
    refine ⟨⟨regex, hregex, fun probe hprobe => ?_, fun categories haction => ?_⟩,
      fun t ht => ?_, fun target ht => ?_⟩
    · rw [← Pattern.stallsOn_eq_false_iff, ← Bool.not_eq_true]
      exact fun hstalls => h _ _ (.width hregex hprobe hstalls)
    · by_contra hne
      exact h _ _ (.groups hregex haction (Ne.symm hne))
    · exact exists_ok_of_ne_error fun _ herror => h _ _ (.lookahead ht herror)
    · by_contra hmissing
      exact h _ _ (.target ht (by simpa using hmissing))

/-- The members of a list are distinct exactly when none stood before. -/
theorem nodup_iff_notMem_take {l : List String} :
    l.Nodup ↔ ∀ j name, l[j]? = some name → name ∉ l.take j := by
  rw [List.nodup_iff_getElem?_ne_getElem?]
  constructor
  · intro h j name hj hmem
    obtain ⟨i, hi, hname⟩ := List.mem_take_iff_getElem.mp hmem
    obtain ⟨hlt, -⟩ := List.getElem?_eq_some_iff.mp hj
    exact h i j (by omega) hlt (by rw [hj, ← hname]; exact List.getElem?_eq_getElem _)
  · intro h i j hij hj heq
    have hname : l[j]? = some l[j] := List.getElem?_eq_getElem hj
    exact h j _ hname (List.mem_take_iff_getElem.mpr
      ⟨i, by omega, (List.getElem?_eq_some_iff.mp (heq.trans hname)).2⟩)

/-- A declaration is valid exactly when it has no defect. -/
theorem GrammarDecl.valid_iff {decl : GrammarDecl} :
    decl.Valid compile ↔ ∀ p e, ¬ decl.Defect compile p e := by
  constructor
  · rintro ⟨hdistinct, hentry, hrules, hkeeps⟩ p e h
    cases h with
    | duplicate hj hmem => exact nodup_iff_notMem_take.mp hdistinct _ _ hj hmem
    | entry hmissing => exact hmissing hentry
    | state h =>
      obtain ⟨i, s, q, hs, -, h⟩ := h
      have hmem := List.mem_of_getElem? hs
      cases h with
      | rule h =>
        obtain ⟨j, rule, r, hrule, -, h⟩ := h
        exact Rule.valid_iff.mp (hrules s hmem rule (List.mem_of_getElem? hrule)) r _ h
      | pop hname hrule hpop => exact hkeeps s hmem hname _ hrule hpop
  · intro h
    -- A defect of a member is one of the declaration, at the place of the member.
    have hstate : ∀ s ∈ decl.states, ∀ p e, ¬ s.Defect compile decl.entry decl.names p e := by
      intro s hs p e hdefect
      obtain ⟨i, hi⟩ := List.mem_iff_getElem?.mp hs
      exact h _ e (.state ⟨i, s, p, hi, rfl, hdefect⟩)
    refine ⟨?_, ?_, ?_, ?_⟩
    · exact nodup_iff_notMem_take.mpr fun j name hj hmem => h _ _ (.duplicate hj hmem)
    · by_contra hmissing
      exact h _ _ (.entry hmissing)
    · intro s hs rule hrule
      rw [Rule.valid_iff]
      intro p e hdefect
      obtain ⟨j, hj⟩ := List.mem_iff_getElem?.mp hrule
      exact hstate s hs _ e (.rule ⟨j, rule, p, hj, rfl, hdefect⟩)
    · exact fun s hs hname rule hrule hpop => hstate s hs _ _ (.pop hname hrule hpop)

/-! ## Closed grammars -/

/-- Transitions stay inside a grammar, and the entry state is never left. -/
structure Grammar.Closed (g : Grammar) : Prop where
  /-- No two states have one name. -/
  distinct : (g.states.map (·.name)).Nodup
  /-- The entry state is a state. -/
  entry : g.entry ∈ g.states.map (·.name)
  /-- What a rule enters is a state. -/
  target : ∀ s ∈ g.states, ∀ rule ∈ s.rules, ∀ target, rule.transition = .push target →
    target ∈ g.states.map (·.name)
  /-- No rule of the entry state pops. -/
  keepsEntry : ∀ s ∈ g.states, s.name = g.entry → ∀ rule ∈ s.rules, rule.transition ≠ .pop

/-- What is on the right of a pairing is paired with something on the left. -/
theorem exists_left_of_mem {α β : Type} {R : α → β → Prop} {xs : List α} {ys : List β}
    (h : List.Forall₂ R xs ys) {y : β} (hy : y ∈ ys) : ∃ x ∈ xs, R x y := by
  induction h with
  | nil => simp at hy
  | cons hxy _ ih =>
    rcases List.mem_cons.mp hy with rfl | hy
    · exact ⟨_, List.mem_cons_self .., hxy⟩
    · obtain ⟨x, hx, hR⟩ := ih hy
      exact ⟨x, List.mem_cons_of_mem _ hx, hR⟩

/-- The states of a grammar have the names of the states it is built from. -/
theorem names_eq_of_builds {decls : List StateDecl} {states : List State}
    (h : List.Forall₂ (StateDecl.Builds compile) decls states) :
    states.map (·.name) = decls.map (·.name) := by
  induction h with
  | nil => rfl
  | cons hbuilds _ ih => rw [List.map_cons, List.map_cons, hbuilds.name, ih]

/-- What is built comes from a valid declaration, state by state. -/
theorem GrammarDecl.builds_of_build {decl : GrammarDecl} {g : Grammar}
    (h : decl.build compile = .ok g) :
    decl.Valid compile ∧ g.name = decl.name ∧ g.entry = decl.entry ∧
      List.Forall₂ (StateDecl.Builds compile) decl.states g.states := by
  rcases decl.build_cases compile with ⟨e, herror, -⟩ | ⟨states, hok, hbuilds, hnone⟩
  · cases h.symm.trans herror
  · cases h.symm.trans hok
    exact ⟨valid_iff.mpr hnone, rfl, rfl, hbuilds⟩

theorem GrammarDecl.names_of_build {decl : GrammarDecl} {g : Grammar}
    (h : decl.build compile = .ok g) :
    g.states.map (·.name) = decl.names :=
  names_eq_of_builds (builds_of_build h).2.2.2

/-- A built grammar is closed. -/
theorem GrammarDecl.closed_of_build {decl : GrammarDecl} {g : Grammar}
    (h : decl.build compile = .ok g) : g.Closed := by
  obtain ⟨hvalid, -, hentry, hbuilds⟩ := builds_of_build h
  have hnames := names_of_build h
  refine ⟨hnames ▸ hvalid.distinct, hentry ▸ hnames ▸ hvalid.entry, ?_, ?_⟩
  · intro s hs rule hrule target htarget
    obtain ⟨d, hd, hbuilt⟩ := exists_left_of_mem hbuilds hs
    obtain ⟨r, hr, hrule⟩ := exists_left_of_mem hbuilt.rules hrule
    rw [hrule.transition] at htarget
    exact hnames ▸ (hvalid.rules d hd r hr).target target htarget
  · intro s hs hname rule hrule
    obtain ⟨d, hd, hbuilt⟩ := exists_left_of_mem hbuilds hs
    obtain ⟨r, hr, hrule⟩ := exists_left_of_mem hbuilt.rules hrule
    rw [hrule.transition]
    exact hvalid.keepsEntry d hd (hbuilt.name.symm.trans (hname.trans hentry)) r hr

/-- The rules in force in a state of a closed grammar are those of the one state of that name. -/
theorem Grammar.Closed.rulesOf_eq {g : Grammar} (h : g.Closed) {s : State} (hs : s ∈ g.states) :
    g.rulesOf s.name = s.rules := by
  cases hfind : g.states.find? (·.name == s.name) with
  | none => simpa using List.find?_eq_none.mp hfind s hs
  | some s' =>
    have hname : s'.name = s.name := by simpa using List.find?_some hfind
    have hs' := List.mem_of_find?_eq_some hfind
    rw [rulesOf, hfind, List.inj_on_of_nodup_map h.distinct hs' hs hname]

/-- A name of a closed grammar is that of one state. -/
theorem Grammar.Closed.existsUnique {g : Grammar} (h : g.Closed) {name : String}
    (hname : name ∈ g.states.map (·.name)) :
    ∃! s, s ∈ g.states ∧ s.name = name ∧ g.rulesOf name = s.rules := by
  obtain ⟨s, hs, rfl⟩ := List.mem_map.mp hname
  refine ⟨s, ⟨hs, rfl, h.rulesOf_eq hs⟩, ?_⟩
  rintro s' ⟨hs', heq, -⟩
  exact List.inj_on_of_nodup_map h.distinct hs' hs heq

/-! ## What building gives -/

/-- Whatever compiles the patterns, a declaration is built exactly when it is valid, and is refused
for the defect at the first place otherwise.  What is built has the states and the rules in their
order, and a rule enters the one state of the name. -/
theorem GrammarDecl.build_exact (compile : Regex.Compiler) (decl : GrammarDecl) :
    ((∃ g, decl.build compile = .ok g) ↔ decl.Valid compile) ∧
    (∀ e, decl.build compile = .error e ↔ Least (decl.Defect compile) e) ∧
    ∀ g, decl.build compile = .ok g →
      g.name = decl.name ∧ g.entry = decl.entry ∧ g.states.map (·.name) = decl.names ∧
      List.Forall₂ (StateDecl.Builds compile) decl.states g.states ∧
      ∀ s ∈ g.states, ∀ rule ∈ s.rules, ∀ target, rule.transition = .push target →
        ∃! s', s' ∈ g.states ∧ s'.name = target ∧ g.rulesOf target = s'.rules := by
  rcases decl.build_cases compile with ⟨e, herror, hleast⟩ | ⟨states, hok, hbuilds, hnone⟩
  · refine ⟨iff_of_false ?_ ?_, fun e' => ⟨fun h => ?_, fun h => ?_⟩, fun g h => ?_⟩
    · rintro ⟨g, hg⟩
      cases hg.symm.trans herror
    · obtain ⟨p, hp, -⟩ := hleast
      exact fun hvalid => valid_iff.mp hvalid p e hp
    · cases h.symm.trans herror
      exact hleast
    · rw [herror, hleast.unique h fun _ _ _ => Defect.unique]
    · cases h.symm.trans herror
  · refine ⟨iff_of_true ⟨_, hok⟩ (valid_iff.mpr hnone), fun e' => iff_of_false ?_ ?_, fun g h => ?_⟩
    · intro h
      cases h.symm.trans hok
    · rintro ⟨p, hp, -⟩
      exact hnone p e' hp
    · have hclosed := closed_of_build h
      obtain ⟨-, hname, hentry, hbuilds⟩ := builds_of_build h
      exact ⟨hname, hentry, names_of_build h, hbuilds, fun s hs rule hrule target htarget =>
        hclosed.existsUnique (hclosed.target s hs rule hrule target htarget)⟩

end Highlighter
