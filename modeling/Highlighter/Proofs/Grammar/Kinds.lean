import Highlighter.Proofs.Grammar.Characters
import Highlighter.Proofs.Pdfile.Table
import Highlighter.Proofs.Prldevops.Table

/-!
# The kinds of rules

The rules of the two built-in grammars are of few kinds.  Most stay within a line.
The others are a run of blanks, a run of characters that may take in the `\r` before
a line end, a line end, an escape, and the rule for any character of a line.

What a grammar does at a line end is proved kind by kind.  `Language.kind_of_mem`
says that every rule of every state has a kind.
-/

namespace Highlighter

open Category

/-! ## Kinds -/

/-- The lookaheads of rules that stay within a line. -/
inductive LineLookahead : Option Pattern → Prop where
  /-- No lookahead. -/
  | none : LineLookahead none
  /-- One that does not tell the two kinds of line ends apart. -/
  | oneLine {q : Pattern} : q.OneLine → LineLookahead (some q.tied)
  /-- The end of the line. -/
  | lineEnd : LineLookahead (some Pattern.lineEnd.tied)

/-- The kinds of rules of the built-in grammars. -/
inductive BuiltRule.Kind : BuiltRule → Prop where
  /-- A rule that stays within a line. -/
  | lined {p : Pattern} {lineStart : Bool} {q : Option Pattern} {action : Action}
      {t : Transition} : p.OneLine → LineLookahead q →
      BuiltRule.Kind ⟨p.tied, lineStart, q, action, t⟩
  /-- A run of blanks. -/
  | blanks {category : Category} :
      BuiltRule.Kind ⟨(Pattern.plus .space).tied, false, none, .token category, .stay⟩
  /-- A run that ends at the end of a line and may take in a `\r` before it. -/
  | run {s s' : CharSet} {category : Category} {t : Transition} : s.holds '\n' = false →
      s'.holds '\n' = false → s'.holds '\r' = true →
      BuiltRule.Kind ⟨(Pattern.seq (.one s) (.many true s')).tied, false, none, .token category, t⟩
  /-- A line end. -/
  | newline {category : Category} {t : Transition} :
      BuiltRule.Kind ⟨Pattern.newline.tied, false, none, .token category, t⟩
  /-- An escape. -/
  | escape {category : Category} :
      BuiltRule.Kind ⟨Pattern.escape.tied, false, none, .token category, .stay⟩
  /-- Any character of a line. -/
  | anyChar {category : Category} :
      BuiltRule.Kind ⟨(Pattern.one .inLine).tied, false, none, .token category, .stay⟩

/-! ## Rules of pdfile -/

namespace Pdfile

open Pattern

theorem oneLine_beforeEquals : beforeEquals.OneLine :=
  ⟨rfl, rfl, trivial, trivial⟩

section Entries

variable {entry : String × List String}

/-- A directive, blanks and parts inside the line are inside the line. -/
theorem inside_directiveThen (h : PlainEntry entry) {ps : List Pattern} {q : Pattern}
    (hps : ∀ p ∈ ps, p.Inside) (hq : q.Inside) :
    (groupsThen 1 (.literal entry.1 :: .blanks :: ps) q).Inside := by
  refine hq.groupsThen fun p hp => ?_
  rcases List.mem_cons.mp hp with rfl | hp
  · exact .literal h.directive
  · rcases List.mem_cons.mp hp with rfl | hp
    · exact .blanks
    · exact hps p hp

theorem inside_fieldValue (h : PlainEntry entry) : (fieldValue entry).Inside := by
  refine inside_directiveThen h ?_ (.group .argument 5)
  simp only [List.forall_mem_cons]
  exact ⟨.words h.words, .blanks, by simp⟩

theorem inside_fieldOnly (h : PlainEntry entry) : (fieldOnly entry).Inside := by
  refine inside_directiveThen h ?_ (.opt (.group (.seq (.many rfl rfl) (.one rfl rfl)) 4))
  simp only [List.forall_mem_cons]
  exact ⟨.words h.words, by simp⟩

theorem inside_anyValue (h : PlainEntry entry) : (anyValue entry).Inside :=
  inside_directiveThen h (by simp) (.group .argument 3)

theorem inside_wordValue (h : PlainEntry entry) : (wordValue entry).Inside :=
  inside_directiveThen h (by simp) (.group (.words h.words) 3)

/-- Every rule of a directive with fields stays within its line. -/
theorem kind_of_mem_fieldTable (h : PlainEntry entry) : ∀ rule ∈ fieldTable entry, rule.Kind := by
  have hwords := endsIn_eq_false (accepts_words outsideWords_return h.words)
  have hfield : (fieldOnly entry).endsIn '\r' = false := by
    have hmore : (Pattern.opt (.group 4
        (.seq (.many true .beforeComment) (.one .solid)))).endsIn '\r' = false := rfl
    simp [fieldOnly, groupsThen, endsIn, hmore, hwords, consumes, consumes_words h.words]
  simp only [fieldTable, List.forall_mem_cons]
  exact ⟨.lined ((inside_fieldValue h).oneLine (endsIn_groupsThen rfl rfl)) .none,
    .lined ((inside_fieldOnly h).oneLine hfield) .none,
    .lined ((inside_anyValue h).oneLine (endsIn_groupsThen rfl rfl)) .none, by simp⟩

/-- Every rule of a directive with values stays within its line. -/
theorem kind_of_mem_valueTable (h : PlainEntry entry) : ∀ rule ∈ valueTable entry, rule.Kind := by
  have hwords := endsIn_eq_false (accepts_words outsideWords_return h.words)
  simp only [valueTable, List.forall_mem_cons]
  exact ⟨.lined ((inside_wordValue h).oneLine
      (endsIn_groupsThen (consumes_words h.words) hwords)) .lineEnd,
    .lined ((inside_anyValue h).oneLine (endsIn_groupsThen rfl rfl)) .none, by simp⟩

end Entries

theorem inside_shellStart : shellStart.Inside := by
  refine .groupsThen (.group .blanks 2) ?_
  simp only [List.forall_mem_cons]
  refine ⟨.alt (.seq (.opt (.wordThen (.ofList (by decide)) .blanks)) (.literal (.ofList ?_)))
    (.words plainWords_immediateDirectives), by simp⟩
  decide

/-- An origin with a name stays inside the line. -/
theorem inside_fromAs : fromAs.Inside := by
  refine .groupsThen (.group .argument 7) ?_
  simp only [List.forall_mem_cons]
  exact ⟨.literal (.ofList (by decide)), .blanks, .argument, .blanks,
    .literal (.ofList (by decide)), .blanks, by simp⟩

theorem inside_attributeStart : attributeStart.Inside := by
  refine .groupsThen (.group .blanks 2) ?_
  simp only [List.forall_mem_cons]
  exact ⟨.literal (.ofList (by decide)), by simp⟩

theorem inside_listStart : listStart.Inside := by
  refine .groupsThen (.group .blanks 2) ?_
  simp only [List.forall_mem_cons]
  exact ⟨.words plainWords_listDirectives, by simp⟩

theorem inside_anyDirective : anyDirective.Inside := by
  refine .seq (.group (.words plainWords_keywords) 1) (.seq .wordEdge
    (.groupsThen (.opt (.group .argument 3)) ?_))
  simp only [List.forall_mem_cons]
  exact ⟨.many rfl rfl, by simp⟩

/-- An attribute stays inside the line. -/
theorem inside_pair : pair.Inside := by
  refine .groupsThen (.group (.plus rfl rfl) 3) ?_
  simp only [List.forall_mem_cons]
  exact ⟨.plus rfl rfl, .one rfl rfl, by simp⟩

theorem inside_pairThenSeparator : pairThenSeparator.Inside := by
  refine .groupsThen (.group (.one rfl rfl) 4) ?_
  simp only [List.forall_mem_cons]
  exact ⟨.plus rfl rfl, .one rfl rfl, .plus rfl rfl, by simp⟩

theorem inside_itemThenSeparator : itemThenSeparator.Inside := by
  refine .groupsThen (.group (.one rfl rfl) 2) ?_
  simp only [List.forall_mem_cons]
  exact ⟨.plus rfl rfl, by simp⟩

theorem inside_shellWords : shellWords.Inside :=
  .seq (.plus rfl rfl) (.loop (.seq (.plus rfl rfl) (.plus rfl rfl)))

/-- The rules of the root state stay within a line, but for comments and runs of blanks. -/
theorem kind_of_mem_rootTable : ∀ rule ∈ rootTable, rule.Kind := by
  simp only [rootTable, List.forall_mem_append]
  refine ⟨⟨⟨⟨?_, ?_⟩, ?_⟩, ?_⟩, ?_⟩
  · simp only [blankTable, List.forall_mem_cons]
    exact ⟨.blanks, .run rfl rfl rfl, by simp⟩
  · simp only [leadTable, List.forall_mem_cons]
    exact ⟨.lined (inside_shellStart.oneLine (endsIn_groupsThen rfl rfl)) .none,
      .lined (inside_fromAs.oneLine (endsIn_groupsThen rfl rfl)) .none,
      .lined (inside_attributeStart.oneLine (endsIn_groupsThen rfl rfl))
        (.oneLine oneLine_beforeEquals), by simp⟩
  · intro rule hrule
    obtain ⟨entry, hentry, hrule⟩ := List.mem_flatMap.mp hrule
    exact kind_of_mem_fieldTable (plainEntry_of_mem_fieldDirectives entry hentry) rule hrule
  · intro rule hrule
    obtain ⟨entry, hentry, hrule⟩ := List.mem_flatMap.mp hrule
    exact kind_of_mem_valueTable (plainEntry_of_mem_valueDirectives entry hentry) rule hrule
  · have hwords := endsIn_eq_false (accepts_words outsideWords_return plainWords_keywords)
    have hany : anyDirective.endsIn '\r' = false := by
      have hmore : (groupsThen 2 [.many true .inlineBlank]
          (.opt (.group 3 .argument))).endsIn '\r' = false := rfl
      simp [anyDirective, endsIn, hmore, hwords]
    simp only [lastTable, List.forall_mem_cons]
    exact ⟨.lined (inside_listStart.oneLine (endsIn_groupsThen rfl rfl)) .none,
      .lined (inside_anyDirective.oneLine hany) .none,
      .lined ⟨rfl, rfl, trivial, trivial⟩ .none, .lined ⟨rfl, rfl, trivial, trivial⟩ .none,
      by simp⟩

theorem kind_of_mem_providerAttributeTable : ∀ rule ∈ providerAttributeTable, rule.Kind := by
  simp only [providerAttributeTable, List.forall_mem_cons]
  exact ⟨.run rfl rfl rfl, .newline, .run rfl rfl rfl,
    .lined (inside_pairThenSeparator.oneLine (endsIn_groupsThen rfl rfl)) .none,
    .lined (inside_pair.oneLine (endsIn_groupsThen rfl rfl)) .none, .anyChar, by simp⟩

theorem kind_of_mem_commaListTable : ∀ rule ∈ commaListTable, rule.Kind := by
  simp only [commaListTable, List.forall_mem_cons]
  exact ⟨.run rfl rfl rfl, .newline, .run rfl rfl rfl,
    .lined (inside_itemThenSeparator.oneLine (endsIn_groupsThen rfl rfl)) .none,
    .lined ⟨rfl, rfl, trivial, trivial⟩ .none, .anyChar, by simp⟩

/-- The body of a command is the one inner state with a rule for escapes. -/
theorem kind_of_mem_shellCommandTable : ∀ rule ∈ shellCommandTable, rule.Kind := by
  simp only [shellCommandTable, List.forall_mem_cons]
  exact ⟨.newline, .run rfl rfl rfl, .escape, .run rfl rfl rfl,
    .lined (inside_shellWords.oneLine rfl) .none, by simp⟩

end Pdfile

/-! ## Rules of prldevops -/

namespace Prldevops

open Pattern

theorem inside_commandWithArguments : commandWithArguments.Inside := by
  refine .groupsThen (.group .blanks 4) ?_
  simp only [List.forall_mem_cons]
  exact ⟨.literal plain_program, .blanks, .words plainWords_subcommands, by simp⟩

theorem inside_bareCommand : bareCommand.Inside := by
  refine .groupsThen (.group (.words plainWords_subcommands) 3) ?_
  simp only [List.forall_mem_cons]
  exact ⟨.literal plain_program, .blanks, by simp⟩

theorem inside_programAlone : programAlone.Inside := .wordThen plain_program .wordEdge

theorem kind_of_mem_rootTable : ∀ rule ∈ rootTable, rule.Kind := by
  have hwords := endsIn_eq_false (accepts_words outsideWords_return plainWords_subcommands)
  have halone : programAlone.endsIn '\r' = false := by
    refine endsIn_eq_false ?_
    rw [programAlone, accepts_wordThen outsideWords_return.uncased
      (plain_program.not_mem outsideWords_return.not_plain)]
    rfl
  simp only [rootTable, List.forall_mem_cons]
  exact ⟨.blanks,
    .lined (inside_commandWithArguments.oneLine (endsIn_groupsThen rfl rfl)) .none,
    .lined (inside_bareCommand.oneLine
      (endsIn_groupsThen (consumes_words plainWords_subcommands) hwords)) .lineEnd,
    .lined (inside_programAlone.oneLine halone) .none, .run rfl rfl rfl,
    .lined ⟨rfl, rfl, trivial, trivial⟩ .none, .lined ⟨rfl, rfl, trivial, trivial⟩ .none,
    by simp⟩

/-- The body of a command has no rule for comments. -/
theorem kind_of_mem_commandBodyTable : ∀ rule ∈ commandBodyTable, rule.Kind := by
  simp only [commandBodyTable, List.forall_mem_cons]
  exact ⟨.newline, .escape, .run rfl rfl rfl, by simp⟩

end Prldevops

end Highlighter
