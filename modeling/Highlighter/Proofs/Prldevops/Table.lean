import Highlighter.Language
import Highlighter.Proofs.Grammar.Parts

/-!
# The prldevops grammar, built

`table` is the grammar that building the declaration of prldevops gives
(`build_declaration`).
-/

namespace Highlighter.Prldevops

open Category Regex

/-! ## Words -/

theorem plain_program : Text.Plain program.toList := .ofList (by decide)

theorem plainWords_subcommands : PlainWords subcommands where
  ne_nil := by simp [subcommands]
  length_le := by simp [subcommands]
  plain := by
    simp only [subcommands, List.forall_mem_cons]
    repeat' apply And.intro
    all_goals first | exact .ofList (by decide) | simp

/-! ## Patterns -/

/-- The program, blanks and a subcommand. -/
def bareCommand : Pattern :=
  .groupsThen 1 [.literal program, .blanks] (.group 3 (.words subcommands))

/-- The program, blanks, a subcommand and blanks. -/
def commandWithArguments : Pattern :=
  .groupsThen 1 [.literal program, .blanks, .words subcommands] (.group 4 .blanks)

/-- The program, up to the edge of a word. -/
def programAlone : Pattern := .wordThen true program.toList (.check (.word .either .word))

/-! ## Rules -/

/-- The built rules of `root`. -/
def rootTable : List BuiltRule := [
  .blanks,
  ⟨commandWithArguments.tied, true, none,
    .groups [keyword, whitespace, identifier, whitespace], .push commandBody⟩,
  ⟨bareCommand.tied, true, some Pattern.lineEnd.tied,
    .groups [keyword, whitespace, identifier], .stay⟩,
  ⟨programAlone.tied, true, none, .token keyword, .stay⟩,
  .comment .stay, .words, .signs]

/-- The built rules of `command-body`. -/
def commandBodyTable : List BuiltRule := [
  .closingLineEnd, .escape,
  ⟨(Pattern.plus .argumentChar).tied, false, none, .token string, .stay⟩]

/-- The built grammar. -/
def table : Grammar := ⟨name, root, [⟨root, rootTable⟩, ⟨commandBody, commandBodyTable⟩]⟩

/-! ## Meanings -/

theorem quote_program : quote program.toList = program.toList :=
  plain_program.quote_eq (by decide)

theorem commandStart_eq :
    commandStart = Pdfile.group program.toList ++ Pdfile.group Pdfile.blanks ++
      Pdfile.group (Pdfile.anyOf subcommands) := by
  have hblanks : ")([ \\t]+)(".toList = [')'] ++ Pdfile.group Pdfile.blanks ++ ['('] := by decide
  rw [commandStart, quote_program, hblanks]
  simp [Pdfile.group, Pdfile.anyOf]

theorem meansSeq_bareCommand : MeansSeq true 0 3 41 commandStart bareCommand := by
  have h := MeansSeq.groupsThen ⟨by simp [Pdfile.group], by simp [Pdfile.group]⟩
    (.cons (meansInGroup_plain plain_program (by decide)) (.cons meansInGroup_blanks .nil))
    ((meansInGroup_anyOf plainWords_subcommands).part (k := 2)).seq
  rw [commandStart_eq]
  simp only [List.flatMap_cons, List.flatMap_nil, List.append_nil, List.append_assoc] at h ⊢
  exact h

theorem meansSeq_commandWithArguments :
    MeansSeq true 0 4 55 (commandStart ++ "([ \\t]+)".toList) commandWithArguments := by
  have h := MeansSeq.groupsThen (u := "([ \\t]+)".toList) ⟨by decide, by decide⟩
    (.cons (meansInGroup_plain plain_program (by decide)) (.cons meansInGroup_blanks
      (.cons (meansInGroup_anyOf plainWords_subcommands) .nil)))
    (meansInGroup_blanks.part (k := 3)).seq
  rw [commandStart_eq]
  simp only [List.flatMap_cons, List.flatMap_nil, List.append_nil, List.append_assoc] at h ⊢
  exact h

theorem meansSeq_programAlone :
    MeansSeq true 0 0 28 (quote program.toList ++ "\\b".toList) programAlone := by
  have hedge : MeansUnit true 0 0 1 "\\b".toList (.check (.word .either .word)) :=
    ⟨_, reads_wordEdge, .check _⟩
  rw [quote_program]
  exact hedge.seq.wordThen ⟨by decide, by decide⟩ program.toList
    (plain_program.not_mem_metaChars (by decide))

/-! ## Building -/

/-- The names of the declared states. -/
def declared : String → Bool := (declaration.states.map (·.name)).contains

theorem declared_commandBody : declared commandBody = true := by
  simp [declared, declaration]

theorem buildTo_rootTable : BuildTo declared rootRules rootTable := by
  refine .cons (.alone meansSet_space.plus.seq (by decide) trivial rfl rfl) trivial rfl ?_
  refine .cons (.alone meansSeq_commandWithArguments (by decide) rfl
    (Pattern.consumes_groupsThen (.inl rfl)) rfl) declared_commandBody rfl ?_
  refine .cons (.before meansSeq_bareCommand (by decide) rfl
    (Pattern.consumes_groupsThen (.inl (Pattern.consumes_words plainWords_subcommands))) rfl
    meansSeq_lineEnd (by decide)) trivial rfl ?_
  refine .cons (.alone meansSeq_programAlone (by decide) trivial
    (Pattern.consumes_wordThen (by decide) _) rfl) trivial rfl ?_
  refine .cons (.alone meansSeq_comment (by decide) trivial rfl rfl) trivial rfl ?_
  exact .cons (.alone meansSet_word.plus.seq (by decide) trivial rfl rfl) trivial rfl
    (.cons (.alone meansSet_sign.plus.seq (by decide) trivial rfl rfl) trivial rfl .nil)

theorem buildTo_commandBodyTable : BuildTo declared commandBodyRules commandBodyTable :=
  .cons (.alone meansSeq_newline (by decide) trivial rfl rfl) trivial rfl
    (.cons (.alone meansSeq_escape (by decide) trivial rfl rfl) trivial rfl
      (.cons (.alone meansSet_argumentChar.plus.seq (by decide) trivial rfl rfl) trivial rfl .nil))

/-- No rule of `root` leaves it. -/
theorem transition_ne_pop_of_mem_rootTable : ∀ rule ∈ rootTable, rule.transition ≠ .pop := by
  decide

/-- The declaration is built into the table. -/
theorem build_declaration : declaration.build .standard = .ok table := by
  refine GrammarDecl.build_eq_ok (by decide) (by simp [declaration]) (buildStates_eq_ok ?_)
  exact .cons ⟨rfl, buildTo_rootTable, fun _ => transition_ne_pop_of_mem_rootTable⟩
    (.cons ⟨rfl, buildTo_commandBodyTable, fun h => absurd h (by decide)⟩ .nil)

end Highlighter.Prldevops

namespace Highlighter.Language

theorem prldevopsGrammar_eq : prldevopsGrammar = Prldevops.table := by
  rw [prldevopsGrammar, Prldevops.build_declaration]
  rfl

end Highlighter.Language
