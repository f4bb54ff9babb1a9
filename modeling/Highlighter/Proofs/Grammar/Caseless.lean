import Highlighter.Proofs.Grammar.States
import Highlighter.Proofs.Grammar.Words
import Highlighter.Proofs.Pattern.LetterCase

/-!
# Rules that ignore letter case

Some rules of the built-in grammars are declared for any letter case and others are
not.  In effect they all ignore the case of ASCII letters: the words stand in rules
of the first kind only, and the sets of the others tell no letter from another.

A pattern is *caseless* when its sets are uncased and its tests are for the edge of
a word.  That is closed under all ways in which the patterns are put together, and
`Language.caseless_of_mem` says that every rule of every state is caseless.
-/

namespace Highlighter

/-! ## Letters and case folding -/

namespace SameLetter

/-- The two cases of an ASCII letter are equal under case folding. -/
theorem mem_caseVariants_letters : ∀ n < 26,
    Char.ofNat (97 + n) ∈ Unicode.caseVariants (Char.ofNat (65 + n)) ∧
      Char.ofNat (65 + n) ∈ Unicode.caseVariants (Char.ofNat (97 + n)) := by
  decide +kernel

/-- ASCII characters that are equal under case folding are the same letter. -/
theorem toLower_caseVariants : ∀ n < 128, (Unicode.caseVariants (Char.ofNat n)).all (fun d =>
    decide (128 ≤ d.toNat) || (Char.ofNat n).toLower == d.toLower) = true := by
  decide +kernel

variable {c d : Char}

/-- The two cases of a letter are case variants of each other. -/
theorem mem_caseVariants (h : SameLetter c d) : d ∈ Unicode.caseVariants c := by
  have h : c.toLower = d.toLower := h
  rcases toLower_cases c with hc | ⟨n, hn, hc, hclower⟩
  · rcases toLower_cases d with hd | ⟨m, hm, hd, hdlower⟩
    · rw [← hc, h, hd]
      exact Unicode.self_mem_caseVariants d
    · rw [← hc, h, hdlower, hd]
      exact (mem_caseVariants_letters m hm).2
  · rcases toLower_cases d with hd | ⟨m, hm, hd, hdlower⟩
    · rw [← hd, ← h, hclower, hc]
      exact (mem_caseVariants_letters n hn).1
    · have hcodes : ∀ n < 26, ∀ m < 26, Char.ofNat (97 + n) = Char.ofNat (97 + m) → n = m := by
        decide
      obtain rfl := hcodes n hn m hm (hclower.symm.trans (h.trans hdlower))
      rw [hc, hd]
      exact Unicode.self_mem_caseVariants _

/-- The only ASCII case variants are the two cases of a letter. -/
theorem of_mem_caseVariants (hc : c.toNat < 128) (hd : d.toNat < 128)
    (h : d ∈ Unicode.caseVariants c) : SameLetter c d := by
  have hall := toLower_caseVariants c.toNat hc
  rw [Char.ofNat_toNat] at hall
  rcases Bool.or_eq_true_iff.mp (List.all_eq_true.mp hall d h) with hbeyond | hlower
  · exact absurd (of_decide_eq_true hbeyond) (Nat.not_le_of_lt hd)
  · exact beq_iff_eq.mp hlower

end SameLetter

namespace Text

variable {u w : Text}

/-- Texts that are equal up to the case of ASCII letters are equal under case folding. -/
theorem Alike.eqFold (h : u.Alike w) : u.EqFold w :=
  List.Forall₂.imp (fun _ _ hc => hc.mem_caseVariants) h

/-- In ASCII case folding is about letters only. -/
theorem EqFold.alike (h : u.EqFold w) (hu : ∀ c ∈ u, c.toNat < 128) (hw : ∀ c ∈ w, c.toNat < 128) :
    u.Alike w := by
  induction h with
  | nil => exact .nil
  | cons hd _ ih =>
    rw [List.forall_mem_cons] at hu hw
    exact .cons (.of_mem_caseVariants hu.1 hw.1 hd) (ih hu.2 hw.2)

/-- Letters and `_` are ASCII characters. -/
theorem toNat_lt_of_letters (hw : ∀ c ∈ w, (c.isAlpha || c == '_') = true) :
    ∀ c ∈ w, c.toNat < 128 := by
  intro c hc
  rcases Bool.or_eq_true_iff.mp (hw c hc) with halpha | hline
  · exact Unicode.toNat_lt_of_isAlpha halpha
  · obtain rfl : c = '_' := by simpa using hline
    decide

/-- What equals letters and `_` up to the case of ASCII letters has no other characters. -/
theorem Alike.letters (h : u.Alike w) (hw : ∀ c ∈ w, (c.isAlpha || c == '_') = true) :
    ∀ c ∈ u, (c.isAlpha || c == '_') = true := by
  induction h with
  | nil => simp
  | cons hc _ ih =>
    rw [List.forall_mem_cons] at hw
    refine List.forall_mem_cons.mpr ⟨?_, ih hw.2⟩
    exact (hc.eq_of_letters (f := fun c => c.isAlpha || c == '_') (by decide)).trans hw.1

end Text

/-! ## Sets -/

namespace CharSet

/-- No blank has another case. -/
theorem uncased_space : CharSet.space.Uncased := .of_letters (by decide)

/-- Both cases of a letter are word characters. -/
theorem uncased_word : CharSet.word.Uncased := .of_letters (by decide +kernel)

theorem uncased_inlineBlank : CharSet.inlineBlank.Uncased := .anyCase _

theorem uncased_trailingBlank : CharSet.trailingBlank.Uncased := .anyCase _

theorem uncased_beforeComment : CharSet.beforeComment.Uncased := (Uncased.anyCase _).complement

/-- What a set with any case leaves out, it leaves out in both cases. -/
theorem uncased_solid : CharSet.solid.Uncased := (Uncased.anyCase _).complement

theorem uncased_inLine : CharSet.inLine.Uncased := .of_letters (by decide)

theorem uncased_sign : CharSet.sign.Uncased := .of_letters (by decide +kernel)

theorem uncased_innerBlank : CharSet.innerBlank.Uncased := .of_letters (by decide)

theorem uncased_keyChar : CharSet.keyChar.Uncased := .anyCase _

theorem uncased_valueChar : CharSet.valueChar.Uncased := (Uncased.anyCase _).complement

theorem uncased_itemChar : CharSet.itemChar.Uncased := .of_letters (by decide)

theorem uncased_shellChar : CharSet.shellChar.Uncased := .of_letters (by decide)

theorem uncased_argumentChar : CharSet.argumentChar.Uncased := .of_letters (by decide)

/-- A character of a word that is matched in any case. -/
theorem uncased_letter (d : Char) : (Pattern.letter true d).Uncased := by
  rw [Pattern.letter]
  split
  · exact .anyCase _
  · next hsingle =>
    -- What has no other case is no letter.
    have hletters : ∀ n < 128, (Char.ofNat n).isAlpha = true →
        (CharSet.only d).holds (Char.ofNat n) = false := by
      intro n hn halpha
      rw [CharSet.holds, beq_eq_false_iff_ne]
      rintro rfl
      exact hsingle (by simpa using Unicode.length_caseVariants_letters n hn halpha)
    have hlower : ∀ n < 26, (Char.ofNat (97 + n)).isAlpha = true := by decide
    have hupper : ∀ n < 26, (Char.ofNat (65 + n)).isAlpha = true := by decide
    refine .of_letters fun n hn => ?_
    rw [hletters _ (by omega) (hlower n hn), hletters _ (by omega) (hupper n hn)]

end CharSet

/-! ## Caseless patterns -/

namespace Pattern

/-- A pattern of uncased sets whose tests are for the edge of a word. -/
def Caseless (p : Pattern) : Prop := p.MadeOf CharSet.Uncased (· = .word .either .word)

namespace Caseless

variable {p q : Pattern} {s : CharSet}

/-- A caseless pattern has the same matches on texts that differ in the case of letters. -/
theorem uncased (h : p.Caseless) : p.Uncased := by
  refine MadeOf.imp (fun _ hs => hs) ?_ h
  rintro _ rfl
  exact Assertion.uncased_word CharSet.uncased_word

theorem empty : Pattern.empty.Caseless := trivial

theorem one (h : s.Uncased) : (Pattern.one s).Caseless := h

theorem many (h : s.Uncased) : (Pattern.many true s).Caseless := h

theorem plus (h : s.Uncased) : (Pattern.plus s).Caseless := ⟨h, h⟩

theorem seq (hp : p.Caseless) (hq : q.Caseless) : (Pattern.seq p q).Caseless := ⟨hp, hq⟩

theorem alt (hp : p.Caseless) (hq : q.Caseless) : (Pattern.alt p q).Caseless := ⟨hp, hq⟩

theorem opt (hp : p.Caseless) : p.opt.Caseless := hp.alt empty

theorem group (hp : p.Caseless) (k : Nat) : (Pattern.group k p).Caseless := hp

theorem loop (hp : p.Caseless) : (Pattern.loop true p).Caseless := hp

theorem wordEdge : (Pattern.check (.word .either .word)).Caseless := rfl

/-- A word that is read in any case is caseless. -/
theorem word : ∀ w : Text, (Pattern.word true w).Caseless
  | [] => trivial
  | [d] => CharSet.uncased_letter d
  | d :: e :: w => ⟨CharSet.uncased_letter d, word (e :: w)⟩

theorem wordThen (h : p.Caseless) : ∀ w : Text, (Pattern.wordThen true w p).Caseless
  | [] => h
  | d :: w => ⟨CharSet.uncased_letter d, wordThen h w⟩

theorem choice : ∀ {ps : List Pattern}, (∀ p ∈ ps, p.Caseless) → (Pattern.choice ps).Caseless
  | [], _ => trivial
  | [p], h => h p (List.mem_cons_self ..)
  | p :: _ :: _, h => ⟨h p (List.mem_cons_self ..),
      choice fun r hr => h r (List.mem_cons_of_mem p hr)⟩

theorem literal (s : String) : (Pattern.literal s).Caseless := word s.toList

theorem words (list : List String) : (Pattern.words list).Caseless := by
  refine choice fun p hp => ?_
  obtain ⟨w, -, rfl⟩ := List.mem_map.mp hp
  exact word w

/-- A row of groups is caseless if its parts are. -/
theorem groupsThen (hq : q.Caseless) :
    ∀ {ps : List Pattern} {k : Nat}, (∀ p ∈ ps, p.Caseless) → (Pattern.groupsThen k ps q).Caseless
  | [], _, _ => hq
  | p :: _, _, h => ⟨h p (List.mem_cons_self ..),
      groupsThen hq fun r hr => h r (List.mem_cons_of_mem p hr)⟩

theorem blanks : Pattern.blanks.Caseless := plus CharSet.uncased_inlineBlank

theorem toSolid : (Pattern.seq (.many true .beforeComment) (.one .solid)).Caseless :=
  (many CharSet.uncased_beforeComment).seq (one CharSet.uncased_solid)

theorem argument : Pattern.argument.Caseless := (one CharSet.uncased_solid).seq toSolid.opt

theorem comment : Pattern.comment.Caseless :=
  (one (.of_letters (by decide))).seq (many CharSet.uncased_inLine)

theorem newline : Pattern.newline.Caseless :=
  (one (.of_letters (by decide))).opt.seq (one (.of_letters (by decide)))

theorem escape : Pattern.escape.Caseless :=
  (one (.of_letters (by decide))).seq (newline.alt (one CharSet.uncased_inLine))

/-- No test of a caseless pattern tells the end of the text from a blank. -/
theorem blind (o o' : Option Char) (h : o.any CharSet.word.holds = o'.any CharSet.word.holds) :
    ∀ {p : Pattern}, p.Caseless → p.Blind o o'
  | .empty, _ => trivial
  | .one _, _ => trivial
  | .many _ _, _ => trivial
  | .mark _, _ => trivial
  | .check _, hp => by
    rintro before
    obtain rfl : _ = _ := hp
    rw [Assertion.holds, Assertion.holds, h]
  | .group _ p, hp => blind o o' h (p := p) hp
  | .seq _ _, hp => ⟨blind o o' h hp.1, blind o o' h hp.2⟩
  | .alt _ _, hp => ⟨blind o o' h hp.1, blind o o' h hp.2⟩
  | .loop _ p, hp => blind o o' h (p := p) hp

end Caseless

/-- The end of a line has no letter. -/
theorem uncased_lineEnd : Pattern.lineEnd.Uncased :=
  ⟨CharSet.uncased_trailingBlank, .of_letters (by decide), Assertion.uncased_lineEnd⟩

end Pattern

/-! ## Caseless rules -/

/-- The lookaheads of caseless rules. -/
inductive CaselessLookahead : Option Pattern → Prop where
  /-- No lookahead. -/
  | none : CaselessLookahead none
  /-- A caseless pattern. -/
  | some {q : Pattern} : q.Caseless → CaselessLookahead (some q.tied)
  /-- The end of the line. -/
  | lineEnd : CaselessLookahead (some Pattern.lineEnd.tied)

/-- In alike texts a caseless lookahead holds in both or none. -/
theorem CaselessLookahead.matches_eq {o : Option Pattern} (h : CaselessLookahead o) {q : Pattern}
    (hq : q ∈ o) {t t' : Text} (ht : t.Alike t') : q.matches t' = q.matches t := by
  cases h with
  | none => cases hq
  | some hcaseless =>
    cases hq
    exact Pattern.matches_eq_of_alike hcaseless.uncased ht
  | lineEnd =>
    cases hq
    exact Pattern.matches_eq_of_alike Pattern.uncased_lineEnd ht

/-- A rule with a caseless pattern and a caseless lookahead. -/
structure BuiltRule.Caseless (rule : BuiltRule) : Prop where
  pattern : ∃ p : Pattern, rule.pattern = p.tied ∧ p.Caseless
  lookahead : CaselessLookahead rule.followedBy

namespace BuiltRule.Caseless

variable {p q : Pattern} {lineStart : Bool} {action : Action} {t : Transition}

/-- A caseless rule without a lookahead. -/
theorem alone (h : p.Caseless) : (⟨p.tied, lineStart, none, action, t⟩ : BuiltRule).Caseless :=
  ⟨⟨p, rfl, h⟩, .none⟩

/-- A caseless rule with a lookahead. -/
theorem before (h : p.Caseless) (hq : q.Caseless) :
    (⟨p.tied, lineStart, some q.tied, action, t⟩ : BuiltRule).Caseless :=
  ⟨⟨p, rfl, h⟩, .some hq⟩

theorem beforeLineEnd (h : p.Caseless) :
    (⟨p.tied, lineStart, some Pattern.lineEnd.tied, action, t⟩ : BuiltRule).Caseless :=
  ⟨⟨p, rfl, h⟩, .lineEnd⟩

theorem blanks : BuiltRule.blanks.Caseless := alone (.plus CharSet.uncased_space)

theorem comment (t : Transition) : (BuiltRule.comment t).Caseless := alone .comment

theorem closingLineEnd : BuiltRule.closingLineEnd.Caseless := alone .newline

theorem escape : BuiltRule.escape.Caseless := alone .escape

theorem innerBlanks : BuiltRule.innerBlanks.Caseless := alone (.plus CharSet.uncased_innerBlank)

theorem anyChar : BuiltRule.anyChar.Caseless := alone (.one CharSet.uncased_inLine)

theorem words : BuiltRule.words.Caseless := alone (.plus CharSet.uncased_word)

theorem signs : BuiltRule.signs.Caseless := alone (.plus CharSet.uncased_sign)

end BuiltRule.Caseless

/-! ## Rules of pdfile -/

namespace Pdfile

open Pattern

section Entries

variable (entry : String × List String)

/-- The patterns that start with a directive and blanks. -/
theorem caseless_directiveThen {ps : List Pattern} {q : Pattern} (hps : ∀ p ∈ ps, p.Caseless)
    (hq : q.Caseless) : (groupsThen 1 (.literal entry.1 :: .blanks :: ps) q).Caseless := by
  refine hq.groupsThen ?_
  simp only [List.forall_mem_cons]
  exact ⟨.literal entry.1, .blanks, hps⟩

theorem caseless_fieldValue : (fieldValue entry).Caseless := by
  refine caseless_directiveThen entry ?_ (Caseless.argument.group 5)
  simp only [List.forall_mem_cons]
  exact ⟨.words entry.2, .blanks, by simp⟩

theorem caseless_fieldOnly : (fieldOnly entry).Caseless := by
  refine caseless_directiveThen entry ?_ (Caseless.toSolid.group 4).opt
  simp only [List.forall_mem_cons]
  exact ⟨.words entry.2, by simp⟩

theorem caseless_anyValue : (anyValue entry).Caseless :=
  caseless_directiveThen entry (by simp) (Caseless.argument.group 3)

theorem caseless_wordValue : (wordValue entry).Caseless :=
  caseless_directiveThen entry (by simp) ((Caseless.words entry.2).group 3)

/-- The rules of a directive with fields are caseless, whatever its fields are named. -/
theorem caseless_of_mem_fieldTable : ∀ rule ∈ fieldTable entry, rule.Caseless := by
  simp only [fieldTable, List.forall_mem_cons]
  exact ⟨.alone (caseless_fieldValue entry), .alone (caseless_fieldOnly entry),
    .alone (caseless_anyValue entry), by simp⟩

/-- So are the rules of a directive with values. -/
theorem caseless_of_mem_valueTable : ∀ rule ∈ valueTable entry, rule.Caseless := by
  simp only [valueTable, List.forall_mem_cons]
  exact ⟨.beforeLineEnd (caseless_wordValue entry), .alone (caseless_anyValue entry), by simp⟩

end Entries

theorem caseless_shellStart : shellStart.Caseless := by
  refine (Caseless.blanks.group 2).groupsThen ?_
  simp only [List.forall_mem_cons]
  exact ⟨((Caseless.blanks.wordThen _).opt.seq (.literal onbuildDirective)).alt
    (.words immediateDirectives), by simp⟩

theorem caseless_fromAs : fromAs.Caseless := by
  refine (Caseless.argument.group 7).groupsThen ?_
  simp only [List.forall_mem_cons]
  exact ⟨.literal "FROM", .blanks, .argument, .blanks, .literal "AS", .blanks, by simp⟩

theorem caseless_attributeStart : attributeStart.Caseless := by
  refine (Caseless.blanks.group 2).groupsThen ?_
  simp only [List.forall_mem_cons]
  exact ⟨.literal attributeDirective, by simp⟩

theorem caseless_beforeEquals : beforeEquals.Caseless :=
  (Caseless.many CharSet.uncased_beforeComment).seq (.one (.of_letters (by decide)))

theorem caseless_listStart : listStart.Caseless := by
  refine (Caseless.blanks.group 2).groupsThen ?_
  simp only [List.forall_mem_cons]
  exact ⟨.words listDirectives, by simp⟩

theorem caseless_anyDirective : anyDirective.Caseless := by
  refine ((Caseless.words keywords).group 1).seq (Caseless.wordEdge.seq
    ((Caseless.argument.group 3).opt.groupsThen ?_))
  simp only [List.forall_mem_cons]
  exact ⟨.many CharSet.uncased_inlineBlank, by simp⟩

theorem caseless_pair : pair.Caseless := by
  refine ((Caseless.plus CharSet.uncased_valueChar).group 3).groupsThen ?_
  simp only [List.forall_mem_cons]
  exact ⟨.plus CharSet.uncased_keyChar, .one (.of_letters (by decide)), by simp⟩

theorem caseless_pairThenSeparator : pairThenSeparator.Caseless := by
  refine ((Caseless.one (.of_letters (by decide))).group 4).groupsThen ?_
  simp only [List.forall_mem_cons]
  exact ⟨.plus CharSet.uncased_keyChar, .one (.of_letters (by decide)),
    .plus CharSet.uncased_valueChar, by simp⟩

theorem caseless_itemThenSeparator : itemThenSeparator.Caseless := by
  refine ((Caseless.one (.of_letters (by decide))).group 2).groupsThen ?_
  simp only [List.forall_mem_cons]
  exact ⟨.plus CharSet.uncased_itemChar, by simp⟩

theorem caseless_shellWords : shellWords.Caseless :=
  (Caseless.plus CharSet.uncased_shellChar).seq
    (.loop ((Caseless.plus CharSet.uncased_innerBlank).seq (.plus CharSet.uncased_shellChar)))

/-- A directive is read the same in any case. -/
theorem caseless_of_mem_rootTable : ∀ rule ∈ rootTable, rule.Caseless := by
  simp only [rootTable, List.forall_mem_append]
  refine ⟨⟨⟨⟨?_, ?_⟩, ?_⟩, ?_⟩, ?_⟩
  · simp only [blankTable, List.forall_mem_cons]
    exact ⟨.blanks, .comment _, by simp⟩
  · simp only [leadTable, List.forall_mem_cons]
    exact ⟨.alone caseless_shellStart, .alone caseless_fromAs,
      .before caseless_attributeStart caseless_beforeEquals, by simp⟩
  · intro rule hrule
    obtain ⟨entry, -, hrule⟩ := List.mem_flatMap.mp hrule
    exact caseless_of_mem_fieldTable entry rule hrule
  · intro rule hrule
    obtain ⟨entry, -, hrule⟩ := List.mem_flatMap.mp hrule
    exact caseless_of_mem_valueTable entry rule hrule
  · simp only [lastTable, List.forall_mem_cons]
    exact ⟨.alone caseless_listStart, .alone caseless_anyDirective, .words, .signs, by simp⟩

theorem caseless_of_mem_providerAttributeTable :
    ∀ rule ∈ providerAttributeTable, rule.Caseless := by
  simp only [providerAttributeTable, List.forall_mem_cons]
  exact ⟨.comment _, .closingLineEnd, .innerBlanks, .alone caseless_pairThenSeparator,
    .alone caseless_pair, .anyChar, by simp⟩

theorem caseless_of_mem_commaListTable : ∀ rule ∈ commaListTable, rule.Caseless := by
  simp only [commaListTable, List.forall_mem_cons]
  exact ⟨.comment _, .closingLineEnd, .innerBlanks, .alone caseless_itemThenSeparator,
    .alone (.plus CharSet.uncased_itemChar), .anyChar, by simp⟩

theorem caseless_of_mem_shellCommandTable : ∀ rule ∈ shellCommandTable, rule.Caseless := by
  simp only [shellCommandTable, List.forall_mem_cons]
  exact ⟨.closingLineEnd, .comment _, .escape, .innerBlanks, .alone caseless_shellWords, by simp⟩

end Pdfile

/-! ## Rules of prldevops -/

namespace Prldevops

open Pattern

theorem caseless_bareCommand : bareCommand.Caseless := by
  refine ((Caseless.words subcommands).group 3).groupsThen ?_
  simp only [List.forall_mem_cons]
  exact ⟨.literal program, .blanks, by simp⟩

theorem caseless_commandWithArguments : commandWithArguments.Caseless := by
  refine (Caseless.blanks.group 4).groupsThen ?_
  simp only [List.forall_mem_cons]
  exact ⟨.literal program, .blanks, .words subcommands, by simp⟩

theorem caseless_of_mem_rootTable : ∀ rule ∈ rootTable, rule.Caseless := by
  simp only [rootTable, List.forall_mem_cons]
  exact ⟨.blanks, .alone caseless_commandWithArguments, .beforeLineEnd caseless_bareCommand,
    .alone (Caseless.wordEdge.wordThen _), .comment _, .words, .signs, by simp⟩

/-- The body of a command is read the same in any case. -/
theorem caseless_of_mem_commandBodyTable : ∀ rule ∈ commandBodyTable, rule.Caseless := by
  simp only [commandBodyTable, List.forall_mem_cons]
  exact ⟨.closingLineEnd, .escape, .alone (.plus CharSet.uncased_argumentChar), by simp⟩

end Prldevops

/-- Every rule of a language is caseless. -/
theorem Language.caseless_of_mem (l : Language) (state : String) :
    ∀ rule ∈ l.grammar.rulesOf state, rule.Caseless := by
  refine l.grammar.forall_mem_rulesOf ?_ state
  cases l with
  | pdfile =>
    rw [grammar, pdfileGrammar_eq]
    simp only [Pdfile.table, List.forall_mem_cons]
    exact ⟨Pdfile.caseless_of_mem_rootTable, Pdfile.caseless_of_mem_providerAttributeTable,
      Pdfile.caseless_of_mem_commaListTable, Pdfile.caseless_of_mem_shellCommandTable, by simp⟩
  | prldevops =>
    rw [grammar, prldevopsGrammar_eq]
    simp only [Prldevops.table, List.forall_mem_cons]
    exact ⟨Prldevops.caseless_of_mem_rootTable, Prldevops.caseless_of_mem_commandBodyTable,
      by simp⟩

end Highlighter
