import Highlighter.Proofs.Grammar.Starts
import Highlighter.Proofs.Grammar.States

/-!
# Comments of pdfile

Where the tokens of a pdfile source have a `#`.  A comment starts with one and goes
on to the end of its line, and an escape in a shell command may have one.  There is a
third place: in `root` a run of signs that starts with another sign takes in every
`#` that follows without a blank or a word character between, so that `-# a` has no
comment.  Apart from such runs every `#` is in a comment or escaped.

No other rule reads a `#`.  The rules for directives, lists and attributes do not
accept one, and the rules for any character of a line come after the rule for
comments.
-/

namespace Highlighter

/-! ## Rules that read no `#` -/

/-- A rule that reads no `#` and makes no comment. -/
structure BuiltRule.HashFree (rule : BuiltRule) : Prop where
  /-- Its pattern does not accept a `#`. -/
  pattern : ∃ p, rule.pattern = Pattern.tied p ∧ p.accepts '#' = false
  /-- It does not name the category of comments. -/
  categories : Category.comment ∉ rule.action.categories

theorem BuiltRule.HashFree.not_mem {rule : BuiltRule} (h : rule.HashFree) {lineStart : Bool}
    {t u : Text} {m : Match} (hm : rule.fires? lineStart t = some m) (hu : t = u ++ m.rest) :
    '#' ∉ u := by
  obtain ⟨p, hp, haccepts⟩ := h.pattern
  intro hmem
  rw [BuiltRule.accepts_of_fires? hp hm hu '#' hmem] at haccepts
  exact Bool.noConfusion haccepts

namespace Pdfile

open Category

/-! ## The rules of each state -/

/-- A rule that fires at no sign. -/
def SignFree (rule : BuiltRule) : Prop :=
  ∀ c, CharSet.sign.holds c = true → ∀ lineStart t, rule.fires? lineStart (c :: t) = none

theorem isWordChar_of_sign {c : Char} (hc : CharSet.sign.holds c = true) :
    isWordChar c = false ∧ isBlank c = false := by
  simpa [CharSet.sign, CharSet.holds] using hc

/-- The rules of `root`, by what they do at a `#`. -/
inductive RootRule : BuiltRule → Prop where
  /-- The rule for comments. -/
  | comment : RootRule (.comment .stay)
  /-- The rule for signs. -/
  | signs : RootRule .signs
  /-- A rule that reads no `#` and fires at no sign. -/
  | other {rule : BuiltRule} : rule.HashFree → SignFree rule → RootRule rule

/-- The rules of an inner state, by what they do at a `#`. -/
inductive InnerRule (state : String) : BuiltRule → Prop where
  /-- The rule for comments. -/
  | comment : InnerRule state (.comment .pop)
  /-- The rule for escapes, in shell commands only. -/
  | escape : state = shellCommandBody → InnerRule state .escape
  /-- The rule for any character. -/
  | anyChar : InnerRule state .anyChar
  /-- A rule that reads no `#`. -/
  | other {rule : BuiltRule} : rule.HashFree → InnerRule state rule

/-- A rule whose pattern starts with a word and stays before comments. -/
theorem RootRule.of_wordFirst {p : Pattern} {lineStart : Bool} {q : Option Pattern}
    {action : Action} {t : Transition} (hfirst : p.WordFirst) (hinside : p.Inside)
    (haction : Category.comment ∉ action.categories) :
    RootRule ⟨p.tied, lineStart, q, action, t⟩ :=
  .other ⟨⟨p, rfl, hinside.hash⟩, haction⟩
    fun _ hc lineStart t => hfirst.fires?_eq_none rfl (isWordChar_of_sign hc).1 lineStart t

theorem wordFirst_shellStart : shellStart.WordFirst :=
  .groupsThen (.alt (.opt_seq (.wordThen (.ofList (by decide)) _) (.literal (.ofList (by decide))))
    (.words plainWords_immediateDirectives)) 1 _ _

theorem signFree_blanks : SignFree .blanks := by
  intro c hc lineStart t
  rw [BuiltRule.blanks, BuiltRule.fires?_plain rfl, Pattern.plus, Pattern.find_run,
    if_neg (by simp [CharSet.holds, (isWordChar_of_sign hc).2])]

theorem wordFirst_words : (Pattern.plus .word).WordFirst :=
  ⟨rfl, fun c hc => by simp [Pattern.plus, Pattern.starts, Pattern.consumes, CharSet.holds, hc]⟩

theorem rootRule_of_mem_rootTable : ∀ rule ∈ rootTable, RootRule rule := by
  simp only [rootTable, List.forall_mem_append]
  refine ⟨⟨⟨⟨?_, ?_⟩, ?_⟩, ?_⟩, ?_⟩
  · simp only [blankTable, List.forall_mem_cons]
    exact ⟨.other ⟨⟨_, rfl, rfl⟩, by decide⟩ signFree_blanks, .comment, by simp⟩
  · simp only [leadTable, List.forall_mem_cons]
    exact ⟨.of_wordFirst wordFirst_shellStart inside_shellStart (by decide),
      .of_wordFirst (.groupsThen (.literal (.ofList (by decide))) _ _ _) inside_fromAs (by decide),
      .of_wordFirst (.groupsThen (.literal (.ofList (by decide))) _ _ _) inside_attributeStart
        (by decide), by simp⟩
  · intro rule hrule
    obtain ⟨entry, hentry, hrule⟩ := List.mem_flatMap.mp hrule
    have hplain := plainEntry_of_mem_fieldDirectives entry hentry
    have hfirst := Pattern.WordFirst.literal hplain.directive
    simp only [fieldTable, List.mem_cons, List.not_mem_nil, or_false] at hrule
    rcases hrule with rfl | rfl | rfl
    · exact .of_wordFirst (hfirst.groupsThen _ _ _) (inside_fieldValue hplain) (by decide)
    · exact .of_wordFirst (hfirst.groupsThen _ _ _) (inside_fieldOnly hplain) (by decide)
    · exact .of_wordFirst (hfirst.groupsThen _ _ _) (inside_anyValue hplain) (by decide)
  · intro rule hrule
    obtain ⟨entry, hentry, hrule⟩ := List.mem_flatMap.mp hrule
    have hplain := plainEntry_of_mem_valueDirectives entry hentry
    have hfirst := Pattern.WordFirst.literal hplain.directive
    simp only [valueTable, List.mem_cons, List.not_mem_nil, or_false] at hrule
    rcases hrule with rfl | rfl
    · exact .of_wordFirst (hfirst.groupsThen _ _ _) (inside_wordValue hplain) (by decide)
    · exact .of_wordFirst (hfirst.groupsThen _ _ _) (inside_anyValue hplain) (by decide)
  · simp only [lastTable, List.forall_mem_cons]
    exact ⟨.of_wordFirst (.groupsThen (.words plainWords_listDirectives) _ _ _) inside_listStart
        (by decide),
      .of_wordFirst (((Pattern.WordFirst.words plainWords_keywords).group 1).seq _)
        inside_anyDirective (by decide),
      .of_wordFirst wordFirst_words (.plus rfl rfl) (by decide), .signs, by simp⟩

theorem innerRule_of_mem {state : String} (hstate : state ∈ innerStates) :
    ∀ rule ∈ table.rulesOf state, InnerRule state rule := by
  have hlineEnd : InnerRule state .closingLineEnd := .other ⟨⟨_, rfl, rfl⟩, by decide⟩
  have hblanks : InnerRule state .innerBlanks := .other ⟨⟨_, rfl, rfl⟩, by decide⟩
  simp only [innerStates, List.mem_cons, List.not_mem_nil, or_false] at hstate
  rcases hstate with rfl | rfl | rfl
  · rw [rulesOf_providerAttributes]
    simp only [providerAttributeTable, List.forall_mem_cons]
    exact ⟨.comment, hlineEnd, hblanks,
      .other ⟨⟨_, rfl, inside_pairThenSeparator.hash⟩, by decide⟩,
      .other ⟨⟨_, rfl, inside_pair.hash⟩, by decide⟩, .anyChar, by simp⟩
  · rw [rulesOf_commaList]
    simp only [commaListTable, List.forall_mem_cons]
    exact ⟨.comment, hlineEnd, hblanks,
      .other ⟨⟨_, rfl, inside_itemThenSeparator.hash⟩, by decide⟩,
      .other ⟨⟨_, rfl, rfl⟩, by decide⟩, .anyChar, by simp⟩
  · rw [rulesOf_shellCommandBody]
    simp only [shellCommandTable, List.forall_mem_cons]
    exact ⟨hlineEnd, .comment, .escape rfl, hblanks,
      .other ⟨⟨_, rfl, inside_shellWords.hash⟩, by decide⟩, by simp⟩

/-- In every inner state a `#` starts a comment up to the end of the line. -/
theorem firstFiring?_inner_of_hash {state : String} (hstate : state ∈ innerStates)
    (lineStart : Bool) (t : Text) :
    firstFiring? lineStart ('#' :: t) (table.rulesOf state) =
      some (.comment .pop,
        ⟨0, Text.size ('#' :: t.takeWhile (· != '\n')), [], t.dropWhile (· != '\n')⟩) := by
  have hcomment := BuiltRule.fires?_comment .pop lineStart t
  have hlineEnd : BuiltRule.closingLineEnd.fires? lineStart ('#' :: t) = none := by
    rw [BuiltRule.closingLineEnd, BuiltRule.fires?_plain rfl,
      Pattern.find_newline_eq_none (by decide) (by decide)]
  simp only [innerStates, List.mem_cons, List.not_mem_nil, or_false] at hstate
  rcases hstate with rfl | rfl | rfl
  · rw [rulesOf_providerAttributes, providerAttributeTable, firstFiring?, hcomment]
  · rw [rulesOf_commaList, commaListTable, firstFiring?, hcomment]
  · rw [rulesOf_shellCommandBody, shellCommandTable, firstFiring?, hlineEnd, firstFiring?,
      hcomment]

/-- In `root` a sign other than `#` starts a run of signs. -/
theorem firstFiring?_root_of_sign (lineStart : Bool) (t : Text) {c : Char}
    (hc : CharSet.sign.holds c = true) (hne : c ≠ '#') :
    firstFiring? lineStart (c :: t) rootTable =
      some (.signs, ⟨0, Text.size (c :: t.takeWhile CharSet.sign.holds), [],
        t.dropWhile CharSet.sign.holds⟩) := by
  have hsigns : BuiltRule.signs.fires? lineStart (c :: t) =
      some ⟨0, Text.size (c :: t.takeWhile CharSet.sign.holds), [],
        t.dropWhile CharSet.sign.holds⟩ := by
    rw [BuiltRule.signs, BuiltRule.fires?_plain rfl, Pattern.plus, Pattern.find_run, if_pos hc]
  refine firstFiring?_of_others hsigns (by simp [rootTable, lastTable]) fun rule hrule => ?_
  cases rootRule_of_mem_rootTable rule hrule with
  | comment =>
    refine Or.inr (Option.eq_none_iff_forall_ne_some.mpr fun m hm => ?_)
    obtain ⟨rest, hrest, -⟩ := BuiltRule.fires?_comment_eq_some hm
    exact hne (List.cons.inj hrest).1
  | signs => exact Or.inl rfl
  | other _ hfree => exact Or.inr (hfree c hc lineStart t)

/-! ## Steps -/

/-- The ways a step of a scan goes, by what it does with `#`. -/
inductive HashStep (lx : Lexer) : Prop where
  /-- It reads a comment. -/
  | comment {rest : Text} : lx.rest = '#' :: rest →
      (lx.step table).pending =
        [Token.at .comment lx.cursor ('#' :: rest.takeWhile (· != '\n'))] → HashStep lx
  /-- It reads an escaped `#` in a shell command. -/
  | escape {rest : Text} : lx.currentState = shellCommandBody → lx.rest = '\\' :: '#' :: rest →
      (lx.step table).pending = [Token.at .constant lx.cursor ['\\', '#']] → HashStep lx
  /-- It reads a run of signs in `root`. -/
  | signs {c : Char} {rest : Text} : lx.currentState = root → lx.rest = c :: rest → c ≠ '#' →
      CharSet.sign.holds c = true →
      (lx.step table).pending =
        [Token.at .text lx.cursor (c :: rest.takeWhile CharSet.sign.holds)] → HashStep lx
  /-- It reads no `#` and no comment. -/
  | other : (∀ t ∈ (lx.step table).pending, '#' ∉ t.text ∧ t.category ≠ .comment) → HashStep lx

section Steps

variable {lx : Lexer} {rule : BuiltRule} {m : Match} {u : Text}

theorem HashStep.of_comment {s : Transition} (hidle : lx.Idle)
    (hm : (BuiltRule.comment s).fires? lx.lineStart lx.rest = some m) (hu : lx.rest = u ++ m.rest)
    (hstep : lx.step table = lx.consume u m.rest
      ((BuiltRule.comment s).action.tokens lx.cursor u m) (BuiltRule.comment s).transition) :
    HashStep lx := by
  obtain ⟨rest, htext, hrest⟩ := BuiltRule.fires?_comment_eq_some hm
  rw [htext, hrest] at hu
  obtain rfl := eq_cons_takeWhile hu
  exact .comment htext (Lexer.pending_of_token hidle rfl hstep)

theorem HashStep.of_signs (hidle : lx.Idle) (hroot : lx.currentState = root)
    (hfire : firstFiring? lx.lineStart lx.rest rootTable = some (.signs, m))
    (hu : lx.rest = u ++ m.rest)
    (hstep : lx.step table = lx.consume u m.rest (BuiltRule.signs.action.tokens lx.cursor u m)
      BuiltRule.signs.transition) :
    HashStep lx := by
  obtain ⟨c, rest, htext, hc, hrest⟩ :=
    BuiltRule.fires?_signs_eq_some (firstFiring?_eq_some hfire).2
  rw [htext, hrest] at hu
  obtain rfl := eq_cons_takeWhile hu
  -- At a `#` the rule for comments would have fired first.
  have hne : c ≠ '#' := by
    rintro rfl
    rw [htext, firstFiring?_root_of_hash] at hfire
    have hrule : BuiltRule.comment .stay = .signs := congrArg Prod.fst (Option.some.inj hfire)
    exact absurd hrule (by decide)
  exact .signs hroot htext hne hc (Lexer.pending_of_token hidle rfl hstep)

theorem HashStep.of_escape (hidle : lx.Idle) (hstate : lx.currentState = shellCommandBody)
    (hm : BuiltRule.escape.fires? lx.lineStart lx.rest = some m) (hu : lx.rest = u ++ m.rest)
    (hstep : lx.step table = lx.consume u m.rest (BuiltRule.escape.action.tokens lx.cursor u m)
      BuiltRule.escape.transition) :
    HashStep lx := by
  have hpending := Lexer.pending_of_token hidle rfl hstep
  by_cases hhash : '#' ∈ u
  · obtain ⟨v, hescape⟩ := BuiltRule.fires?_escape_eq_some hm
    obtain ⟨hv, hform⟩ := Text.escape?_cases hescape
    obtain rfl : u = v := List.append_cancel_right (hu.symm.trans hv)
    rcases hform with rfl | ⟨c, rfl⟩
    · exact absurd hhash (by decide)
    · obtain rfl : c = '#' := by simpa [eq_comm] using hhash
      exact .escape hstate hu hpending
  · refine .other fun t ht => ?_
    rw [hpending, List.mem_singleton] at ht
    subst ht
    exact ⟨hhash, (by decide : Category.constant ≠ .comment)⟩

/-- A step reads no `#` and no comment where its rule does not. -/
theorem HashStep.of_not_mem (hidle : lx.Idle) (hne : u ≠ []) (hhash : '#' ∉ u)
    (hparts : ∀ index, ∀ extent ∈ m.group? index, u.HasPart extent)
    (hcategories : Category.comment ∉ rule.action.categories)
    (hstep : lx.step table = lx.consume u m.rest (rule.action.tokens lx.cursor u m)
      rule.transition) :
    HashStep lx := by
  have hnone : lx.pending = [] := hidle
  refine .other fun t ht => ?_
  rw [hstep, Lexer.consume, hnone, List.nil_append] at ht
  refine ⟨fun hmem => hhash ?_, fun hcategory => ?_⟩
  · exact (rule.action.tokens_tiles lx.cursor hne hparts).subset t ht '#' hmem
  · rcases Action.category_of_mem_tokens t ht with h | h
    · exact hcategories (hcategory ▸ h)
    · rw [hcategory] at h
      cases h

end Steps

/-- Every step goes one of the ways. -/
theorem hashStep {lx : Lexer} (hidle : lx.Idle) (hrest : lx.rest ≠ [])
    (hstack : lx.stack.OnLevels table innerStates) : HashStep lx := by
  have hhash : ∀ t, lx.rest = '#' :: t → ∃ s m,
      firstFiring? lx.lineStart lx.rest (table.rulesOf lx.stack.top) = some (.comment s, m) := by
    rintro t ht
    generalize lx.stack = stack at hstack
    cases hstack with
    | entry => exact ⟨_, _, by rw [ht]; exact firstFiring?_root_of_hash lx.lineStart t⟩
    | inner hstate =>
      exact ⟨_, _, by rw [ht]; exact firstFiring?_inner_of_hash hstate lx.lineStart t⟩
  rcases lx.step_cases table hrest with ⟨rule, m, u, hfire, hne, hu, -, hparts, hstep⟩ |
    ⟨c, rest, hfire, hc, hstep⟩
  · obtain ⟨hmem, hm⟩ := firstFiring?_eq_some hfire
    have hfree : rule.HashFree → HashStep lx := fun h =>
      .of_not_mem hidle hne (h.not_mem hm hu) hparts h.categories hstep
    generalize hs : lx.stack = stack at hstack hfire hmem hhash
    cases hstack with
    | entry =>
      have hroot : lx.currentState = root := by rw [Lexer.currentState, hs]; rfl
      cases rootRule_of_mem_rootTable rule hmem with
      | comment => exact .of_comment hidle hm hu hstep
      | signs => exact .of_signs hidle hroot hfire hu hstep
      | other h _ => exact hfree h
    | @inner state hstate =>
      cases innerRule_of_mem hstate rule hmem with
      | comment => exact .of_comment hidle hm hu hstep
      | escape h =>
        exact .of_escape hidle (by rw [Lexer.currentState, hs]; exact h) hm hu hstep
      | anyChar =>
        obtain ⟨c, hc⟩ := BuiltRule.fires?_anyChar_eq_some hm
        obtain rfl : u = [c] := List.append_cancel_right (hu ▸ hc)
        refine .of_not_mem hidle hne (fun hmem => ?_) hparts (by decide) hstep
        obtain rfl : '#' = c := List.mem_singleton.mp hmem
        obtain ⟨s, m', hcomment⟩ := hhash m.rest hc
        rw [hfire] at hcomment
        have hrule : BuiltRule.anyChar = .comment s := congrArg Prod.fst (Option.some.inj hcomment)
        have haction : Action.token text = .token comment := congrArg BuiltRule.action hrule
        exact absurd haction (by decide)
      | other h => exact hfree h
  · refine .other fun t ht => ?_
    have hnone : lx.pending = [] := hidle
    rw [hstep, Lexer.consume, hnone, List.nil_append, List.mem_singleton] at ht
    subst ht
    refine ⟨fun hmem => ?_, (by decide : Category.text ≠ .comment)⟩
    obtain rfl : '#' = c := List.mem_singleton.mp hmem
    obtain ⟨s, m, hcomment⟩ := hhash rest hc
    rw [hfire] at hcomment
    cases hcomment

/-- What a step finds at a run of signs. -/
theorem pending_of_sign {lx : Lexer} (hidle : lx.Idle) (hroot : lx.currentState = root) {c : Char}
    {rest : Text} (htext : lx.rest = c :: rest) (hne : c ≠ '#')
    (hc : CharSet.sign.holds c = true) :
    (lx.step table).pending =
      [Token.at .text lx.cursor (c :: rest.takeWhile CharSet.sign.holds)] := by
  have hfire := firstFiring?_root_of_sign lx.lineStart rest hc hne
  rw [← htext, ← rulesOf_root, ← hroot] at hfire
  rcases lx.step_cases table (by simp [htext]) with ⟨rule, m, u, hfire', -, hu, -, -, hstep⟩ |
    ⟨_, _, hfire', -⟩
  · cases (hfire.symm.trans hfire' : some _ = some _)
    obtain rfl := eq_cons_takeWhile (htext ▸ hu)
    exact Lexer.pending_of_token hidle rfl hstep
  · cases (hfire.symm.trans hfire' : some _ = none)

/-! ## The tokens of a source -/

/-- A scan of a source gets to a point. -/
def Reaches (source : Text) (lx : Lexer) : Prop :=
  ∃ tokens, (Lexer.start Language.pdfile.grammar source).Scans Language.pdfile.grammar tokens lx

/-- A token is a comment that starts with a `#` and goes on to the end of its line. -/
def LineComment (source : Text) (t : Token) : Prop :=
  ∃ before body after : Text, source = before ++ ('#' :: body ++ after) ∧
    t = Token.at .comment before.size ('#' :: body) ∧ '\n' ∉ body ∧ ∀ c ∈ after.head?, c = '\n'

/-- A token is an escaped `#` in a shell command. -/
def EscapedHash (source : Text) (t : Token) : Prop :=
  ∃ lx rest, Reaches source lx ∧ lx.currentState = shellCommandBody ∧
    lx.rest = '\\' :: '#' :: rest ∧ t = Token.at .constant lx.cursor ['\\', '#']

/-- A token is a run of signs in `root` that does not start with a `#`. -/
def SignRun (source : Text) (t : Token) : Prop :=
  ∃ lx c rest, Reaches source lx ∧ lx.currentState = root ∧ lx.rest = c :: rest ∧ c ≠ '#' ∧
    CharSet.sign.holds c = true ∧
    t = Token.at .text lx.cursor (c :: rest.takeWhile CharSet.sign.holds)

theorem grammar_eq : Language.pdfile.grammar = table := Language.pdfileGrammar_eq

/-- Every token is found in a step, and the step goes one of the ways. -/
theorem exists_hashStep {source : Text} {t : Token}
    (ht : t ∈ tokenize Language.pdfile.grammar source) :
    ∃ lx, Reaches source lx ∧ HashStep lx ∧ t ∈ (lx.step table).pending := by
  obtain ⟨end_, hscans, -⟩ := scans_tokenize Language.pdfile.grammar source
  obtain ⟨before, lx, hreaches, hrest, hmem⟩ := hscans.exists_step_of_mem t ht
  have hstack := hreaches.onLevels Language.pdfile.twoLevel .entry
  rw [grammar_eq] at hstack hmem
  exact ⟨lx, ⟨before, hreaches⟩, hashStep hreaches.idle_right hrest hstack, hmem⟩

theorem lineComment_of_reaches {source : Text} {lx : Lexer} (h : Reaches source lx) {rest : Text}
    (hrest : lx.rest = '#' :: rest) :
    LineComment source (Token.at .comment lx.cursor ('#' :: rest.takeWhile (· != '\n'))) := by
  obtain ⟨tokens, hscans⟩ := h
  obtain ⟨before, htext, hcursor, -⟩ := hscans.exists_reads
  refine ⟨before, rest.takeWhile (· != '\n'), rest.dropWhile (· != '\n'), ?_, ?_, ?_, ?_⟩
  · rw [List.cons_append, List.takeWhile_append_dropWhile, ← hrest]
    exact htext
  · have hsize : lx.cursor = before.size := by simpa [Lexer.start] using hcursor
    rw [hsize]
  · exact fun hmem => absurd (List.mem_takeWhile_imp hmem) (by decide)
  · intro c hc
    have hstops := List.head?_dropWhile_not (· != '\n') rest
    rw [hc] at hstops
    simpa using hstops

/-- A run of signs is a token of the source. -/
theorem SignRun.mem {source : Text} {t : Token} (h : SignRun source t) :
    t ∈ tokenize Language.pdfile.grammar source := by
  obtain ⟨lx, c, rest, ⟨tokens, hscans⟩, hroot, htext, hne, hc, rfl⟩ := h
  have hrest : lx.rest ≠ [] := by simp [htext]
  refine mem_tokenize_of_scans hscans hrest _ ?_
  rw [grammar_eq, pending_of_sign hscans.idle_right hroot htext hne hc]
  exact List.mem_singleton_self _

/-- Where the tokens of a source have a `#`: in comments, in escapes, and in runs of signs in
`root`.  There is no other place than comments and escapes if and only if no run of signs that
starts with another sign takes in a `#`. -/
theorem hash_tokens (source : Text) :
    (∀ t ∈ tokenize Language.pdfile.grammar source,
      t.category = .comment → LineComment source t) ∧
    (∀ t ∈ tokenize Language.pdfile.grammar source, '#' ∈ t.text →
      LineComment source t ∨ EscapedHash source t ∨ SignRun source t) ∧
    ((∀ t ∈ tokenize Language.pdfile.grammar source, '#' ∈ t.text →
        LineComment source t ∨ EscapedHash source t) ↔
      ∀ t, SignRun source t → '#' ∉ t.text) := by
  have hplaces : ∀ t ∈ tokenize Language.pdfile.grammar source, LineComment source t ∨
      EscapedHash source t ∨ SignRun source t ∨ ('#' ∉ t.text ∧ t.category ≠ .comment) := by
    intro t ht
    obtain ⟨lx, hreaches, hstep, hmem⟩ := exists_hashStep ht
    cases hstep with
    | comment htext hpending =>
      rw [hpending, List.mem_singleton] at hmem
      exact Or.inl (hmem ▸ lineComment_of_reaches hreaches htext)
    | escape hstate htext hpending =>
      rw [hpending, List.mem_singleton] at hmem
      exact Or.inr (Or.inl ⟨lx, _, hreaches, hstate, htext, hmem⟩)
    | signs hroot htext hne hc hpending =>
      rw [hpending, List.mem_singleton] at hmem
      exact Or.inr (Or.inr (Or.inl ⟨lx, _, _, hreaches, hroot, htext, hne, hc, hmem⟩))
    | other hother => exact Or.inr (Or.inr (Or.inr (hother t hmem)))
  refine ⟨fun t ht hcomment => ?_, fun t ht hhash => ?_, fun h t hrun hhash => ?_,
    fun h t ht hhash => ?_⟩
  · rcases hplaces t ht with h | ⟨lx, rest, -, -, -, rfl⟩ | ⟨lx, c, rest, -, -, -, -, -, rfl⟩ | h
    · exact h
    · cases hcomment
    · cases hcomment
    · exact absurd hcomment h.2
  · rcases hplaces t ht with h | h | h | h
    · exact Or.inl h
    · exact Or.inr (Or.inl h)
    · exact Or.inr (Or.inr h)
    · exact absurd hhash h.1
  · obtain ⟨lx, c, rest, -, -, -, -, -, htext⟩ := id hrun
    rcases h t hrun.mem hhash with ⟨_, _, _, -, heq, -⟩ | ⟨_, _, -, -, -, heq⟩
    · rw [htext] at heq
      cases congrArg Token.category heq
    · rw [htext] at heq
      cases congrArg Token.category heq
  · rcases hplaces t ht with hplace | hplace | hplace | hplace
    · exact Or.inl hplace
    · exact Or.inr hplace
    · exact absurd hhash (h t hplace)
    · exact absurd hhash hplace.1

/-- In `-#y` the `#` is in plain text. -/
theorem exists_hash_in_text :
    ∃ t ∈ tokenize Language.pdfile.grammar ['-', '#', 'y'], '#' ∈ t.text ∧ t.category = .text := by
  have hrun : SignRun ['-', '#', 'y'] (Token.at .text 0 ['-', '#']) := by
    refine ⟨Lexer.start Language.pdfile.grammar ['-', '#', 'y'], '-', ['#', 'y'],
      ⟨[], .refl rfl⟩, ?_, rfl, by decide, by decide, rfl⟩
    rw [grammar_eq]
    rfl
  exact ⟨_, hrun.mem, by decide, rfl⟩

end Pdfile

end Highlighter
