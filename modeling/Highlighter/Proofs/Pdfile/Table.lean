import Highlighter.Language
import Highlighter.Proofs.Grammar.Parts

/-!
# The pdfile grammar, built

`table` is the grammar that building the declaration of pdfile gives
(`build_declaration`).  Its patterns are put together from the parts of
`Highlighter.Proofs.Grammar.Parts` and not evaluated any further.
-/

namespace Highlighter.Pdfile

open Category Regex

/-! ## Words -/

theorem plainWords_keywords : PlainWords keywords where
  ne_nil := by simp [keywords]
  length_le := by simp [keywords]
  plain := by
    simp only [keywords, List.forall_mem_cons]
    repeat' apply And.intro
    all_goals first | exact .ofList (by decide) | simp

theorem plainWords_credentialFields : PlainWords credentialFields where
  ne_nil := by simp [credentialFields]
  length_le := by simp [credentialFields]
  plain := by
    simp only [credentialFields, List.forall_mem_cons]
    repeat' apply And.intro
    all_goals first | exact .ofList (by decide) | simp

theorem plainWords_resources : PlainWords resources where
  ne_nil := by simp [resources]
  length_le := by simp [resources]
  plain := by
    simp only [resources, List.forall_mem_cons]
    repeat' apply And.intro
    all_goals first | exact .ofList (by decide) | simp

theorem plainWords_booleans : PlainWords booleans where
  ne_nil := by simp [booleans]
  length_le := by simp [booleans]
  plain := by
    simp only [booleans, List.forall_mem_cons]
    repeat' apply And.intro
    all_goals first | exact .ofList (by decide) | simp

theorem plainWords_compressionLevels : PlainWords compressionLevels where
  ne_nil := by simp [compressionLevels]
  length_le := by simp [compressionLevels]
  plain := by
    simp only [compressionLevels, List.forall_mem_cons]
    repeat' apply And.intro
    all_goals first | exact .ofList (by decide) | simp

theorem plainWords_vmTypes : PlainWords vmTypes where
  ne_nil := by simp [vmTypes]
  length_le := by simp [vmTypes]
  plain := by
    simp only [vmTypes, List.forall_mem_cons]
    repeat' apply And.intro
    all_goals first | exact .ofList (by decide) | simp

theorem plainWords_listDirectives : PlainWords listDirectives where
  ne_nil := by simp [listDirectives]
  length_le := by simp [listDirectives]
  plain := by
    simp only [listDirectives, List.forall_mem_cons]
    repeat' apply And.intro
    all_goals first | exact .ofList (by decide) | simp

/-- The shell directives that are not deferred. -/
def immediateDirectives : List String := ["DO", "EXECUTE"]

theorem filter_shellDirectives :
    shellDirectives.filter (· != onbuildDirective) = immediateDirectives := by
  decide

theorem plainWords_immediateDirectives : PlainWords immediateDirectives where
  ne_nil := by simp [immediateDirectives]
  length_le := by simp [immediateDirectives]
  plain := by
    simp only [immediateDirectives, List.forall_mem_cons]
    repeat' apply And.intro
    all_goals first | exact .ofList (by decide) | simp

/-- A directive and some words are plain, the directive without a hyphen. -/
structure PlainEntry (entry : String × List String) : Prop where
  /-- The directive is plain. -/
  directive : Text.Plain entry.1.toList
  /-- It has no hyphen. -/
  no_hyphen : '-' ∉ entry.1.toList
  /-- The words are plain. -/
  words : PlainWords entry.2

theorem PlainEntry.of_chars {cs : List Char} {list : List String} (h : Text.Plain cs ∧ '-' ∉ cs)
    (hlist : PlainWords list) : PlainEntry (String.ofList cs, list) :=
  ⟨.ofList h.1, by rw [String.toList_ofList]; exact h.2, hlist⟩

theorem plainEntry_of_mem_fieldDirectives : ∀ entry ∈ fieldDirectives, PlainEntry entry := by
  simp only [fieldDirectives, List.forall_mem_cons]
  exact ⟨.of_chars (by decide) plainWords_credentialFields,
    .of_chars (by decide) plainWords_credentialFields,
    .of_chars (by decide) plainWords_resources, by simp⟩

theorem plainEntry_of_mem_valueDirectives : ∀ entry ∈ valueDirectives, PlainEntry entry := by
  simp only [valueDirectives, List.forall_mem_cons]
  exact ⟨.of_chars (by decide) plainWords_booleans,
    .of_chars (by decide) plainWords_compressionLevels,
    .of_chars (by decide) plainWords_booleans, .of_chars (by decide) plainWords_booleans,
    .of_chars (by decide) plainWords_vmTypes, by simp⟩

/-! ## Patterns -/

/-- A directive with a shell command, and blanks. -/
def shellStart : Pattern :=
  .groupsThen 1
    [.alt (.seq (.opt (.wordThen true "ONBUILD".toList .blanks)) (.literal onbuildDirective))
      (.words immediateDirectives)]
    (.group 2 .blanks)

/-- An origin and its name. -/
def fromAs : Pattern :=
  .groupsThen 1
    [.literal "FROM", .blanks, .argument, .blanks, .literal "AS", .blanks]
    (.group 7 .argument)

/-- The directive with attributes, and blanks. -/
def attributeStart : Pattern := .groupsThen 1 [.literal attributeDirective] (.group 2 .blanks)

/-- A line up to a `=`. -/
def beforeEquals : Pattern := .seq (.many true .beforeComment) (.one (.only '='))

/-- A directive, a field and its value. -/
def fieldValue (entry : String × List String) : Pattern :=
  .groupsThen 1 [.literal entry.1, .blanks, .words entry.2, .blanks] (.group 5 .argument)

/-- A directive, a field and whatever follows. -/
def fieldOnly (entry : String × List String) : Pattern :=
  .groupsThen 1 [.literal entry.1, .blanks, .words entry.2]
    (.opt (.group 4 (.seq (.many true .beforeComment) (.one .solid))))

/-- A directive and whatever follows. -/
def anyValue (entry : String × List String) : Pattern :=
  .groupsThen 1 [.literal entry.1, .blanks] (.group 3 .argument)

/-- A directive and a word. -/
def wordValue (entry : String × List String) : Pattern :=
  .groupsThen 1 [.literal entry.1, .blanks] (.group 3 (.words entry.2))

/-- A directive with a list, and blanks. -/
def listStart : Pattern := .groupsThen 1 [.words listDirectives] (.group 2 .blanks)

/-- Any directive, with its argument if it has one. -/
def anyDirective : Pattern :=
  .seq (.group 1 (.words keywords)) (.seq (.check (.word .either .word))
    (.groupsThen 2 [.many true .inlineBlank] (.opt (.group 3 .argument))))

/-- A key and a value. -/
def pair : Pattern :=
  .groupsThen 1 [.plus .keyChar, .one (.only '=')] (.group 3 (.plus .valueChar))

/-- A key and a value, with the separator after them. -/
def pairThenSeparator : Pattern :=
  .groupsThen 1 [.plus .keyChar, .one (.only '='), .plus .valueChar] (.group 4 (.one (.only ';')))

/-- An item, with the separator after it. -/
def itemThenSeparator : Pattern := .groupsThen 1 [.plus .itemChar] (.group 2 (.one (.only ',')))

/-- Words of a command. -/
def shellWords : Pattern :=
  .seq (.plus .shellChar) (.loop true (.seq (.plus .innerBlank) (.plus .shellChar)))

/-! ## Rules -/

/-- The built rules for the blanks and comments of `root`. -/
def blankTable : List BuiltRule := [.blanks, .comment .stay]

/-- The built rules of directives of their own. -/
def leadTable : List BuiltRule := [
  ⟨shellStart.tied, true, none, .groups [keyword, whitespace], .push shellCommandBody⟩,
  ⟨fromAs.tied, true, none,
    .groups [keyword, whitespace, string, whitespace, keyword, whitespace, string], .stay⟩,
  ⟨attributeStart.tied, true, some beforeEquals.tied, .groups [keyword, whitespace],
    .push providerAttributes⟩]

/-- The built rules of a directive with fields. -/
def fieldTable (entry : String × List String) : List BuiltRule := [
  ⟨(fieldValue entry).tied, true, none,
    .groups [keyword, whitespace, identifier, whitespace, string], .stay⟩,
  ⟨(fieldOnly entry).tied, true, none, .groups [keyword, whitespace, error, error], .stay⟩,
  ⟨(anyValue entry).tied, true, none, .groups [keyword, whitespace, error], .stay⟩]

/-- The built rules of a directive with a closed set of values. -/
def valueTable (entry : String × List String) : List BuiltRule := [
  ⟨(wordValue entry).tied, true, some Pattern.lineEnd.tied,
    .groups [keyword, whitespace, constant], .stay⟩,
  ⟨(anyValue entry).tied, true, none, .groups [keyword, whitespace, error], .stay⟩]

/-- The built rules for lists, for all other directives, and for what is no directive. -/
def lastTable : List BuiltRule := [
  ⟨listStart.tied, true, none, .groups [keyword, whitespace], .push commaList⟩,
  ⟨anyDirective.tied, true, none, .groups [keyword, whitespace, string], .stay⟩,
  .words, .signs]

/-- The built rules of `root`. -/
def rootTable : List BuiltRule :=
  blankTable ++ leadTable ++ fieldDirectives.flatMap fieldTable ++
    valueDirectives.flatMap valueTable ++ lastTable

/-- The built rules of `provider-attributes`. -/
def providerAttributeTable : List BuiltRule := [
  .comment .pop, .closingLineEnd, .innerBlanks,
  ⟨pairThenSeparator.tied, false, none, .groups [identifier, operator, string, punctuation],
    .stay⟩,
  ⟨pair.tied, false, none, .groups [identifier, operator, string], .stay⟩,
  .anyChar]

/-- The built rules of `comma-list`. -/
def commaListTable : List BuiltRule := [
  .comment .pop, .closingLineEnd, .innerBlanks,
  ⟨itemThenSeparator.tied, false, none, .groups [identifier, punctuation], .stay⟩,
  ⟨(Pattern.plus .itemChar).tied, false, none, .token identifier, .stay⟩,
  .anyChar]

/-- The built rules of `shell-command-body`. -/
def shellCommandTable : List BuiltRule := [
  .closingLineEnd, .comment .pop, .escape, .innerBlanks,
  ⟨shellWords.tied, false, none, .token string, .stay⟩]

/-- The built grammar. -/
def table : Grammar :=
  ⟨name, root, [
    ⟨root, rootTable⟩, ⟨providerAttributes, providerAttributeTable⟩,
    ⟨commaList, commaListTable⟩, ⟨shellCommandBody, shellCommandTable⟩]⟩


/-! ## Meanings -/

section Meanings

variable {entry : String × List String}

theorem meansInGroup_shellDirective :
    MeansInGroup true 40 ("(?:ONBUILD[ \\t]+)?".toList ++ onbuildDirective.toList ++ ['|'] ++
      anyOf immediateDirectives)
      (.alt (.seq (.opt (.wordThen true "ONBUILD".toList .blanks)) (.literal onbuildDirective))
        (.words immediateDirectives)) := by
  refine ⟨by simp, fun k => ?_⟩
  have hdeferrer : Text.Plain "ONBUILD".toList := .ofList (by decide)
  have hword : MeansSeq true k k 26 ("ONBUILD".toList ++ blanks)
      (.wordThen true "ONBUILD".toList .blanks) :=
    meansUnit_blanks.seq.wordThen ⟨by decide, by decide⟩ "ONBUILD".toList
      (hdeferrer.not_mem_metaChars (by decide))
  have hdeferred : MeansUnit true k k 28 "(?:ONBUILD[ \\t]+)?".toList
      (.opt (.wordThen true "ONBUILD".toList .blanks)) :=
    hword.body.scope.opt (Pattern.consumes_wordThen (by decide) _)
  have hplain : Text.Plain onbuildDirective.toList := .ofList (by decide)
  have hrun := hdeferred.append (meansSeq_plain hplain (by decide)) ⟨by decide, by decide⟩
  have hbody := hrun.alt (meansPart_anyOf plainWords_immediateDirectives).seq
    ⟨by simp [anyOf, words], by simp [anyOf, words]⟩
  exact hbody.mono (by decide)

theorem meansSeq_shellStart : MeansSeq true 0 2 55
    (group ("(?:ONBUILD[ \\t]+)?".toList ++ onbuildDirective.toList ++ ['|'] ++
      anyOf immediateDirectives) ++ group blanks) shellStart := by
  have h := MeansSeq.groupsThen ⟨by simp [group], by simp [group]⟩
    (.cons meansInGroup_shellDirective .nil) (meansInGroup_blanks.part (k := 1)).seq
  simp only [List.flatMap_cons, List.flatMap_nil, List.append_nil] at h
  exact h

theorem meansSeq_fromAs : MeansSeq true 0 7 97
    (group "FROM".toList ++ group blanks ++ group argument ++ group blanks ++
      group "AS".toList ++ group blanks ++ group argument) fromAs := by
  have hfrom := meansInGroup_plain (s := "FROM") (.ofList (by decide)) (by decide)
  have has := meansInGroup_plain (s := "AS") (.ofList (by decide)) (by decide)
  have h := MeansSeq.groupsThen ⟨by simp [group], by simp [group]⟩
    (.cons hfrom (.cons meansInGroup_blanks (.cons meansInGroup_argument
      (.cons meansInGroup_blanks (.cons has (.cons meansInGroup_blanks .nil))))))
    (meansInGroup_argument.part (k := 6)).seq
  simp only [List.flatMap_cons, List.flatMap_nil, List.append_nil, List.append_assoc] at h ⊢
  exact h

theorem meansSeq_attributeStart : MeansSeq true 0 2 27
    (group attributeDirective.toList ++ group blanks) attributeStart := by
  have hword := meansInGroup_plain (s := attributeDirective) (.ofList (by decide)) (by decide)
  have h := MeansSeq.groupsThen ⟨by simp [group], by simp [group]⟩
    (.cons hword .nil) (meansInGroup_blanks.part (k := 1)).seq
  simp only [List.flatMap_cons, List.flatMap_nil, List.append_nil] at h
  exact h

theorem meansSeq_beforeEquals : MeansSeq true 0 0 6 "[^#\\n]*=".toList beforeEquals :=
  meansSet_beforeComment.star.append (MeansSet.char (by decide)).part.seq ⟨by decide, by decide⟩

theorem meansSeq_fieldValue (h : PlainEntry entry) : MeansSeq true 0 5 69
    (group entry.1.toList ++ group blanks ++ group (anyOf entry.2) ++ group blanks ++
      group argument) (fieldValue entry) := by
  have h := MeansSeq.groupsThen ⟨by simp [group], by simp [group]⟩
    (.cons (meansInGroup_plain h.directive h.no_hyphen) (.cons meansInGroup_blanks
      (.cons (meansInGroup_anyOf h.words) (.cons meansInGroup_blanks .nil))))
    (meansInGroup_argument.part (k := 4)).seq
  simp only [List.flatMap_cons, List.flatMap_nil, List.append_nil, List.append_assoc] at h ⊢
  exact h

theorem meansSeq_fieldOnly (h : PlainEntry entry) : MeansSeq true 0 4 56
    (group entry.1.toList ++ group blanks ++ group (anyOf entry.2) ++
      "([^#\\n]*[^#\\s])?".toList) (fieldOnly entry) := by
  have hrest : MeansInGroup true 12 "[^#\\n]*[^#\\s]".toList
      (.seq (.many true .beforeComment) (.one .solid)) :=
    ⟨by decide, fun k => (MeansSeq.body (meansSet_beforeComment.star.append
      meansSet_solid.part.seq ⟨by decide, by decide⟩)).mono (by decide)⟩
  have h := MeansSeq.groupsThen (u := "([^#\\n]*[^#\\s])?".toList) ⟨by decide, by decide⟩
    (.cons (meansInGroup_plain h.directive h.no_hyphen) (.cons meansInGroup_blanks
      (.cons (meansInGroup_anyOf h.words) .nil)))
    (MeansUnit.seq ((hrest.part (k := 3)).opt rfl))
  simp only [List.flatMap_cons, List.flatMap_nil, List.append_nil, List.append_assoc] at h ⊢
  exact h

theorem meansSeq_anyValue (h : PlainEntry entry) : MeansSeq true 0 3 41
    (group entry.1.toList ++ group blanks ++ group argument) (anyValue entry) := by
  have h := MeansSeq.groupsThen ⟨by simp [group], by simp [group]⟩
    (.cons (meansInGroup_plain h.directive h.no_hyphen) (.cons meansInGroup_blanks .nil))
    (meansInGroup_argument.part (k := 2)).seq
  simp only [List.flatMap_cons, List.flatMap_nil, List.append_nil, List.append_assoc] at h ⊢
  exact h

theorem meansSeq_wordValue (h : PlainEntry entry) : MeansSeq true 0 3 41
    (group entry.1.toList ++ group blanks ++ group (anyOf entry.2)) (wordValue entry) := by
  have h := MeansSeq.groupsThen ⟨by simp [group], by simp [group]⟩
    (.cons (meansInGroup_plain h.directive h.no_hyphen) (.cons meansInGroup_blanks .nil))
    ((meansInGroup_anyOf h.words).part (k := 2)).seq
  simp only [List.flatMap_cons, List.flatMap_nil, List.append_nil, List.append_assoc] at h ⊢
  exact h

theorem meansSeq_listStart : MeansSeq true 0 2 27
    (group (anyOf listDirectives) ++ group blanks) listStart := by
  have h := MeansSeq.groupsThen ⟨by simp [group], by simp [group]⟩
    (.cons (meansInGroup_anyOf plainWords_listDirectives) .nil)
    (meansInGroup_blanks.part (k := 1)).seq
  simp only [List.flatMap_cons, List.flatMap_nil, List.append_nil] at h
  exact h

theorem meansSeq_anyDirective : MeansSeq true 0 3 44
    (group (anyOf keywords) ++ "\\b([ \\t]*)".toList ++ group argument ++ ['?'])
    anyDirective := by
  have hblank : MeansInGroup true 12 "[ \\t]*".toList (.many true .inlineBlank) :=
    ⟨by decide, fun k => meansSet_inlineBlank.star.seq.body.mono (by decide)⟩
  have hargument : MeansSeq true 2 3 14 (group argument ++ ['?'])
      (.opt (.group 3 .argument)) := ((meansInGroup_argument.part (k := 2)).opt rfl).seq
  have hrest := MeansSeq.groupsThen (k := 1) ⟨by simp [group], by simp [group]⟩
    (.cons hblank .nil) hargument
  have hedge : MeansUnit true 1 1 1 ['\\', 'b'] (.check (.word .either .word)) :=
    ⟨_, reads_wordEdge, .check _⟩
  have htail := hedge.append hrest ⟨by simp [group], by simp [group]⟩
  have h := ((meansInGroup_anyOf plainWords_keywords).part (k := 0)).append htail
    ⟨by simp, by simp⟩
  have htext : "\\b([ \\t]*)".toList = ['\\', 'b'] ++ group "[ \\t]*".toList := by decide
  rw [htext]
  simp only [List.flatMap_cons, List.flatMap_nil, List.append_nil, List.append_assoc] at h ⊢
  exact h

theorem meansInGroup_keyChars :
    MeansInGroup true 12 "[A-Z0-9_-]+".toList (.plus .keyChar) :=
  ⟨by decide, fun k => meansSet_keyChar.plus.seq.body.mono (by decide)⟩

theorem meansInGroup_valueChars :
    MeansInGroup true 12 "[^;#\\s]+".toList (.plus .valueChar) :=
  ⟨by decide, fun k => meansSet_valueChar.plus.seq.body.mono (by decide)⟩

theorem meansInGroup_char {b : Bool} {c : Char} (h : c ∉ metaChars) :
    MeansInGroup b 12 [c] (.one (Pattern.letter b c)) := by
  refine ⟨?_, fun k => (MeansSet.char h).part.seq.body.mono (by decide)⟩
  rintro heq
  rw [List.head?_cons, Option.some.injEq] at heq
  subst heq
  exact h (by decide)

theorem meansSeq_pair : MeansSeq true 0 3 41 "([A-Z0-9_-]+)(=)([^;#\\s]+)".toList pair :=
  MeansSeq.groupsThen ⟨by decide, by decide⟩
    (.cons meansInGroup_keyChars (.cons (meansInGroup_char (c := '=') (by decide)) .nil))
    (meansInGroup_valueChars.part (k := 2)).seq

theorem meansSeq_pairThenSeparator :
    MeansSeq true 0 4 55 "([A-Z0-9_-]+)(=)([^;#\\s]+)(;)".toList pairThenSeparator :=
  MeansSeq.groupsThen ⟨by decide, by decide⟩
    (.cons meansInGroup_keyChars (.cons (meansInGroup_char (c := '=') (by decide))
      (.cons meansInGroup_valueChars .nil)))
    ((meansInGroup_char (c := ';') (by decide)).part (k := 3)).seq

theorem meansSeq_itemThenSeparator :
    MeansSeq false 0 2 27 "([^,#\\s]+)(,)".toList itemThenSeparator := by
  have hitem : MeansInGroup false 12 "[^,#\\s]+".toList (.plus .itemChar) :=
    ⟨by decide, fun k => meansSet_itemChar.plus.seq.body.mono (by decide)⟩
  exact MeansSeq.groupsThen ⟨by decide, by decide⟩ (.cons hitem .nil)
    ((meansInGroup_char (c := ',') (by decide)).part (k := 1)).seq

theorem meansSeq_shellWords :
    MeansSeq false 0 0 19 "[^\\s\\\\#]+(?:[^\\S\\n]+[^\\s\\\\#]+)*".toList shellWords := by
  have hmore : MeansSeq false 0 0 11 ("[^\\S\\n]+".toList ++ "[^\\s\\\\#]+".toList)
      (.seq (.plus .innerBlank) (.plus .shellChar)) :=
    meansSet_innerBlank.plus.append meansSet_shellChar.plus.seq ⟨by decide, by decide⟩
  exact meansSet_shellChar.plus.append (hmore.body.loop rfl (by simp)).seq
    ⟨by decide, by decide⟩

end Meanings

/-! ## Building -/

/-- The names of the declared states. -/
def declared : String → Bool := (declaration.states.map (·.name)).contains

theorem declared_of_mem {state : String}
    (h : state ∈ [root, providerAttributes, commaList, shellCommandBody]) :
    declared state = true := by
  simpa [declared, declaration] using h

theorem buildTo_blankTable : BuildTo declared blankRules blankTable :=
  .cons (.alone meansSet_space.plus.seq (by decide) trivial rfl rfl) trivial rfl
    (.cons (.alone meansSeq_comment (by decide) trivial rfl rfl) trivial rfl .nil)

theorem buildTo_leadTable : BuildTo declared leadRules leadTable := by
  have hshell := meansSeq_shellStart
  rw [← filter_shellDirectives] at hshell
  refine .cons (.alone hshell (by decide) rfl rfl rfl) (declared_of_mem (by simp)) rfl ?_
  refine .cons (.alone meansSeq_fromAs (by decide) rfl ?_ rfl) trivial rfl ?_
  · exact Pattern.consumes_groupsThen
      (.inr ⟨_, List.mem_cons_of_mem _ (List.mem_cons_self ..), rfl⟩)
  refine .cons (.before meansSeq_attributeStart (by decide) rfl ?_ rfl meansSeq_beforeEquals
    (by decide)) (declared_of_mem (by simp)) rfl .nil
  exact Pattern.consumes_groupsThen (.inl rfl)

theorem buildTo_fieldTable {entry : String × List String} (h : PlainEntry entry) :
    BuildTo declared (fieldRules entry) (fieldTable entry) := by
  have hconsumes : ∀ ps q, (Pattern.groupsThen 1 (.literal entry.1 :: .blanks :: ps) q).consumes =
      true := fun ps q => Pattern.consumes_groupsThen (.inr ⟨.blanks, by simp, rfl⟩)
  exact .cons (.alone (meansSeq_fieldValue h) (by decide) rfl (hconsumes _ _) rfl) trivial rfl
    (.cons (.alone (meansSeq_fieldOnly h) (by decide) rfl (hconsumes _ _) rfl) trivial rfl
      (.cons (.alone (meansSeq_anyValue h) (by decide) rfl (hconsumes _ _) rfl) trivial rfl .nil))

theorem buildTo_valueTable {entry : String × List String} (h : PlainEntry entry) :
    BuildTo declared (valueRules entry) (valueTable entry) := by
  have hconsumes : ∀ ps q, (Pattern.groupsThen 1 (.literal entry.1 :: .blanks :: ps) q).consumes =
      true := fun ps q => Pattern.consumes_groupsThen (.inr ⟨.blanks, by simp, rfl⟩)
  exact .cons (.before (meansSeq_wordValue h) (by decide) rfl (hconsumes _ _) rfl meansSeq_lineEnd
      (by decide)) trivial rfl
    (.cons (.alone (meansSeq_anyValue h) (by decide) rfl (hconsumes _ _) rfl) trivial rfl .nil)

theorem buildTo_lastTable : BuildTo declared lastRules lastTable := by
  refine .cons (.alone meansSeq_listStart (by decide) rfl ?_ rfl) (declared_of_mem (by simp)) rfl ?_
  · exact Pattern.consumes_groupsThen (.inl rfl)
  refine .cons (.alone meansSeq_anyDirective (by decide) rfl ?_ rfl) trivial rfl ?_
  · have hwords := Pattern.consumes_words plainWords_keywords
    simp [anyDirective, Pattern.consumes, hwords]
  exact .cons (.alone meansSet_word.plus.seq (by decide) trivial rfl rfl) trivial rfl
    (.cons (.alone meansSet_sign.plus.seq (by decide) trivial rfl rfl) trivial rfl .nil)

theorem buildTo_rootTable : BuildTo declared rootRules rootTable :=
  (((buildTo_blankTable.append buildTo_leadTable).append
    (.flatMap fun entry h => buildTo_fieldTable (plainEntry_of_mem_fieldDirectives entry h))).append
    (.flatMap fun entry h => buildTo_valueTable (plainEntry_of_mem_valueDirectives entry h))).append
    buildTo_lastTable

theorem means_closingComment : closingComment.Means .comment none :=
  .alone meansSeq_comment (by decide) trivial rfl rfl

theorem means_closingLineEnd : closingLineEnd.Means .newline none :=
  .alone meansSeq_newline (by decide) trivial rfl rfl

theorem means_innerBlanks : innerBlanks.Means (.plus .innerBlank) none :=
  .alone meansSet_innerBlank.plus.seq (by decide) trivial rfl rfl

theorem means_anyChar : ((rule ".".toList).as text).Means (.one .inLine) none :=
  .alone meansSet_dot.part.seq (by decide) trivial rfl rfl

theorem buildTo_providerAttributeTable :
    BuildTo declared providerAttributeRules providerAttributeTable :=
  .cons means_closingComment trivial rfl (.cons means_closingLineEnd trivial rfl
    (.cons means_innerBlanks trivial rfl
      (.cons (.alone meansSeq_pairThenSeparator (by decide) rfl rfl rfl) trivial rfl
        (.cons (.alone meansSeq_pair (by decide) rfl rfl rfl) trivial rfl
          (.cons means_anyChar trivial rfl .nil)))))

theorem buildTo_commaListTable : BuildTo declared commaListRules commaListTable :=
  .cons means_closingComment trivial rfl (.cons means_closingLineEnd trivial rfl
    (.cons means_innerBlanks trivial rfl
      (.cons (.alone meansSeq_itemThenSeparator (by decide) rfl rfl rfl) trivial rfl
        (.cons (.alone meansSet_itemChar.plus.seq (by decide) trivial rfl rfl) trivial rfl
          (.cons means_anyChar trivial rfl .nil)))))

theorem buildTo_shellCommandTable : BuildTo declared shellCommandRules shellCommandTable :=
  .cons means_closingLineEnd trivial rfl (.cons means_closingComment trivial rfl
    (.cons (.alone meansSeq_escape (by decide) trivial rfl rfl) trivial rfl
      (.cons means_innerBlanks trivial rfl
        (.cons (.alone meansSeq_shellWords (by decide) trivial rfl rfl) trivial rfl .nil))))

/-- No rule of `root` leaves it. -/
theorem transition_ne_pop_of_mem_rootTable :
    ∀ rule ∈ rootTable, rule.transition ≠ .pop := by
  decide

/-- The declaration is built into the table. -/
theorem build_declaration : declaration.build .standard = .ok table := by
  refine GrammarDecl.build_eq_ok ?_ (by simp [declaration]) (buildStates_eq_ok ?_)
  · decide
  · refine .cons ⟨rfl, buildTo_rootTable, fun _ => transition_ne_pop_of_mem_rootTable⟩
      (.cons ⟨rfl, buildTo_providerAttributeTable, ?_⟩
        (.cons ⟨rfl, buildTo_commaListTable, ?_⟩
          (.cons ⟨rfl, buildTo_shellCommandTable, ?_⟩ .nil)))
    all_goals exact fun h => absurd h (by decide)

end Highlighter.Pdfile

namespace Highlighter.Language

theorem pdfileGrammar_eq : pdfileGrammar = Pdfile.table := by
  rw [pdfileGrammar, Pdfile.build_declaration]
  rfl

end Highlighter.Language
