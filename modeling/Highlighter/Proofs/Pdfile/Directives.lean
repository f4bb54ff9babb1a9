import Highlighter.Proofs.Grammar.Rows
import Highlighter.Proofs.Openings

/-!
# Directives of pdfile

`Directive t u` says without any rules that a text starts with the directive `u`: a
keyword in any case that is no part of a longer word, or a deferred `RUN` with a
command.  A text starts with at most one directive (`Directive.unique`).

About 25 rules of `root` are for directives.  Each makes a keyword token of its first
group, and its first group is a directive (`directiveRule_of_mem`).  The rules overlap,
and which of them fires first is not settled here.  It does not matter for the keyword:
where a directive stands some rule fires (`exists_directiveRule`), and whichever does
reads the one directive there is.
-/

namespace Highlighter.Pdfile

open Category Pattern

/-! ## Directives of a text -/

/-- A text starts with a directive. -/
inductive Directive (t : Text) : Text → Prop where
  /-- A keyword that no word character follows. -/
  | keyword {s : String} {u rest : Text} : s ∈ keywords → u.EqFold s.toList → t = u ++ rest →
      (∀ c ∈ rest.head?, isWordChar c = false) → Directive t u
  /-- A deferred `RUN` that a blank follows. -/
  | deferred {v b w rest : Text} {c : Char} : v.EqFold "ONBUILD".toList → b.Blanks →
      w.EqFold onbuildDirective.toList → c = ' ' ∨ c = '\t' → t = v ++ (b ++ (w ++ c :: rest)) →
      Directive t (v ++ (b ++ w))

theorem upper_of_mem_keywords : ∀ s ∈ keywords, Text.Upper s.toList := by
  simp only [keywords, List.forall_mem_cons]
  repeat' apply And.intro
  all_goals first | exact .ofList (by decide) | simp

theorem upper_deferrer : Text.Upper "ONBUILD".toList := .ofList (by decide)

theorem onbuildDirective_mem_keywords : onbuildDirective ∈ keywords := by decide

theorem upper_onbuildDirective : Text.Upper onbuildDirective.toList :=
  upper_of_mem_keywords _ onbuildDirective_mem_keywords

namespace Directive

variable {t u u' : Text}

theorem ne_nil (h : Directive t u) : u ≠ [] := by
  cases h with
  | keyword hs hfold _ _ => exact hfold.ne_nil (plainWords_keywords.plain _ hs).ne_nil
  | deferred _ hb _ _ _ => simp [hb.ne_nil]

theorem exists_append (h : Directive t u) : ∃ rest, t = u ++ rest := by
  cases h with
  | keyword _ _ ht _ => exact ⟨_, ht⟩
  | deferred _ _ _ _ ht => exact ⟨_, by rw [ht]; simp; rfl⟩

/-- No keyword is the word that defers. -/
theorem keyword_ne_deferrer {s : String} (hs : s ∈ keywords) (hu : u.EqFold s.toList)
    (hu' : u.EqFold "ONBUILD".toList) : False := by
  have heq := hu.unique hu' (upper_of_mem_keywords s hs) upper_deferrer
  obtain rfl : s = "ONBUILD" := String.toList_inj.mp heq
  exact absurd hs (by decide)

/-- A text starts with at most one directive. -/
theorem unique (h : Directive t u) (h' : Directive t u') : u = u' := by
  cases h with
  | keyword hs hu ht hnext =>
    have hword := hu.isWordChar (upper_of_mem_keywords _ hs)
    cases h' with
    | keyword hs' hu' ht' hnext' =>
      exact (Text.cut_unique (ht.symm.trans ht') hword
        (hu'.isWordChar (upper_of_mem_keywords _ hs')) hnext hnext').1
    | deferred hv hb _ _ ht' =>
      obtain ⟨rfl, -⟩ := Text.cut_unique (ht.symm.trans ht') hword
        (hv.isWordChar upper_deferrer) hnext
        fun c hc => isWordChar_of_blank (hb.head?_append _ c hc)
      exact (keyword_ne_deferrer hs hu hv).elim
  | @deferred v b w rest c hv hb hw hc ht =>
    have hword := hv.isWordChar upper_deferrer
    have hblank : ∀ x ∈ (b ++ (w ++ c :: rest)).head?, isWordChar x = false :=
      fun x hx => isWordChar_of_blank (hb.head?_append _ x hx)
    cases h' with
    | keyword hs' hu' ht' hnext' =>
      obtain ⟨rfl, -⟩ := Text.cut_unique (ht.symm.trans ht') hword
        (hu'.isWordChar (upper_of_mem_keywords _ hs')) hblank hnext'
      exact (keyword_ne_deferrer hs' hu' hv).elim
    | @deferred v' b' w' rest' c' hv' hb' hw' hc' ht' =>
      obtain ⟨rfl, hafter⟩ := Text.cut_unique (ht.symm.trans ht') hword
        (hv'.isWordChar upper_deferrer) hblank
        fun x hx => isWordChar_of_blank (hb'.head?_append _ x hx)
      have hstop : ∀ {w rest : Text} {c : Char}, w.EqFold onbuildDirective.toList →
          ∀ x ∈ (w ++ c :: rest).head?, (x == ' ' || x == '\t') = false := by
        intro w rest c hw x hx
        have hne := hw.ne_nil (plainWords_keywords.plain _ onbuildDirective_mem_keywords).ne_nil
        rw [List.head?_append_of_ne_nil w hne] at hx
        have hx := hw.isWordChar upper_onbuildDirective x (List.mem_of_head? hx)
        by_contra hblank
        rw [Bool.not_eq_false, Bool.or_eq_true, beq_iff_eq, beq_iff_eq] at hblank
        rw [isWordChar_of_blank hblank] at hx
        cases hx
      have hall : ∀ {b : Text}, b.Blanks → ∀ x ∈ b, (x == ' ' || x == '\t') = true :=
        fun hb x hx => by simpa using hb.blank x hx
      obtain ⟨rfl, hlast⟩ := Text.cut_unique hafter (hall hb) (hall hb') (hstop hw) (hstop hw')
      obtain ⟨rfl, -⟩ := Text.cut_unique hlast (hw.isWordChar upper_onbuildDirective)
        (hw'.isWordChar upper_onbuildDirective)
        (by simpa using isWordChar_of_blank hc) (by simpa using isWordChar_of_blank hc')
      rfl

end Directive

/-! ## Rules for directives -/

/-- The rule for an origin and its name. -/
def fromAsRule : BuiltRule :=
  ⟨fromAs.tied, true, none,
    .groups [keyword, whitespace, string, whitespace, keyword, whitespace, string], .stay⟩

/-- The rule for a directive with a command. -/
def shellRule : BuiltRule :=
  ⟨shellStart.tied, true, none, .groups [keyword, whitespace], .push shellCommandBody⟩

/-- The rule for any directive. -/
def anyDirectiveRule : BuiltRule :=
  ⟨anyDirective.tied, true, none, .groups [keyword, whitespace, string], .stay⟩

/-- A rule for directives.  The first text of its row is the directive and makes the keyword, and
the rule makes no other keyword but for the second word of an origin. -/
structure DirectiveRule (rule : BuiltRule) : Prop where
  lineStart : rule.lineStart = true
  row : ∀ {lineStart : Bool} {t : Text} {m : Match}, rule.fires? lineStart t = some m →
    ∃ u ws, t = u ++ (ws.flatten ++ m.rest) ∧ Directive t u ∧ m.HasGroups 1 0 (u :: ws) ∧
      rule.action.categories.length = ws.length + 1
  action : ∃ more, rule.action = .groups (keyword :: more) ∧
    (Category.keyword ∉ more ∨ rule = fromAsRule)

/-- A pattern that reads a keyword. -/
def ReadsKeyword (p : Pattern) : Prop :=
  ∀ a b, b ∈ p.run a → ∃ u, a.Reads u b ∧ ∃ s ∈ keywords, u.EqFold s.toList

theorem readsKeyword_words {list : List String} (h : PlainWords list)
    (hsub : ∀ s ∈ list, s ∈ keywords) : ReadsKeyword (.words list) := by
  intro a b hb
  obtain ⟨u, hu, s, hs, hfold⟩ := exists_of_mem_words h hb
  exact ⟨u, hu, s, hsub s hs, hfold⟩

theorem readsKeyword_literal {s : String} (hs : s ∈ keywords) : ReadsKeyword (.literal s) := by
  intro a b hb
  obtain ⟨u, hu, hfold⟩ := exists_of_mem_word (plainWords_keywords.plain s hs).chars hb
  exact ⟨u, hu, s, hs, hfold⟩

/-- A pattern that only goes on at the end of a word. -/
def NeedsEdge (r : Pattern) : Prop :=
  ∀ b e, e ∈ r.run b → b.before.any isWordChar = true → ∀ c ∈ b.rest.head?, isWordChar c = false

theorem needsEdge_of_blankFirst {r : Pattern} (h : r.BlankFirst) : NeedsEdge r := by
  intro b e he _ c hc
  obtain ⟨d, t, htext, hd⟩ := h.exists_cons he
  rw [htext] at hc
  cases hc
  exact isWordChar_of_blank hd

theorem needsEdge_of_check (r : Pattern) : NeedsEdge (.seq (.check (.word .either .word)) r) := by
  intro b e he hbefore c hc
  obtain ⟨b', hb', -⟩ := List.mem_flatMap.mp he
  simp only [run] at hb'
  split at hb'
  · next hedge =>
    have hchars : CharSet.word.holds = isWordChar := rfl
    rw [Assertion.holds, WordEdge.holds, hchars, hbefore, Option.mem_def.mp hc] at hedge
    simpa using hedge
  · simp at hb'

/-- What a pattern for a keyword reads is a directive where the pattern after it goes on. -/
theorem directive_of_readsKeyword {p r : Pattern} (hp : ReadsKeyword p) (hr : NeedsEdge r)
    {t : Text} {b e : Place} (hb : b ∈ p.run (Place.start t)) (he : e ∈ r.run (b.capture 1 0)) :
    ∃ u, (Place.start t).Reads u b ∧ Directive t u := by
  obtain ⟨u, hu, s, hs, hfold⟩ := hp _ _ hb
  have hne := hfold.ne_nil (plainWords_keywords.plain s hs).ne_nil
  have hbefore : (b.capture 1 0).before.any isWordChar = true := by
    obtain ⟨c, hc⟩ := Option.ne_none_iff_exists'.mp (mt List.getLast?_eq_none_iff.mp hne)
    have hlast : (b.capture 1 0).before = u.getLast?.or none := hu.before
    rw [hlast, hc]
    exact hfold.isWordChar (upper_of_mem_keywords s hs) c (List.mem_of_getLast? hc)
  exact ⟨u, hu, .keyword hs hfold hu.rest (hr (b.capture 1 0) e he hbefore)⟩

section Rules

variable {p r : Pattern} {ps : List Pattern} {q : Option Pattern} {more : List Category}
  {transition : Transition}

/-- A rule whose first part reads a directive. -/
theorem DirectiveRule.of_row (hrow : (Pattern.seq (.group 1 p) r).Row 1 (p :: ps))
    (hlength : more.length = ps.length)
    (hdirective : ∀ t b e, b ∈ p.run (Place.start t) → e ∈ r.run (b.capture 1 0) →
      ∃ u, (Place.start t).Reads u b ∧ Directive t u)
    (hmore : Category.keyword ∉ more ∨ (⟨(Pattern.seq (.group 1 p) r).tied, true, q,
      .groups (keyword :: more), transition⟩ : BuiltRule) = fromAsRule) :
    DirectiveRule ⟨(Pattern.seq (.group 1 p) r).tied, true, q, .groups (keyword :: more),
      transition⟩ where
  lineStart := rfl
  row := by
    intro lineStart t m hm
    obtain ⟨u, ws, b, e, hb, hu, he, htakes, htext, hgroups⟩ :=
      hrow.exists_of_first (BuiltRule.fires?_eq_some_iff.mp hm).2.1
    obtain ⟨u', hu', hdirective⟩ := hdirective t b e hb he
    obtain rfl := hu.unique hu'
    have hcategories : (keyword :: more).length = ws.length + 1 := by
      rw [List.length_cons, hlength, htakes.length_eq]
    exact ⟨u, ws, htext, hdirective, hgroups, hcategories⟩
  action := ⟨more, rfl, hmore⟩

/-- A rule for directives that starts with a keyword. -/
theorem DirectiveRule.of_keyword (hrow : (Pattern.seq (.group 1 p) r).Row 1 (p :: ps))
    (hlength : more.length = ps.length) (hreads : ReadsKeyword p) (hedge : NeedsEdge r)
    (hmore : Category.keyword ∉ more) :
    DirectiveRule ⟨(Pattern.seq (.group 1 p) r).tied, true, q, .groups (keyword :: more),
      transition⟩ :=
  .of_row hrow hlength (fun _ _ _ hb he => directive_of_readsKeyword hreads hedge hb he)
    (.inl hmore)

/-- A rule for a directive, blanks and whatever comes in groups after them. -/
theorem DirectiveRule.of_literal {s : String} {qs : List Pattern} (hs : s ∈ keywords)
    (hrow : (Pattern.groupsThen 1 (.literal s :: .blanks :: qs) r).Row 1 (.literal s :: ps))
    (hlength : more.length = ps.length) (hmore : Category.keyword ∉ more) :
    DirectiveRule ⟨(Pattern.groupsThen 1 (.literal s :: .blanks :: qs) r).tied, true, q,
      .groups (keyword :: more), transition⟩ :=
  .of_keyword hrow hlength (readsKeyword_literal hs)
    (needsEdge_of_blankFirst (blankFirst_blanks.groupsThen 2 qs r)) hmore

end Rules

/-- What the first group of the rule for commands reads is a directive. -/
theorem directive_of_shellStart {t : Text} {b e : Place}
    (hb : b ∈ shellDirective.run (Place.start t))
    (he : e ∈ (Pattern.group 2 .blanks).run (b.capture 1 0)) :
    ∃ u, (Place.start t).Reads u b ∧ Directive t u := by
  have hblank := blankFirst_blanks.group 2
  rcases List.mem_append.mp hb with hb | hb
  · obtain ⟨b', hb', hb⟩ := List.mem_flatMap.mp hb
    rcases List.mem_append.mp hb' with hb' | hb'
    · have hplain : Text.Plain "ONBUILD".toList := .ofList (by decide)
      obtain ⟨v, b₁, hv, hfold, -, hb'⟩ := exists_of_mem_wordThen hplain.chars hb'
      obtain ⟨w, hw, hblanks⟩ := exists_of_mem_blanks hb'
      obtain ⟨x, hx, hfold'⟩ := exists_of_mem_word
        (plainWords_keywords.plain _ onbuildDirective_mem_keywords).chars hb
      obtain ⟨c, rest, htext, hc⟩ := hblank.exists_cons he
      have htext : b.rest = c :: rest := htext
      have hwhole : t = v ++ (w ++ (x ++ c :: rest)) := by
        have ht : t = v ++ b₁.rest := hv.rest
        rw [ht, hw.rest, hx.rest, htext]
      refine ⟨v ++ (w ++ x), ?_, .deferred hfold hblanks hfold' hc hwhole⟩
      rw [← List.append_assoc]
      exact (hv.trans hw).trans hx
    · obtain rfl := List.mem_singleton.mp hb'
      exact directive_of_readsKeyword (readsKeyword_literal onbuildDirective_mem_keywords)
        (needsEdge_of_blankFirst hblank) hb he
  · exact directive_of_readsKeyword
      (readsKeyword_words plainWords_immediateDirectives (by decide))
      (needsEdge_of_blankFirst hblank) hb he

theorem directiveRule_shell : DirectiveRule shellRule :=
  .of_row row_shellStart rfl (fun _ _ _ hb he => directive_of_shellStart hb he) (.inl (by decide))

theorem directiveRule_fromAs : DirectiveRule fromAsRule := by
  have hedge : NeedsEdge (.groupsThen 2 [.blanks, .argument, .blanks, .literal "AS", .blanks]
      (.group 7 .argument)) :=
    needsEdge_of_blankFirst (blankFirst_blanks.groupsThen 2 _ _)
  exact .of_row row_fromAs rfl
    (fun _ _ _ hb he => directive_of_readsKeyword (readsKeyword_literal (by decide)) hedge hb he)
    (.inr rfl)

/-- The rules for directives. -/
def directiveTable : List BuiltRule :=
  leadTable ++ fieldDirectives.flatMap fieldTable ++ valueDirectives.flatMap valueTable ++
    [⟨listStart.tied, true, none, .groups [keyword, whitespace], .push commaList⟩,
      anyDirectiveRule]

theorem rootTable_eq :
    rootTable = blankTable ++ (directiveTable ++ [BuiltRule.words, BuiltRule.signs]) := by
  simp [rootTable, directiveTable, lastTable, anyDirectiveRule]

theorem directiveRule_of_mem_fieldTable {entry : String × List String}
    (hs : entry.1 ∈ keywords) : ∀ rule ∈ fieldTable entry, DirectiveRule rule := by
  simp only [fieldTable, List.forall_mem_cons]
  exact ⟨.of_literal hs (row_fieldValue entry) rfl (by decide),
    .of_literal hs (row_fieldOnly entry) rfl (by decide),
    .of_literal hs (row_anyValue entry) rfl (by decide), by simp⟩

theorem directiveRule_of_mem_valueTable {entry : String × List String}
    (hs : entry.1 ∈ keywords) : ∀ rule ∈ valueTable entry, DirectiveRule rule := by
  simp only [valueTable, List.forall_mem_cons]
  exact ⟨.of_literal hs (row_wordValue entry) rfl (by decide),
    .of_literal hs (row_anyValue entry) rfl (by decide), by simp⟩

theorem directiveRule_of_mem : ∀ rule ∈ directiveTable, DirectiveRule rule := by
  simp only [directiveTable, List.forall_mem_append]
  refine ⟨⟨⟨?_, ?_⟩, ?_⟩, ?_⟩
  · simp only [leadTable, List.forall_mem_cons]
    refine ⟨directiveRule_shell, directiveRule_fromAs, ?_, by simp⟩
    exact .of_keyword row_attributeStart rfl (readsKeyword_literal (by decide))
      (needsEdge_of_blankFirst (blankFirst_blanks.group 2)) (by decide)
  · intro rule hrule
    obtain ⟨entry, hentry, hrule⟩ := List.mem_flatMap.mp hrule
    have hkeyword : ∀ entry ∈ fieldDirectives, entry.1 ∈ keywords := by decide
    exact directiveRule_of_mem_fieldTable (hkeyword entry hentry) rule hrule
  · intro rule hrule
    obtain ⟨entry, hentry, hrule⟩ := List.mem_flatMap.mp hrule
    have hkeyword : ∀ entry ∈ valueDirectives, entry.1 ∈ keywords := by decide
    exact directiveRule_of_mem_valueTable (hkeyword entry hentry) rule hrule
  · simp only [List.forall_mem_cons]
    exact ⟨.of_keyword row_listStart rfl
        (readsKeyword_words plainWords_listDirectives (by decide))
        (needsEdge_of_blankFirst (blankFirst_blanks.group 2)) (by decide),
      .of_keyword row_anyDirective rfl (readsKeyword_words plainWords_keywords fun _ hs => hs)
        (needsEdge_of_check _) (by decide), by simp⟩

end Highlighter.Pdfile
