import Highlighter.Proofs.Grammar.PreferredRows
import Highlighter.Proofs.Pdfile.Readings

/-!
# Directives with an argument

`DirectiveLine name w rest` says that a line starts with a directive: `w` is the
directive up to case, and `rest` does not go on with the word.  `ArgumentLine name w b t`
says that it gives the directive an argument: `b` are all the blanks after it, and `t`
starts with the argument.

The rules for a directive with something after it start with the directive and blanks
(`LedBy`).  On the line of a directive those of the others do not fire
(`LedBy.fires?_eq_none`), and those of its own cut the line where it is cut here
(`ArgumentLine.groups_of_find`).  Where none of them fires, the rule for any directive
does, and reads the blanks and the argument if there is one
(`DirectiveLine.firstFiring?_anyDirectiveRule`).
-/

namespace Highlighter.Pdfile

open Category Pattern

/-- A directive up to case, and a rest that does not go on with the word. -/
structure DirectiveLine (name : String) (w rest : Text) : Prop where
  directive : w.EqFold name.toList
  edge : ∀ c ∈ rest.head?, Highlighter.isWordChar c = false

/-- A directive up to case, the blanks after it, and a text that starts with neither a blank nor a
comment. -/
structure ArgumentLine (name : String) (w b t : Text) : Prop where
  directive : w.EqFold name.toList
  blanks : b.Blanks
  solid : ∃ c rest, t = c :: rest ∧ isBlank c = false ∧ c ≠ '#'

variable {name s : String} {w b t rest : Text} {p q r : Pattern} {qs : List Pattern} {m : Match}
  {rule : BuiltRule} {names : List String}

namespace DirectiveLine

theorem isWordChar (h : DirectiveLine name w rest) (hname : name ∈ keywords) :
    ∀ c ∈ w, Highlighter.isWordChar c = true :=
  h.directive.isWordChar (upper_of_mem_keywords name hname)

theorem toDirective (h : DirectiveLine name w rest) (hname : name ∈ keywords) :
    Directive (w ++ rest) w :=
  .keyword hname h.directive rfl h.edge

end DirectiveLine

namespace ArgumentLine

theorem isWordChar (h : ArgumentLine name w b t) (hname : name ∈ keywords) :
    ∀ c ∈ w, isWordChar c = true :=
  h.directive.isWordChar (upper_of_mem_keywords name hname)

theorem head?_blanks (h : ArgumentLine name w b t) (x : Text) :
    ∀ c ∈ (b ++ x).head?, Highlighter.isWordChar c = false := fun c hc =>
  isWordChar_of_blank (h.blanks.head?_append x c hc)

theorem toDirectiveLine (h : ArgumentLine name w b t) : DirectiveLine name w (b ++ t) :=
  ⟨h.directive, h.head?_blanks t⟩

/-- The argument starts with no blank within the line. -/
theorem head?_ne_blank (h : ArgumentLine name w b t) : ∀ c ∈ t.head?, c ≠ ' ' ∧ c ≠ '\t' := by
  obtain ⟨c, rest, rfl, hc, -⟩ := h.solid
  exact Text.ne_blank_of_solid fun d hd => Option.some.inj hd ▸ hc

/-- The body of the rest of the line starts with the argument. -/
theorem body_ne_nil (h : ArgumentLine name w b t) : t.body ≠ [] := by
  obtain ⟨c, rest, rfl, hc, hash⟩ := h.solid
  obtain ⟨u, hu⟩ := Text.exists_body_eq_cons rest hc hash
  rw [hu]
  exact List.cons_ne_nil c u

/-- The line is cut in one way only after its directive and its blanks. -/
theorem cut (h : ArgumentLine name w b t) (hname : name ∈ keywords) {w' b' x : Text}
    (hw' : w'.EqFold name.toList) (hb' : b'.Blanks) (hx : ∀ c ∈ x.head?, c ≠ ' ' ∧ c ≠ '\t')
    (htext : w ++ (b ++ t) = w' ++ (b' ++ x)) : w' = w ∧ b' = b ∧ x = t := by
  obtain ⟨rfl, hmore⟩ := Text.cut_unique htext (h.isWordChar hname)
    (hw'.isWordChar (upper_of_mem_keywords name hname)) (h.head?_blanks t)
    fun c hc => isWordChar_of_blank (hb'.head?_append _ c hc)
  obtain ⟨rfl, rfl⟩ := h.blanks.cut hb' h.head?_ne_blank hx hmore
  exact ⟨rfl, rfl, rfl⟩

end ArgumentLine

/-! ## Rules of other directives -/

/-- Every text that a pattern reads is a word equal to one of some names up to case, or goes on
with a blank after such a word. -/
def Leads (p : Pattern) (names : List String) : Prop :=
  ∀ u, p.Takes u → ∃ s ∈ names, ∃ v x, u = v ++ x ∧ v.EqFold s.toList ∧
    ∀ c ∈ x.head?, c = ' ' ∨ c = '\t'

theorem leads_literal (hs : WordChars s.toList) : Leads (.literal s) [s] := fun u hu =>
  ⟨s, List.mem_singleton_self s, u, [], by simp, hu.literal hs, by simp⟩

theorem leads_shellDirective : Leads shellDirective ("ONBUILD" :: shellDirectives) := by
  have hrun : Text.Plain onbuildDirective.toList := .ofList (by decide)
  have hdeferrer : Text.Plain "ONBUILD".toList := .ofList (by decide)
  intro u hu
  rcases hu.alt with hu | hu
  · obtain ⟨x, y, rfl, hx, hy⟩ := hu.seq
    rcases hx.opt with rfl | hx
    · exact ⟨onbuildDirective, by decide, y, [], by simp, hy.literal hrun.chars, by simp⟩
    · obtain ⟨v, z, rfl, hv, hz⟩ := hx.wordThen hdeferrer.chars
      exact ⟨"ONBUILD", by decide, v, z ++ y, List.append_assoc v z y, hv,
        hz.blanks.head?_append y⟩
  · obtain ⟨s, hs, hfold⟩ := hu.words plainWords_immediateDirectives
    have hshell : ∀ s ∈ immediateDirectives, s ∈ "ONBUILD" :: shellDirectives := by decide
    exact ⟨s, hshell s hs, u, [], by simp, hfold, by simp⟩

/-- A rule reads one of some names and then blanks. -/
def LedBy (names : List String) (rule : BuiltRule) : Prop :=
  ∃ (p q : Pattern) (ps : List Pattern),
    rule.pattern = p.tied ∧ p.Row 1 (q :: .blanks :: ps) ∧ Leads q names

theorem LedBy.mono {more : List String} (h : LedBy names rule) (hsub : names ⊆ more) :
    LedBy more rule := by
  obtain ⟨p, q, ps, hp, hrow, hleads⟩ := h
  refine ⟨p, q, ps, hp, hrow, fun u hu => ?_⟩
  obtain ⟨s, hs, hread⟩ := hleads u hu
  exact ⟨s, hsub hs, hread⟩

/-- A rule does not fire on the line of a directive that is none of its names. -/
theorem LedBy.fires?_eq_none (h : LedBy names rule) (hnames : ∀ s ∈ names, Text.Upper s.toList)
    (hother : name ∉ names) (hname : name ∈ keywords) (hline : DirectiveLine name w rest)
    (lineStart : Bool) : rule.fires? lineStart (w ++ rest) = none := by
  refine Option.eq_none_iff_forall_ne_some.mpr fun m hm => hother ?_
  obtain ⟨p, q, ps, hp, hrow, hleads⟩ := h
  obtain ⟨-, hfind, -⟩ := BuiltRule.fires?_eq_some_iff.mp hm
  rw [hp] at hfind
  obtain ⟨ws, htakes, htext, -⟩ := hrow.exists_of_find hfind
  obtain _ | @⟨_, u, _, _, hu, _ | @⟨_, b', _, ws, hb', -⟩⟩ := htakes
  obtain ⟨s, hs, v, x, rfl, hv, hx⟩ := hleads u hu
  have hafter : ∀ c ∈ (x ++ (b' ++ (ws.flatten ++ m.rest))).head?,
      Highlighter.isWordChar c = false := by
    intro c hc
    cases x with
    | nil => exact isWordChar_of_blank (hb'.blanks.head?_append _ c hc)
    | cons d x => exact isWordChar_of_blank (hx c hc)
  obtain ⟨rfl, -⟩ := Text.cut_unique (by simpa using htext) (hline.isWordChar hname)
    (hv.isWordChar (hnames s hs)) hline.edge hafter
  have hsame := hline.directive.unique hv (upper_of_mem_keywords name hname) (hnames s hs)
  rwa [String.toList_inj.mp hsame]

theorem upper_of_subset (h : names ⊆ "ONBUILD" :: keywords) : ∀ s ∈ names, Text.Upper s.toList :=
  fun s hs => upper_of_mem_words s (h hs)

/-- The names of the directives with rules of their own. -/
def leadNames : List String := "ONBUILD" :: "FROM" :: attributeDirective :: shellDirectives

theorem upper_of_mem_leadNames : ∀ s ∈ leadNames, Text.Upper s.toList :=
  upper_of_subset (by decide)

/-- The rule for the directive with attributes. -/
def attributeRule : BuiltRule :=
  ⟨attributeStart.tied, true, some beforeEquals.tied, .groups [keyword, whitespace],
    .push providerAttributes⟩

/-- The rule for a directive with a list. -/
def listRule : BuiltRule :=
  ⟨listStart.tied, true, none, .groups [keyword, whitespace], .push commaList⟩

theorem leadTable_eq : leadTable = [shellRule, fromAsRule, attributeRule] := rfl

theorem lastTable_eq : lastTable = [listRule, anyDirectiveRule, .words, .signs] := rfl

theorem ledBy_shellRule : LedBy ("ONBUILD" :: shellDirectives) shellRule :=
  ⟨_, _, _, rfl, row_shellStart, leads_shellDirective⟩

theorem ledBy_fromAsRule : LedBy ["FROM"] fromAsRule := by
  have hplain : Text.Plain "FROM".toList := .ofList (by decide)
  exact ⟨_, _, _, rfl, row_fromAs, leads_literal hplain.chars⟩

theorem ledBy_attributeRule : LedBy [attributeDirective] attributeRule := by
  have hplain : Text.Plain attributeDirective.toList := .ofList (by decide)
  exact ⟨_, _, _, rfl, row_attributeStart, leads_literal hplain.chars⟩

theorem ledBy_listRule : LedBy listDirectives listRule := by
  refine ⟨_, _, _, rfl, row_listStart, fun u hu => ?_⟩
  obtain ⟨s, hs, hfold⟩ := hu.words plainWords_listDirectives
  exact ⟨s, hs, u, [], by simp, hfold, by simp⟩

theorem ledBy_of_mem_leadTable : ∀ rule ∈ leadTable, LedBy leadNames rule := by
  rw [leadTable_eq]
  simp only [List.forall_mem_cons]
  exact ⟨ledBy_shellRule.mono (by decide), ledBy_fromAsRule.mono (by decide),
    ledBy_attributeRule.mono (by decide), by simp⟩

section Entries

variable {entry : String × List String}

theorem ledBy_of_mem_fieldTable (hplain : PlainEntry entry) :
    ∀ rule ∈ fieldTable entry, LedBy [entry.1] rule := by
  have hleads := leads_literal hplain.directive.chars
  simp only [fieldTable, List.forall_mem_cons]
  exact ⟨⟨_, _, _, rfl, row_fieldValue entry, hleads⟩, ⟨_, _, _, rfl, row_fieldOnly entry, hleads⟩,
    ⟨_, _, _, rfl, row_anyValue entry, hleads⟩, by simp⟩

theorem ledBy_of_mem_valueTable (hplain : PlainEntry entry) :
    ∀ rule ∈ valueTable entry, LedBy [entry.1] rule := by
  have hleads := leads_literal hplain.directive.chars
  simp only [valueTable, List.forall_mem_cons]
  exact ⟨⟨_, _, _, rfl, row_wordValue entry, hleads⟩, ⟨_, _, _, rfl, row_anyValue entry, hleads⟩,
    by simp⟩

/-- The rules of another directive with fields do not fire. -/
theorem DirectiveLine.fieldTable_silent (h : DirectiveLine name w rest) (hname : name ∈ keywords)
    (hentry : entry ∈ fieldDirectives) (hne : name ≠ entry.1) :
    ∀ rule ∈ fieldTable entry, rule.fires? true (w ++ rest) = none := by
  have hkeyword : ∀ entry ∈ fieldDirectives, entry.1 ∈ keywords := by decide
  intro rule hrule
  refine (ledBy_of_mem_fieldTable (plainEntry_of_mem_fieldDirectives entry hentry) rule
    hrule).fires?_eq_none ?_ (by simpa using hne) hname h _
  simpa using upper_of_mem_keywords _ (hkeyword entry hentry)

/-- The rules of another directive with a closed set of values do not fire. -/
theorem DirectiveLine.valueTable_silent (h : DirectiveLine name w rest) (hname : name ∈ keywords)
    (hentry : entry ∈ valueDirectives) (hne : name ≠ entry.1) :
    ∀ rule ∈ valueTable entry, rule.fires? true (w ++ rest) = none := by
  have hkeyword : ∀ entry ∈ valueDirectives, entry.1 ∈ keywords := by decide
  intro rule hrule
  refine (ledBy_of_mem_valueTable (plainEntry_of_mem_valueDirectives entry hentry) rule
    hrule).fires?_eq_none ?_ (by simpa using hne) hname h _
  simpa using upper_of_mem_keywords _ (hkeyword entry hentry)

end Entries

/-- Where a directive has a rule of its own that fires, the first such is the first of all. -/
theorem DirectiveLine.firstFiring?_of_leadTable (h : DirectiveLine name w rest)
    (hname : name ∈ keywords) {found : BuiltRule × Match}
    (hfound : firstFiring? true (w ++ rest) leadTable = some found) :
    firstFiring? true (w ++ rest) rootTable = some found := by
  have htable : rootTable = blankTable ++ (leadTable ++ (fieldDirectives.flatMap fieldTable ++
      (valueDirectives.flatMap valueTable ++ lastTable))) := by
    simp only [rootTable, List.append_assoc]
  rw [htable, firstFiring?_append, firstFiring?_blankTable_of_directive (h.toDirective hname),
    Option.none_or, firstFiring?_append, hfound, Option.some_or]

/-! ## The rule for any directive -/

/-- The argument of a directive, where it has one: the body of a text that starts with no blank. -/
def argumentOf (t : Text) : Text := if t.head?.any isBlank then [] else t.body

theorem prefersRow_argumentOf {a : Place} (ha : a.rest = t) :
    ∃ e, (opt (.group 3 Pattern.argument)).PrefersRow 3 a [argumentOf t] e := by
  have habsent : (∀ c ∈ t.head?, CharSet.solid.holds c = false) → argumentOf t = [] →
      ∃ e, (opt (.group 3 Pattern.argument)).PrefersRow 3 a [argumentOf t] e := fun hnone hnil => by
    have hrun : Pattern.argument.run a = [] := by
      rw [Pattern.argument, run, run_one_of_not (ha ▸ hnone), List.flatMap_nil]
    rw [hnil]
    exact ⟨a, prefersRow_absent hrun 3⟩
  cases t with
  | nil => exact habsent (by simp) rfl
  | cons c t =>
    by_cases hc : isBlank c = true
    · refine habsent (fun d hd => ?_) (by simp [argumentOf, hc])
      obtain rfl : c = d := Option.some.inj hd
      exact CharSet.solid_of_isBlank hc
    · have hargument : argumentOf (c :: t) = Text.body (c :: t) := by simp [argumentOf, hc]
      by_cases hash : c = '#'
      · subst hash
        refine habsent (fun d hd => ?_) (by rw [hargument, Text.body_cons, if_pos (.inl rfl)])
        obtain rfl : '#' = d := Option.some.inj hd
        rw [CharSet.solid_holds]
        rfl
      · obtain ⟨e, he⟩ := prefers_argument ha (by simpa using hc) hash
        rw [hargument]
        exact ⟨_, he.present groupless_argument 3⟩

/-- The rule for any directive fires at one, and reads the blanks after it and its argument. -/
theorem DirectiveLine.exists_fires_anyDirectiveRule (h : DirectiveLine name w (b ++ t))
    (hname : name ∈ keywords) (hb : ∀ c ∈ b, c = ' ' ∨ c = '\t')
    (ht : ∀ c ∈ t.head?, c ≠ ' ' ∧ c ≠ '\t') :
    ∃ m, anyDirectiveRule.fires? true (w ++ (b ++ t)) = some m ∧
      w ++ (b ++ t) = [w, b, argumentOf t].flatten ++ m.rest ∧
      m.HasGroups 1 0 [w, b, argumentOf t] := by
  obtain ⟨m₀, hm₀⟩ := exists_fires_anyDirective hname h.directive h.edge
  obtain ⟨e₀, he₀, -⟩ := exists_mem_run_of_find (BuiltRule.fires?_eq_some_iff.mp hm₀).2.1
  have hany : (((words keywords).run (Place.start (w ++ (b ++ t)))).flatMap fun x =>
      Pattern.run (.seq (.check (.word .either .word)) (groupsThen 2 [.many true .inlineBlank]
        (opt (.group 3 .argument)))) (x.capture 1 0)) ≠ [] := by
    rw [← List.flatMap_map]
    exact List.ne_nil_of_mem he₀
  -- Among the keywords that the line starts with only the directive ends at the edge of a word.
  obtain ⟨earlier, x, later, hrun, hsilent, hx⟩ := exists_split_of_flatMap_ne_nil hany
  obtain ⟨e, he⟩ := List.exists_mem_of_ne_nil _ hx
  have hend : x ∈ (words keywords).run (Place.start (w ++ (b ++ t))) := by
    rw [hrun]
    exact List.mem_append_right _ (List.mem_cons_self ..)
  obtain ⟨u, hu, hdirective⟩ := directive_of_readsKeyword
    (readsKeyword_words plainWords_keywords fun _ hs => hs) (needsEdge_of_check _) hend he
  obtain rfl := hdirective.unique (h.toDirective hname)
  have hrest : (x.capture 1 0).rest = b ++ t := List.append_cancel_left hu.rest.symm
  have hedge : (Assertion.word .either .word).holds (x.capture 1 0).before
      (x.capture 1 0).rest.head? = true := by
    obtain ⟨y, hy, -⟩ := List.mem_flatMap.mp he
    by_contra hnot
    simp [run, hnot] at hy
  obtain ⟨e₂, hblanks⟩ := prefers_many (s := .inlineBlank)
    (fun c hc => inlineBlank_holds_iff.mpr (hb c hc)) hrest fun c hc =>
      Bool.eq_false_iff.mpr fun hholds =>
        (inlineBlank_holds_iff.mp hholds).elim (ht c hc).1 (ht c hc).2
  have hrest₂ : (e₂.capture 2 (x.capture 1 0).offset).rest = t := hblanks.reads.leaves hrest
  obtain ⟨e₃, hargument⟩ := prefersRow_argumentOf hrest₂
  have hrow := ((hargument.cons hblanks fun _ => rfl).check hedge).cons_of_split
    (groupless_words keywords) hrun hsilent hu
  obtain ⟨m, hm, htext, hgroups⟩ := hrow.exists_find
  have hmem : anyDirectiveRule ∈ rootTable := by simp [rootTable, lastTable_eq]
  exact ⟨m, (form_of_mem_rootTable _ hmem).fires?_alone hm rfl, htext, hgroups⟩

/-- Where no rule of its own fires for a directive, the rule for any directive is the first. -/
theorem DirectiveLine.firstFiring?_anyDirectiveRule (h : DirectiveLine name w rest)
    (hname : name ∈ keywords) (hlead : ∀ rule ∈ leadTable, rule.fires? true (w ++ rest) = none)
    (hfields : ∀ entry ∈ fieldDirectives, ∀ rule ∈ fieldTable entry,
      rule.fires? true (w ++ rest) = none)
    (hvalues : ∀ entry ∈ valueDirectives, ∀ rule ∈ valueTable entry,
      rule.fires? true (w ++ rest) = none)
    (hlist : name ∉ listDirectives)
    (hm : anyDirectiveRule.fires? true (w ++ rest) = some m) :
    firstFiring? true (w ++ rest) rootTable = some (anyDirectiveRule, m) := by
  have hnone : ∀ {members : List (String × List String)} {rules : String × List String →
      List BuiltRule}, (∀ entry ∈ members, ∀ rule ∈ rules entry,
        rule.fires? true (w ++ rest) = none) →
      firstFiring? true (w ++ rest) (members.flatMap rules) = none := fun hall =>
    firstFiring?_of_forall_none fun rule hrule => by
      obtain ⟨entry, hentry, hrule⟩ := List.mem_flatMap.mp hrule
      exact hall entry hentry rule hrule
  have hsilent := ledBy_listRule.fires?_eq_none (upper_of_subset (by decide)) hlist hname h true
  rw [rootTable, firstFiring?_append, firstFiring?_append, firstFiring?_append,
    firstFiring?_append, firstFiring?_blankTable_of_directive (h.toDirective hname),
    firstFiring?_of_forall_none hlead, hnone hfields, hnone hvalues, lastTable_eq, firstFiring?,
    hsilent, firstFiring?, hm]
  rfl

/-! ## Rules of its own -/

/-- The rule for anything after a directive that has fields or a closed set of values. -/
def errorRule (entry : String × List String) : BuiltRule :=
  ⟨(anyValue entry).tied, true, none, .groups [keyword, whitespace, error], .stay⟩

theorem form_errorRule (entry : String × List String) : (errorRule entry).Form :=
  .row (consumes_groupsThen (.inl rfl)) (row_anyValue entry) rfl

/-- A directive and all the blanks after it are read. -/
theorem exists_prefers_blanks (hname : name ∈ keywords) (hw : w.EqFold name.toList)
    (hb : b.Blanks) (ht : ∀ c ∈ t.head?, c ≠ ' ' ∧ c ≠ '\t') :
    ∃ e₁ e₂, (Pattern.literal name).Prefers (Place.start (w ++ (b ++ t))) w e₁ ∧
      Pattern.blanks.Prefers (e₁.capture 1 0) b e₂ ∧ e₂.rest = t := by
  obtain ⟨e₁, hfirst⟩ := prefers_literal (a := Place.start (w ++ (b ++ t)))
    (plainWords_keywords.plain name hname).chars hw rfl
  have hrest : e₁.rest = b ++ t := List.append_cancel_left hfirst.reads.rest.symm
  obtain ⟨e₂, hblanks⟩ := prefers_blanks (a := e₁.capture 1 0) hb hrest ht
  exact ⟨e₁, e₂, hfirst, hblanks, hblanks.reads.leaves hrest⟩

namespace ArgumentLine

/-- The match of a rule for a directive cuts its line after the directive and the blanks. -/
theorem groups_of_find (h : ArgumentLine name w b t) (hname : name ∈ keywords)
    (hrow : p.Row 1 (.literal name :: .blanks :: q :: qs))
    (hq : ∀ x, q.Takes x → x ≠ [] ∧ ∀ c ∈ x.head?, c ≠ ' ' ∧ c ≠ '\t')
    (hm : p.tied.find (w ++ (b ++ t)) = some m) :
    ∃ xs, List.Forall₂ Takes (q :: qs) xs ∧ t = xs.flatten ++ m.rest ∧
      m.HasGroups 1 0 (w :: b :: xs) := by
  obtain ⟨ws, htakes, htext, hgroups⟩ := hrow.exists_of_find hm
  obtain _ | @⟨_, w', _, _, hw', _ | @⟨_, b', _, xs, hb', hxs⟩⟩ := htakes
  have hhead : ∀ c ∈ (xs.flatten ++ m.rest).head?, c ≠ ' ' ∧ c ≠ '\t' := by
    obtain _ | @⟨_, x, _, _, hx, -⟩ := hxs
    obtain ⟨hne, hhead⟩ := hq x hx
    intro c hc
    rw [List.flatten_cons, List.append_assoc, List.head?_append_of_ne_nil x hne] at hc
    exact hhead c hc
  obtain ⟨rfl, rfl, hrest⟩ := h.cut hname (hw'.literal (plainWords_keywords.plain name hname).chars)
    hb'.blanks hhead (by simpa using htext)
  exact ⟨xs, hxs, hrest.symm, hgroups⟩

/-- The directive and the blanks are read up to the argument. -/
theorem exists_prefers (h : ArgumentLine name w b t) (hname : name ∈ keywords) :
    ∃ e₁ e₂, (Pattern.literal name).Prefers (Place.start (w ++ (b ++ t))) w e₁ ∧
      Pattern.blanks.Prefers (e₁.capture 1 0) b e₂ ∧ e₂.rest = t :=
  exists_prefers_blanks hname h.directive h.blanks h.head?_ne_blank

/-- A pattern that prefers to read `x` where the argument starts, after the directive and the
blanks. -/
theorem exists_find (h : ArgumentLine name w b t) (hname : name ∈ keywords) {x : Text}
    (hr : ∀ a : Place, a.rest = t → ∃ e, r.Prefers a x e) :
    ∃ m, (groupsThen 1 [.literal name, .blanks] r).tied.find (w ++ (b ++ t)) = some m ∧
      t = x ++ m.rest := by
  obtain ⟨e₁, e₂, hw, hb, hrest⟩ := h.exists_prefers hname
  obtain ⟨e₃, hx⟩ := hr (e₂.capture 2 (e₁.capture 1 0).offset) hrest
  obtain ⟨m, hm, htext⟩ := ((hw.group 1).seq ((hb.group 2).seq hx)).exists_find
  refine ⟨m, hm, ?_⟩
  simpa using htext

/-- A row that prefers to read some texts where the argument starts, after the directive and the
blanks. -/
theorem exists_find_row (h : ArgumentLine name w b t) (hname : name ∈ keywords) {ws : List Text}
    (hr : ∀ a : Place, a.rest = t → ∃ e, r.PrefersRow 3 a ws e) :
    ∃ m, (groupsThen 1 [.literal name, .blanks] r).tied.find (w ++ (b ++ t)) = some m ∧
      t = ws.flatten ++ m.rest ∧ m.HasGroups 1 0 (w :: b :: ws) := by
  obtain ⟨e₁, e₂, hw, hb, hrest⟩ := h.exists_prefers hname
  obtain ⟨e₃, hx⟩ := hr (e₂.capture 2 (e₁.capture 1 0).offset) hrest
  obtain ⟨m, hm, htext, hgroups⟩ :=
    ((hx.cons hb groupless_blanks).cons hw (groupless_literal name)).exists_find
  exact ⟨m, hm, by simpa using htext, hgroups⟩

/-- The rule for anything after a directive fires and reads the body. -/
theorem exists_fires_errorRule {entry : String × List String} (h : ArgumentLine entry.1 w b t)
    (hname : entry.1 ∈ keywords) :
    ∃ m, (errorRule entry).fires? true (w ++ (b ++ t)) = some m ∧
      t = t.body ++ m.rest ∧ m.HasGroups 1 0 [w, b, t.body] := by
  obtain ⟨c, rest, ht, hc, hash⟩ := h.solid
  have hprefers : ∀ a : Place, a.rest = t →
      ∃ e, (Pattern.group 3 Pattern.argument).PrefersRow 3 a [t.body] e := fun a ha => by
    obtain ⟨e, he⟩ := prefers_argument (ha.trans ht) hc hash
    rw [← ht] at he
    exact ⟨_, he.last groupless_argument 3⟩
  obtain ⟨m, hm, hrest, hgroups⟩ := h.exists_find_row hname hprefers
  exact ⟨m, (form_errorRule entry).fires?_alone hm rfl, by simpa using hrest, hgroups⟩

/-- The rules of other directives do not fire. -/
theorem firstFiring?_others (h : ArgumentLine name w b t) (hname : name ∈ keywords)
    (hlead : name ∉ leadNames) (hfield : ∀ entry ∈ fieldDirectives, entry.1 ≠ name) :
    firstFiring? true (w ++ (b ++ t))
      (blankTable ++ (leadTable ++ fieldDirectives.flatMap fieldTable)) = none := by
  rw [firstFiring?_append,
    firstFiring?_blankTable_of_directive (h.toDirectiveLine.toDirective hname), Option.none_or]
  refine firstFiring?_of_forall_none (List.forall_mem_append.mpr ⟨fun rule hrule => ?_, ?_⟩)
  · exact (ledBy_of_mem_leadTable rule hrule).fires?_eq_none upper_of_mem_leadNames hlead hname
      h.toDirectiveLine _
  · intro rule hrule
    obtain ⟨entry, hentry, hrule⟩ := List.mem_flatMap.mp hrule
    exact h.toDirectiveLine.fieldTable_silent hname hentry (hfield entry hentry).symm rule hrule

/-- Where a directive has only the rule for any directive, this is the first to fire, and it reads
the body. -/
theorem exists_firstFiring?_anyDirectiveRule (h : ArgumentLine name w b t) (hname : name ∈ keywords)
    (hlead : ∀ rule ∈ leadTable, rule.fires? true (w ++ (b ++ t)) = none)
    (hfield : ∀ entry ∈ fieldDirectives, name ≠ entry.1)
    (hvalue : ∀ entry ∈ valueDirectives, name ≠ entry.1) (hlist : name ∉ listDirectives) :
    ∃ m, firstFiring? true (w ++ (b ++ t)) rootTable = some (anyDirectiveRule, m) ∧
      t = [t.body].flatten ++ m.rest ∧ m.HasGroups 1 0 [w, b, t.body] := by
  have hline := h.toDirectiveLine
  obtain ⟨m, hm, htext, hgroups⟩ := hline.exists_fires_anyDirectiveRule hname
    h.blanks.blank h.head?_ne_blank
  have hargument : argumentOf t = t.body := by
    obtain ⟨c, rest, rfl, hc, -⟩ := h.solid
    simp [argumentOf, hc]
  rw [hargument] at htext hgroups
  refine ⟨m, hline.firstFiring?_anyDirectiveRule hname hlead
    (fun entry hentry => hline.fieldTable_silent hname hentry (hfield entry hentry))
    (fun entry hentry => hline.valueTable_silent hname hentry (hvalue entry hentry))
    hlist hm, ?_, hgroups⟩
  simpa using htext

/-- Where the rules for a directive with a closed set of values have one that fires, it is the first
of all. -/
theorem firstFiring?_of_valueTable {entry : String × List String}
    (h : ArgumentLine entry.1 w b t) (hentry : entry ∈ valueDirectives)
    {found : BuiltRule × Match}
    (hfound : firstFiring? true (w ++ (b ++ t)) (valueTable entry) = some found) :
    firstFiring? true (w ++ (b ++ t)) rootTable = some found := by
  have hkeyword : ∀ entry ∈ valueDirectives, entry.1 ∈ keywords := by decide
  have hlead : ∀ entry ∈ valueDirectives, entry.1 ∉ leadNames := by decide
  have hfield : ∀ entry ∈ valueDirectives, ∀ other ∈ fieldDirectives, other.1 ≠ entry.1 := by
    decide
  have hvalue : ∀ entry ∈ valueDirectives, ∀ other ∈ valueDirectives, other ≠ entry →
      entry.1 ≠ other.1 := by decide
  have hname := hkeyword entry hentry
  have hvalues : firstFiring? true (w ++ (b ++ t)) (valueDirectives.flatMap valueTable) =
      some found :=
    firstFiring?_flatMap hfound hentry fun other hother hne =>
      h.toDirectiveLine.valueTable_silent hname hother (hvalue entry hentry other hother hne)
  have hothers := h.firstFiring?_others hname (hlead entry hentry) (hfield entry hentry)
  have htable : rootTable = (blankTable ++ (leadTable ++ fieldDirectives.flatMap fieldTable)) ++
      (valueDirectives.flatMap valueTable ++ lastTable) := by
    simp only [rootTable, List.append_assoc]
  rw [htable, firstFiring?_append, hothers, Option.none_or, firstFiring?_append, hvalues,
    Option.some_or]

end ArgumentLine

/-! ## Tokens of a line -/

/-- At the line of a directive with an argument, the first rule to fire reads the directive, the
blanks, and each text it cuts the argument into. -/
theorem ArgumentLine.exists_readsLine {source before : Text} {ws : List Text}
    {categories : List Category} (h : ArgumentLine name w b t) (hname : name ∈ keywords)
    (hplace : LineAt source before (w ++ (b ++ t)))
    (hfire : firstFiring? true (w ++ (b ++ t)) rootTable = some (rule, m))
    (haction : rule.action = .groups (keyword :: whitespace :: categories))
    (hlength : categories.length = ws.length) (htext : t = ws.flatten ++ m.rest)
    (hgroups : m.HasGroups 1 0 (w :: b :: ws)) :
    ∃ lx, ReadsLine source before
        ((keyword, w) :: (whitespace, b) :: (categories.zip ws).filter (·.2 ≠ [])) lx ∧
      lx.rest = m.rest ∧ lx.stack = Stack.apply ⟨root, []⟩ rule.transition := by
  have hw : w ≠ [] := h.directive.ne_nil (plainWords_keywords.plain name hname).ne_nil
  have hline : w ++ (b ++ t) = (w :: b :: ws).flatten ++ m.rest := by
    rw [htext]
    simp
  obtain ⟨lx, hreads, hrest⟩ := hplace.exists_readsLine hfire haction (by simp [hlength]) hline
    hgroups
  rw [List.zip_cons_cons, List.zip_cons_cons, List.filter_cons_of_pos (by simpa using hw),
    List.filter_cons_of_pos (by simpa using h.blanks.ne_nil)] at hreads
  exact ⟨lx, hreads, hrest⟩

end Highlighter.Pdfile
