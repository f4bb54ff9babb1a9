import Highlighter.Proofs.Pdfile.ClosedValues

/-!
# What follows a directive with a closed set of values

Behind such a directive its line has flags, which are blanks, comments, constants and
errors, and nothing else, exactly if its content is led by spaces and tabs (`Led`,
`value_line_flagged`).

Both rules for such a directive need a space or a tab after it, and an argument after
that.  If the line has these, one of the two rules reads its body.  If it does not, the
rule for any directive is the first to fire (`exists_readsLine_of_silent`), and what it
reads as argument is a string.  It reads no argument that starts with another blank, such
as a no-break space, and then the first word or sign after the blanks is plain text.  So
a value that is glued to the directive, or set off from it by another blank, is not
flagged (`exists_unflagged_value`).
-/

namespace Highlighter.Pdfile

open Category Pattern

/-! ## Lines with content -/

/-- The categories that flag a value, and those of what may stand around it. -/
def flags : List Category := [whitespace, comment, constant, error]

/-- What follows a directive has no body, or spaces and tabs lead to it. -/
def Led (rest : Text) : Prop :=
  rest.body ≠ [] → ∃ b t : Text, rest = b ++ t ∧ b.Blanks ∧ ∀ c ∈ t.head?, isBlank c = false

/-- A token starts behind the start of a directive and before the end of its line. -/
def Behind (before w rest : Text) (tk : Token) : Prop :=
  before.size < tk.start ∧
    tk.start < before.size + w.size + Text.size (rest.takeWhile (· != '\n'))

section Lines

variable {name : String} {source before w rest : Text}

/-- A keyword that is no second word of an origin is a directive at the start of a line. -/
theorem lineAt_of_keyword (hsource : source = before ++ (w ++ rest)) (hname : name ∈ keywords)
    (hw : w.EqFold name.toList)
    (htoken : Token.at .keyword before.size w ∈ tokenize Language.pdfile.grammar source) :
    LineAt source before (w ++ rest) ∧ DirectiveLine name w rest := by
  obtain ⟨end_, hscans, -⟩ := scans_tokenize Language.pdfile.grammar source
  obtain ⟨tokens, lx, hscan, hrest, hmem⟩ := hscans.exists_step_of_mem _ htoken
  have hreaches : Reaches source lx := ⟨tokens, hscan⟩
  rw [grammar_eq] at hmem
  cases hreaches.keywordStep hrest with
  | other _ hnone => exact absurd rfl (hnone _ hmem)
  | directive hstack hline htokens =>
    obtain ⟨u, others, hu, hfound, hothers⟩ := htokens
    obtain ⟨before', hplace, hcursor⟩ := LineAt.of_reaches hreaches hstack hline hu
    rw [hfound] at hmem
    rcases List.mem_cons.mp hmem with hfirst | hmem
    · have hsize : before'.size = before.size := by
        rw [← hcursor]
        exact (congrArg Token.start hfirst).symm
      obtain rfl : w = u := congrArg Token.text hfirst
      obtain ⟨rfl, hrest'⟩ := Text.append_inj_of_size_eq (hplace.text.symm.trans hsource) hsize
      rw [hrest'] at hplace hu
      refine ⟨hplace, hw, ?_⟩
      generalize ht : w ++ rest = t at hu
      cases hu with
      | keyword _ _ ht' hedge =>
        obtain rfl := List.append_cancel_left (ht.trans ht')
        exact hedge
      | deferred _ hb _ _ _ =>
        -- A directive has no blank in it.
        obtain ⟨c, b, rfl⟩ := List.exists_cons_of_ne_nil hb.ne_nil
        have hword := hw.isWordChar (upper_of_mem_keywords name hname) c (by simp)
        rw [isWordChar_of_blank (hb.blank c (by simp))] at hword
        cases hword
    · obtain ⟨lead, w', hnaming, htk⟩ := hothers _ hmem rfl
      obtain rfl : w = w' := congrArg Token.text htk
      cases hnaming with
      | intro _ _ _ _ has _ _ _ =>
        have hupper : Text.Upper "AS".toList := .ofList (by decide)
        have heq := hw.unique has (upper_of_mem_keywords name hname) hupper
        obtain rfl : name = "AS" := String.toList_inj.mp heq
        exact absurd hname (by decide)

/-- Where the content of a line is led by spaces and tabs, it is the argument of the directive. -/
theorem Led.exists_argumentLine (h : Led rest) (hbody : rest.body ≠ [])
    (hw : w.EqFold name.toList) : ∃ b t, rest = b ++ t ∧ ArgumentLine name w b t := by
  obtain ⟨b, t, rfl, hb, ht⟩ := h hbody
  refine ⟨b, t, rfl, hw, hb, ?_⟩
  have htbody : t.body ≠ [] := fun hnil => hbody (Text.body_blanks_append hb.isBlank hnil)
  cases t with
  | nil => exact absurd rfl htbody
  | cons c t =>
    refine ⟨c, t, rfl, ht c rfl, ?_⟩
    rintro rfl
    exact htbody (by rw [Text.body_cons, if_pos (.inl rfl)])

/-- The argument of a directive is led by spaces and tabs. -/
theorem ArgumentLine.led {b t : Text} (h : ArgumentLine name w b t) : Led (b ++ t) := fun _ =>
  ⟨b, t, rfl, h.blanks, by
    obtain ⟨c, rest, rfl, hc, -⟩ := h.solid
    exact fun d hd => Option.some.inj hd ▸ hc⟩

end Lines

/-! ## What is read of the line -/

section Readings

variable {entry : String × List String} {source before w b gap t rest : Text} {rule : BuiltRule}
  {m : Match} {p q : Pattern}

/-- Where a rule for a directive, blanks and something solid has a match, the line has an
argument. -/
theorem exists_argumentLine_of_find {name : String} (hname : name ∈ keywords)
    (hline : DirectiveLine name w rest) (hrow : p.Row 1 [.literal name, .blanks, q])
    (hq : ∀ x, q.Takes x → ∃ c u, x = c :: u ∧ isBlank c = false ∧ c ≠ '#')
    (hm : p.tied.find (w ++ rest) = some m) :
    ∃ b t, rest = b ++ t ∧ ArgumentLine name w b t := by
  obtain ⟨ws, htakes, htext, -⟩ := hrow.exists_of_find hm
  obtain _ | @⟨_, w', _, _, hw', _ | @⟨_, b, _, _, hb, _ | @⟨_, x, _, _, hx, _ | _⟩⟩⟩ := htakes
  obtain ⟨c, u, rfl, hc, hash⟩ := hq x hx
  have hfold := hw'.literal (plainWords_keywords.plain name hname).chars
  have htext : w ++ rest = w' ++ (b ++ (c :: u ++ m.rest)) := by simpa using htext
  obtain ⟨-, hrest⟩ := Text.cut_unique htext (hline.isWordChar hname)
    (hfold.isWordChar (upper_of_mem_keywords name hname)) hline.edge fun d hd =>
      isWordChar_of_blank (hb.blanks.head?_append _ d hd)
  exact ⟨b, _, hrest, hline.directive, hb.blanks, c, _, rfl, hc, hash⟩

/-- Where a rule for the values of a directive, or for anything after it, fires, the line has an
argument. -/
theorem exists_argumentLine_of_fires (hentry : entry ∈ valueDirectives)
    (hline : DirectiveLine entry.1 w rest) (hrule : rule ∈ valueTable entry)
    (hm : rule.fires? true (w ++ rest) = some m) :
    ∃ b t, rest = b ++ t ∧ ArgumentLine entry.1 w b t := by
  have hname := name_mem_keywords entry hentry
  have hwords := (plainEntry_of_mem_valueDirectives entry hentry).words
  have hfind := (BuiltRule.fires?_eq_some_iff.mp hm).2.1
  simp only [valueTable_eq, List.mem_cons, List.not_mem_nil, or_false] at hrule
  rcases hrule with rfl | rfl
  · refine exists_argumentLine_of_find hname hline (row_wordValue entry) (fun x hx => ?_) hfind
    obtain ⟨s, hs, hfold⟩ := hx.words hwords
    have hplain := hwords.plain s hs
    obtain ⟨c, u, rfl⟩ := List.exists_cons_of_ne_nil (hfold.ne_nil hplain.ne_nil)
    obtain ⟨hc, hash⟩ := hfold.solid hplain c (List.mem_cons_self ..)
    exact ⟨c, u, rfl, hc, hash⟩
  · exact exists_argumentLine_of_find hname hline (row_anyValue entry)
      (fun x hx => hx.exists_cons_of_argument) hfind

/-- Where the line has an argument, a value or an error is read. -/
theorem exists_readsLine_value (hentry : entry ∈ valueDirectives)
    (hplace : LineAt source before (w ++ (b ++ t))) (hline : ArgumentLine entry.1 w b t) :
    ∃ category ∈ [constant, error], ∃ lx,
      ReadsLine source before [(keyword, w), (whitespace, b), (category, t.body)] lx ∧
      t = t.body ++ lx.rest ∧ lx.stack = ⟨root, []⟩ := by
  cases hvalue : (valueRule entry).fires? true (w ++ (b ++ t)) with
  | some m =>
    obtain ⟨-, htext, hgroups⟩ := closedValue_of_fires hentry hline hvalue
    have hfire : firstFiring? true (w ++ (b ++ t)) (valueTable entry) =
        some (valueRule entry, m) := by
      rw [valueTable_eq, firstFiring?, hvalue]
    obtain ⟨lx, hreads, hrest, hstack⟩ :=
      exists_readsLine_of_firing hentry hplace hline hfire rfl htext hgroups
    exact ⟨constant, by simp, lx, hreads, hrest ▸ htext, hstack⟩
  | none =>
    obtain ⟨m, hm, htext, hgroups⟩ := exists_fires_errorRule hentry hline
    have hfire : firstFiring? true (w ++ (b ++ t)) (valueTable entry) =
        some (errorRule entry, m) := by
      rw [valueTable_eq, firstFiring?, hvalue, firstFiring?, hm]
    obtain ⟨lx, hreads, hrest, hstack⟩ :=
      exists_readsLine_of_firing hentry hplace hline hfire rfl htext hgroups
    exact ⟨error, by simp, lx, hreads, hrest ▸ htext, hstack⟩

/-- Where neither rule of the directive fires, the rule for any directive reads the blanks and the
argument. -/
theorem exists_readsLine_of_silent (hentry : entry ∈ valueDirectives)
    (hplace : LineAt source before (w ++ (gap ++ t)))
    (hline : DirectiveLine entry.1 w (gap ++ t)) (hgap : ∀ c ∈ gap, c = ' ' ∨ c = '\t')
    (ht : ∀ c ∈ t.head?, c ≠ ' ' ∧ c ≠ '\t')
    (hsilent : ∀ rule ∈ valueTable entry, rule.fires? true (w ++ (gap ++ t)) = none) :
    ∃ lx, ReadsLine source before ((keyword, w) ::
        ([whitespace, string].zip [gap, argumentOf t]).filter (·.2 ≠ [])) lx ∧
      t = argumentOf t ++ lx.rest ∧ lx.stack = ⟨root, []⟩ := by
  have hname := name_mem_keywords entry hentry
  have hlead : ∀ entry ∈ valueDirectives, entry.1 ∉ leadNames := by decide
  have hfield : ∀ entry ∈ valueDirectives, ∀ other ∈ fieldDirectives, entry.1 ≠ other.1 := by
    decide
  have hvalue : ∀ entry ∈ valueDirectives, ∀ other ∈ valueDirectives, other ≠ entry →
      entry.1 ≠ other.1 := by decide
  have hlist : ∀ entry ∈ valueDirectives, entry.1 ∉ listDirectives := by decide
  obtain ⟨m, hm, htext, hgroups⟩ := hline.exists_fires_anyDirectiveRule hname hgap ht
  have hfire := hline.firstFiring?_anyDirectiveRule hname
    (fun rule hrule => (ledBy_of_mem_leadTable rule hrule).fires?_eq_none upper_of_mem_leadNames
      (hlead entry hentry) hname hline true)
    (fun other hother =>
      hline.fieldTable_silent hname hother (hfield entry hentry other hother))
    (fun other hother => by
      by_cases hsame : other = entry
      · exact hsame ▸ hsilent
      · exact hline.valueTable_silent hname hother (hvalue entry hentry other hother hsame))
    (hlist entry hentry) hm
  obtain ⟨lx, hreads, hrest, hstack⟩ := hplace.exists_readsLine hfire rfl rfl htext hgroups
  have hw : w ≠ [] := hline.directive.ne_nil (plainWords_keywords.plain _ hname).ne_nil
  rw [List.zip_cons_cons, List.filter_cons_of_pos (by simpa using hw)] at hreads
  exact ⟨lx, hreads, by rw [hrest]; simpa using htext, hstack⟩

end Readings

/-! ## The tokens behind the directive -/

section Tokens

variable {entry : String × List String} {source before w rest : Text}

/-- If the texts that are read behind the directive are flags, and no body is left, the tokens
behind the directive are flags. -/
theorem flagged_of_row {row : List (Category × Text)} {lx : Lexer}
    (hsource : source = before ++ (w ++ rest))
    (hreads : ReadsLine source before ((keyword, w) :: row) lx) (hstack : lx.stack = ⟨root, []⟩)
    (hrow : ∀ x ∈ row, x.1 ∈ flags) (hline : '\n' ∉ rowText row) (hbody : lx.rest.body = []) :
    ∀ tk ∈ tokenize Language.pdfile.grammar source, Behind before w rest tk →
      tk.category ∈ flags := by
  intro tk htk ⟨hafter, hbefore⟩
  obtain ⟨lead, htokens, hlead⟩ := hreads.exists_tokenize_eq
  have hrest : rest = rowText row ++ lx.rest := by
    simpa [rowText] using hsource.symm.trans hreads.text
  rw [htokens] at htk
  rcases List.mem_append.mp htk with htk | htk
  · have := hlead.bounds tk htk
    omega
  rcases List.mem_append.mp htk with htk | htk
  · rw [Token.row] at htk
    rcases List.mem_cons.mp htk with rfl | htk
    · exact absurd hafter (lt_irrefl _)
    · obtain ⟨x, hx, hcategory⟩ := Token.category_of_mem_row tk htk
      rw [hcategory]
      exact hrow x hx
  · have hwithin : ∀ c ∈ rowText row, (c != '\n') = true := fun c hc =>
      bne_iff_ne.mpr fun heq => hline (heq ▸ hc)
    have hcursor : lx.cursor = before.size + (w.size + (rowText row).size) := by
      rw [hreads.cursor, rowText_cons, Text.size_append]
    rw [hrest, List.takeWhile_append_of_pos hwithin, Text.size_append] at hbefore
    rcases category_of_body_nil hreads.idle hstack hbody tk htk (by omega) with h | h <;>
      rw [h] <;> decide

/-- What stands in a line behind a text of it stands behind its directive. -/
theorem behind_of_cut {x y : Text} {d : Char} {tk : Token} (hw : w ≠ [])
    (hrest : rest = x ++ d :: y) (hline : '\n' ∉ x) (hd : d ≠ '\n')
    (hstart : tk.start = before.size + Text.size (w ++ x)) : Behind before w rest tk := by
  have hwithin : ∀ c ∈ x, (c != '\n') = true := fun c hc =>
    bne_iff_ne.mpr fun heq => hline (heq ▸ hc)
  have hpos := Text.size_pos hw
  have hdpos := Text.size_pos (List.cons_ne_nil d (y.takeWhile (· != '\n')))
  rw [Text.size_append] at hstart
  refine ⟨by omega, ?_⟩
  rw [hrest, List.takeWhile_append_of_pos hwithin, List.takeWhile_cons_of_pos (by simpa using hd),
    Text.size_append]
  omega

/-- Where neither rule of the directive fires, content is a string or plain text. -/
theorem exists_unflagged (hentry : entry ∈ valueDirectives)
    (hplace : LineAt source before (w ++ rest)) (hline : DirectiveLine entry.1 w rest)
    (hsilent : ∀ rule ∈ valueTable entry, rule.fires? true (w ++ rest) = none)
    (hbody : rest.body ≠ []) :
    ∃ tk ∈ tokenize Language.pdfile.grammar source, Behind before w rest tk ∧
      (tk.category = string ∨ tk.category = text) := by
  have hname := name_mem_keywords entry hentry
  have hw : w ≠ [] := hline.directive.ne_nil (plainWords_keywords.plain _ hname).ne_nil
  obtain ⟨gap, t, rfl, hgap, ht⟩ := Text.exists_blanks_append rest
  have hgapLine : '\n' ∉ gap := fun hmem => absurd (hgap _ hmem) (by decide)
  have htbody : t.body ≠ [] := fun hnil =>
    hbody (Text.body_blanks_append (fun c hc => isBlank_of_blank (hgap c hc)) hnil)
  obtain ⟨lx, hreads, htext, hstack⟩ :=
    exists_readsLine_of_silent hentry hplace hline hgap ht hsilent
  obtain ⟨c, y, rfl⟩ := List.exists_cons_of_ne_nil fun hnil : t = [] => htbody (by rw [hnil]; rfl)
  have hgapText : rowText ((keyword, w) :: [(whitespace, gap)].filter (·.2 ≠ [])) = w ++ gap := by
    rw [rowText_cons, rowText_filter]
    simp [rowText]
  cases hc : isBlank c with
  | false =>
    -- The argument is a string.
    have hrow : ([whitespace, string].zip [gap, argumentOf (c :: y)]).filter (·.2 ≠ []) =
        [(whitespace, gap)].filter (·.2 ≠ []) ++ [(string, Text.body (c :: y))] := by
      by_cases hnil : gap = [] <;> simp [argumentOf, hc, htbody, hnil]
    rw [hrow, ← List.cons_append] at hreads
    obtain ⟨tk, htk, hcategory, hstart⟩ := hreads.exists_last
    have hnewline : c ≠ '\n' := by
      rintro rfl
      cases hc
    rw [hgapText] at hstart
    exact ⟨tk, htk, behind_of_cut hw rfl hgapLine hnewline hstart, .inl hcategory⟩
  | true =>
    -- There is no argument, and a word or a sign behind the blanks is plain text.
    have hargument : argumentOf (c :: y) = [] := by simp [argumentOf, hc]
    have hrow : ([whitespace, string].zip [gap, argumentOf (c :: y)]).filter (·.2 ≠ []) =
        [(whitespace, gap)].filter (·.2 ≠ []) := by
      by_cases hnil : gap = [] <;> simp [hargument, hnil]
    rw [hrow] at hreads
    rw [hargument, List.nil_append] at htext
    have hword : '\n' ∉ w := fun hmem => absurd (hline.isWordChar hname _ hmem) (by decide)
    obtain ⟨u, d, x, v, lx', hrest, huline, hd, hplain⟩ := hreads.exists_text hstack
      (by rw [hgapText]; simp [hw])
      (by rw [hgapText, List.mem_append, not_or]; exact ⟨hword, hgapLine⟩) htext.symm hc
      (htext ▸ htbody)
    obtain ⟨tk, htk, hcategory, hstart⟩ := hplain.exists_last
    rw [rowText_append, hgapText] at hstart
    refine ⟨tk, htk, behind_of_cut (x := gap ++ u) (y := x) hw ?_ ?_ hd ?_, .inr hcategory⟩
    · rw [htext, hrest, List.append_assoc]
    · rw [List.mem_append, not_or]
      exact ⟨hgapLine, huline⟩
    · rw [hstart]
      simp [rowText]

/-- Where the content of the line is led by spaces and tabs, the tokens behind the directive are
flags. -/
theorem flagged_of_argument {b t : Text} (hentry : entry ∈ valueDirectives)
    (hplace : LineAt source before (w ++ (b ++ t))) (hline : ArgumentLine entry.1 w b t) :
    ∀ tk ∈ tokenize Language.pdfile.grammar source, Behind before w (b ++ t) tk →
      tk.category ∈ flags := by
  obtain ⟨category, hcategory, lx, hreads, htext, hstack⟩ :=
    exists_readsLine_value hentry hplace hline
  obtain ⟨x, ht, hx⟩ := Text.exists_eq_body_append t
  have hrest : lx.rest = x := List.append_cancel_left (htext.symm.trans ht)
  have hflags : category ∈ flags := by
    have hsub : ∀ category ∈ [constant, error], category ∈ flags := by decide
    exact hsub category hcategory
  refine flagged_of_row hplace.text hreads hstack ?_ ?_ (hrest ▸ hx)
  · simp only [List.forall_mem_cons]
    exact ⟨by decide, hflags, by simp⟩
  · have hb : '\n' ∉ b := fun hmem => absurd (hline.blanks.blank _ hmem) (by decide)
    simpa [rowText, hb] using (Text.trimmed_body t).newline

/-- Where the line has no content, the tokens behind the directive are flags. -/
theorem flagged_of_body_nil (hentry : entry ∈ valueDirectives)
    (hplace : LineAt source before (w ++ rest)) (hline : DirectiveLine entry.1 w rest)
    (hsilent : ∀ rule ∈ valueTable entry, rule.fires? true (w ++ rest) = none)
    (hbody : rest.body = []) :
    ∀ tk ∈ tokenize Language.pdfile.grammar source, Behind before w rest tk →
      tk.category ∈ flags := by
  obtain ⟨gap, t, rfl, hgap, ht⟩ := Text.exists_blanks_append rest
  obtain ⟨lx, hreads, htext, hstack⟩ :=
    exists_readsLine_of_silent hentry hplace hline hgap ht hsilent
  have hgapLine : '\n' ∉ gap := fun hmem => absurd (hgap _ hmem) (by decide)
  have htbody :=
    Text.body_eq_nil_of_append (fun c hc => isBlank_of_blank (hgap c hc)) hgapLine hbody
  have hargument : argumentOf t = [] := by
    rw [argumentOf, htbody, ite_self]
  rw [hargument] at hreads htext
  rw [List.nil_append] at htext
  refine flagged_of_row hplace.text hreads hstack (fun x hx => ?_) ?_ (htext ▸ htbody)
  · have hmem : x ∈ [(whitespace, gap)] := by
      by_cases hnil : gap = []
      · simp [hnil] at hx
      · simpa [hnil] using hx
    rw [List.mem_singleton.mp hmem]
    exact (by decide : whitespace ∈ flags)
  · rw [rowText_filter]
    simpa [rowText] using hgapLine

/-- Behind a directive with a closed set of values the tokens of the line are blanks, a comment, a
constant or an error if spaces and tabs lead to its content.  Otherwise one of them is a string or
plain text. -/
theorem value_line_flagged (hsource : source = before ++ (w ++ rest))
    (hentry : entry ∈ valueDirectives) (hw : w.EqFold entry.1.toList)
    (htoken : Token.at .keyword before.size w ∈ tokenize Language.pdfile.grammar source) :
    (Led rest → ∀ tk ∈ tokenize Language.pdfile.grammar source, Behind before w rest tk →
      tk.category ∈ flags) ∧
    (¬ Led rest → ∃ tk ∈ tokenize Language.pdfile.grammar source, Behind before w rest tk ∧
      (tk.category = .string ∨ tk.category = .text)) := by
  have hname := name_mem_keywords entry hentry
  obtain ⟨hplace, hline⟩ := lineAt_of_keyword hsource hname hw htoken
  by_cases hargument : ∃ b t, rest = b ++ t ∧ ArgumentLine entry.1 w b t
  · obtain ⟨b, t, rfl, hargument⟩ := hargument
    exact ⟨fun _ => flagged_of_argument hentry hplace hargument,
      fun hunled => absurd hargument.led hunled⟩
  · have hsilent : ∀ rule ∈ valueTable entry, rule.fires? true (w ++ rest) = none :=
      fun rule hrule => Option.eq_none_iff_forall_ne_some.mpr fun m hm =>
        hargument (exists_argumentLine_of_fires hentry hline hrule hm)
    by_cases hbody : rest.body = []
    · exact ⟨fun _ => flagged_of_body_nil hentry hplace hline hsilent hbody,
        fun hunled => absurd (fun h => absurd hbody h) hunled⟩
    · exact ⟨fun hled => absurd (hled.exists_argumentLine hbody hw) hargument,
        fun _ => exists_unflagged hentry hplace hline hsilent hbody⟩

end Tokens

/-- Blanks and a comment behind a directive, and a value behind a no-break space. -/
theorem value_line_flagged_force :
    let entry : String × List String := ("FORCE", booleans)
    let w : Text := ['f', 'o', 'r', 'c', 'e']
    let closed : Text := ['\t', 'n', 'o', '#']
    let unled : Text := ['\u00a0', 'n', 'o']
    entry ∈ valueDirectives ∧ Led closed ∧ ¬ Led unled ∧
      (∀ tk ∈ tokenize Language.pdfile.grammar (w ++ closed), Behind [] w closed tk →
        tk.category ∈ flags) ∧
      ∃ tk ∈ tokenize Language.pdfile.grammar (w ++ unled), Behind [] w unled tk ∧
        (tk.category = .string ∨ tk.category = .text) := by
  intro entry w closed unled
  have hentry : entry ∈ valueDirectives := by decide
  have hfold : w.EqFold entry.1.toList := by decide +kernel
  have hled : Led closed := fun _ =>
    ⟨['\t'], ['n', 'o', '#'], rfl, ⟨by decide, by simp⟩,
      by simpa using (by decide : isBlank 'n' = false)⟩
  have hunled : ¬ Led unled := fun h => by
    obtain ⟨b, t, htext, hb, -⟩ := h (by decide)
    have hhead := hb.head?_append t
    rw [← htext] at hhead
    exact absurd (hhead '\u00a0' rfl) (by decide)
  have hkeyword : ∀ rest ∈ [closed, unled],
      Token.at .keyword (Text.size []) w ∈ tokenize Language.pdfile.grammar (w ++ rest) := by
    rw [grammar_eq]
    decide +kernel
  have hclosed := value_line_flagged (List.nil_append (w ++ closed)).symm hentry hfold
    (hkeyword closed (by simp))
  have hunclosed := value_line_flagged (List.nil_append (w ++ unled)).symm hentry hfold
    (hkeyword unled (by simp))
  exact ⟨hentry, hled, hunled, hclosed.1 hled, hunclosed.2 hunled⟩

/-- A value that is glued to its directive is a string, which is no flag. -/
theorem exists_unflagged_value :
    ¬ ∀ (source before w rest : Text) (entry : String × List String),
      source = before ++ (w ++ rest) → entry ∈ valueDirectives → w.EqFold entry.1.toList →
      Token.at .keyword before.size w ∈ tokenize Language.pdfile.grammar source →
      ∀ tk ∈ tokenize Language.pdfile.grammar source, Behind before w rest tk →
        tk.category ∈ flags := by
  intro hall
  let w : Text := ['F', 'O', 'R', 'C', 'E']
  let rest : Text := ['=', 't', 'r', 'u', 'e']
  have hfold : w.EqFold "FORCE".toList := by decide +kernel
  have htokens : tokenize Language.pdfile.grammar (w ++ rest) =
      [Token.at .keyword 0 w, Token.at .string 5 rest] := by
    rw [grammar_eq]
    decide +kernel
  have hflag := hall (w ++ rest) [] w rest ("FORCE", booleans) rfl (by decide) hfold
    (by rw [htokens]; exact List.mem_cons_self ..) (Token.at .string 5 rest)
    (by rw [htokens]; simp) ⟨by decide, by decide⟩
  exact absurd hflag (by decide)

end Highlighter.Pdfile
