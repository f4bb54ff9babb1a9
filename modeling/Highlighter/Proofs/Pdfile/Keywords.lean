import Highlighter.Proofs.Pdfile.Comments
import Highlighter.Proofs.Pdfile.Directives

/-!
# Keywords of pdfile

Where a line opens and no blank follows, a token starts, and it is a keyword exactly
where a directive stands: it is the directive then.  The other keywords are the second
words of the lines that give an origin a name (`directive_tokens`).

Both directions go through the steps of the scan (`keywordStep`).  A step in `root` at
the start of a line takes a rule for directives if and only if the text starts with a
directive, and no other step makes a keyword.
-/

namespace Highlighter.Pdfile

open Category Pattern

/-! ## Where a directive stands -/

/-- A directive starts with a keyword or with the word that defers, and no word character follows
that. -/
theorem Directive.exists_word {t u : Text} (h : Directive t u) :
    ∃ s ∈ "ONBUILD" :: keywords, ∃ w rest : Text, w.EqFold s.toList ∧ t = w ++ rest ∧
      ∀ c ∈ rest.head?, Highlighter.isWordChar c = false := by
  cases h with
  | keyword hs hu ht hnext => exact ⟨_, List.mem_cons_of_mem _ hs, _, _, hu, ht, hnext⟩
  | deferred hv hb _ _ ht =>
    exact ⟨_, List.mem_cons_self .., _, _, hv, ht, fun c hc =>
      isWordChar_of_blank (hb.head?_append _ c hc)⟩

theorem upper_of_mem_words : ∀ s ∈ "ONBUILD" :: keywords, Text.Upper s.toList :=
  List.forall_mem_cons.mpr ⟨upper_deferrer, upper_of_mem_keywords⟩

theorem Directive.isWordChar {t u : Text} (h : Directive t u) :
    ∀ c ∈ t.head?, isWordChar c = true := by
  obtain ⟨s, hs, w, rest, hw, rfl, -⟩ := h.exists_word
  have hnonempty : ∀ s ∈ "ONBUILD" :: keywords, s.toList ≠ [] := by decide
  intro c hc
  rw [List.head?_append_of_ne_nil w (hw.ne_nil (hnonempty s hs))] at hc
  exact hw.isWordChar (upper_of_mem_words s hs) c (List.mem_of_head? hc)

/-- Where a keyword stands, the rule for any directive fires. -/
theorem exists_fires_anyDirective {s : String} {u rest : Text} (hs : s ∈ keywords)
    (hu : u.EqFold s.toList) (hrest : ∀ c ∈ rest.head?, isWordChar c = false) :
    ∃ m, anyDirectiveRule.fires? true (u ++ rest) = some m := by
  obtain ⟨b, hb, hreads⟩ := exists_mem_words (a := Place.start (u ++ rest)) plainWords_keywords hs
    hu rfl
  have hafter : b.rest = rest := List.append_cancel_left hreads.rest.symm
  have hconsumes : anyDirective.consumes = true := by
    simp [anyDirective, Pattern.consumes, consumes_words plainWords_keywords]
  -- The edge of the word is between its last character and the one after it.
  have hedge : (Assertion.word .either .word).holds b.before b.rest.head? = true :=
    hreads.wordEdge (hu.ne_nil (plainWords_keywords.plain s hs).ne_nil)
      (hu.isWordChar (upper_of_mem_keywords s hs)) (hafter ▸ hrest)
  let b₁ := b.capture 1 0
  have hcheck : b₁ ∈ (Pattern.check (.word .either .word)).run b₁ := by
    simp [Pattern.run, b₁, Place.capture, hedge]
  have hblanks : b₁ ∈ (Pattern.many true .inlineBlank).run b₁ :=
    mem_runEnds_of_mem (List.mem_cons_self ..)
  refine BuiltRule.exists_fires hconsumes (e := b₁.capture 2 b₁.offset) ?_ ..
  refine List.mem_flatMap.mpr ⟨b₁, List.mem_map.mpr ⟨b, hb, rfl⟩, ?_⟩
  refine List.mem_flatMap.mpr ⟨b₁, hcheck, ?_⟩
  refine List.mem_flatMap.mpr ⟨_, List.mem_map.mpr ⟨b₁, hblanks, rfl⟩, ?_⟩
  exact List.mem_append_right _ (List.mem_singleton_self _)

/-- Where a deferred directive stands, the rule for commands fires. -/
theorem exists_fires_shell {v b w rest : Text} {c : Char} (hv : v.EqFold "ONBUILD".toList)
    (hb : b.Blanks) (hw : w.EqFold onbuildDirective.toList) (hc : c = ' ' ∨ c = '\t') :
    ∃ m, shellRule.fires? true (v ++ (b ++ (w ++ c :: rest))) = some m := by
  have hplain : Text.Plain "ONBUILD".toList := .ofList (by decide)
  obtain ⟨p₁, hreads₁, hrun⟩ := exists_mem_wordThen (p := .blanks)
    (a := Place.start (v ++ (b ++ (w ++ c :: rest)))) hplain.chars hv rfl
  have hrest₁ : p₁.rest = b ++ (w ++ c :: rest) := List.append_cancel_left hreads₁.rest.symm
  obtain ⟨p₂, hp₂, hreads₂⟩ := exists_mem_blanks hb hrest₁
  have hrest₂ : p₂.rest = w ++ c :: rest := hreads₂.leaves hrest₁
  obtain ⟨p₃, hp₃, hreads₃⟩ := exists_mem_word
    (plainWords_keywords.plain _ onbuildDirective_mem_keywords).chars hw hrest₂
  have hrest₃ : p₃.rest = [c] ++ rest := hreads₃.leaves hrest₂
  obtain ⟨p₄, hp₄, -⟩ := exists_mem_blanks (a := p₃.capture 1 0) (w := [c]) ⟨by simp, by simpa⟩
    hrest₃
  have hconsumes : shellStart.consumes = true :=
    consumes_groupsThen (q := .group 2 .blanks) (.inl rfl)
  refine BuiltRule.exists_fires hconsumes (e := p₄.capture 2 (p₃.capture 1 0).offset) ?_ ..
  refine List.mem_flatMap.mpr ⟨p₃.capture 1 0, List.mem_map.mpr ⟨p₃, ?_, rfl⟩,
    List.mem_map.mpr ⟨p₄, hp₄, rfl⟩⟩
  refine List.mem_append_left _ (List.mem_flatMap.mpr ⟨p₂, ?_, hp₃⟩)
  exact List.mem_append_left _ (hrun p₂ hp₂)

/-- Before a solid character neither blanks nor a comment are read. -/
theorem firstFiring?_blankTable_of_solid {lineStart : Bool} {t : Text}
    (h : ∀ c ∈ t.head?, isBlank c = false ∧ c ≠ '#') :
    firstFiring? lineStart t blankTable = none := by
  refine firstFiring?_of_forall_none fun rule hrule => ?_
  rcases List.mem_pair.mp hrule with rfl | rfl
  · exact BuiltRule.fires?_blanks_eq_none fun c hc => (h c hc).1
  · exact BuiltRule.fires?_comment_eq_none fun c hc => (h c hc).2

/-- A directive starts with a solid character. -/
theorem Directive.solid {t u : Text} (h : Directive t u) :
    ∀ c ∈ t.head?, isBlank c = false ∧ c ≠ '#' := fun c hc =>
  solid_of_isWordChar (h.isWordChar c hc)

/-- Where a directive stands, neither blanks nor a comment are read. -/
theorem firstFiring?_blankTable_of_directive {t u : Text} (h : Directive t u) :
    firstFiring? true t blankTable = none :=
  firstFiring?_blankTable_of_solid h.solid

/-- Where a directive stands, the first rule of `root` to fire is one for directives. -/
theorem exists_directiveRule {t u : Text} (h : Directive t u) :
    ∃ rule ∈ directiveTable, ∃ m, firstFiring? true t rootTable = some (rule, m) := by
  have hfires : ∃ rule ∈ directiveTable, ∃ m, rule.fires? true t = some m := by
    cases h with
    | keyword hs hu ht hnext =>
      exact ⟨anyDirectiveRule, by simp [directiveTable], ht ▸ exists_fires_anyDirective hs hu hnext⟩
    | deferred hv hb hw hc ht =>
      exact ⟨shellRule, by simp [directiveTable, leadTable, shellRule],
        ht ▸ exists_fires_shell hv hb hw hc⟩
  obtain ⟨rule, hrule, m, hm⟩ := hfires
  cases hfirst : firstFiring? true t directiveTable with
  | none =>
    rw [firstFiring?_eq_none hfirst rule hrule] at hm
    cases hm
  | some found =>
    obtain ⟨rule', m'⟩ := found
    refine ⟨rule', (firstFiring?_eq_some hfirst).1, m', ?_⟩
    rw [rootTable_eq, firstFiring?_append, firstFiring?_append,
      firstFiring?_blankTable_of_directive h, hfirst]
    rfl

/-! ## Tokens of a directive -/

/-- A text starts with an origin and its name.  The second word of the line comes after a text. -/
inductive Naming (t : Text) : Text → Text → Prop where
  | intro {v b image b' w b'' label rest : Text} : v.EqFold "FROM".toList → b.Blanks →
      image.Argument → b'.Blanks → w.EqFold "AS".toList → b''.Blanks → label.Argument →
      t = v ++ (b ++ (image ++ (b' ++ (w ++ (b'' ++ (label ++ rest)))))) →
      Naming t (v ++ (b ++ (image ++ b'))) w

/-- Some tokens start with the directive of a text.  The other keywords among them are second
words of origins. -/
def DirectiveTokens (t : Text) (position : Nat) (tokens : List Token) : Prop :=
  ∃ u others, Directive t u ∧ tokens = Token.at .keyword position u :: others ∧
    ∀ tk ∈ others, tk.category = .keyword →
      ∃ lead w, Naming t lead w ∧ tk = Token.at .keyword (position + lead.size) w

theorem category_ne_keyword {more : List Category} (hmore : keyword ∉ more) {ws : List Text}
    {p : Nat} :
    ∀ tk ∈ Token.row p ((more.zip ws).filter (·.2 ≠ [])), tk.category ≠ .keyword := by
  intro tk htk hcategory
  obtain ⟨x, hx, hx'⟩ := Token.category_of_mem_row tk htk
  have hmem := (List.of_mem_zip (List.mem_filter.mp hx).1).1
  rw [← hx', hcategory] at hmem
  exact hmore hmem

/-- What the rule for an origin and its name reads. -/
theorem row_of_fromAs {t : Text} {m : Match} (hm : fromAs.tied.find t = some m) :
    ∃ v b image b' w b'' label : Text, v.EqFold "FROM".toList ∧ b.Blanks ∧ image.Argument ∧
      b'.Blanks ∧ w.EqFold "AS".toList ∧ b''.Blanks ∧ label.Argument ∧
      t = v ++ (b ++ (image ++ (b' ++ (w ++ (b'' ++ (label ++ m.rest)))))) ∧
      m.HasGroups 1 0 [v, b, image, b', w, b'', label] := by
  obtain ⟨ws, htakes, htext, hgroups⟩ := row_fromAs.exists_of_find hm
  obtain _ | ⟨hv, _ | ⟨hb, _ | ⟨himage, _ | ⟨hb', _ | ⟨hw, _ | ⟨hb'', _ | ⟨hlabel, _ | _⟩⟩⟩⟩⟩⟩⟩ :=
    htakes
  have hfrom : Text.Plain "FROM".toList := .ofList (by decide)
  have has : Text.Plain "AS".toList := .ofList (by decide)
  refine ⟨_, _, _, _, _, _, _, hv.literal hfrom.chars, hb.blanks, himage.argument, hb'.blanks,
    hw.literal has.chars, hb''.blanks, hlabel.argument, ?_, hgroups⟩
  rw [htext]
  simp only [List.flatten_cons, List.flatten_nil, List.append_assoc, List.append_nil]

theorem directiveTokens_fromAs {lineStart : Bool} {t u : Text} {m : Match}
    (hm : fromAsRule.fires? lineStart t = some m) (hu : t = u ++ m.rest) (base : Nat) :
    DirectiveTokens t base (fromAsRule.action.tokens base u m) := by
  obtain ⟨v, b, image, b', w, b'', label, hv, hb, himage, hb', hw, hb'', hlabel, htext, hgroups⟩ :=
    row_of_fromAs (BuiltRule.fires?_eq_some_iff.mp hm).2.1
  obtain rfl : u = [v, b, image, b', w, b'', label].flatten := by
    refine List.append_cancel_right (hu.symm.trans (htext.trans ?_))
    simp
  have hnaming : Naming t (v ++ (b ++ (image ++ b'))) w :=
    .intro hv hb himage hb' hw hb'' hlabel htext
  have hne : ∀ x ∈ [keyword, whitespace, string, whitespace, keyword, whitespace, string].zip
      [v, b, image, b', w, b'', label], x.2 ≠ [] := by
    simp only [List.zip_cons_cons, List.zip_nil_right, List.forall_mem_cons]
    exact ⟨hv.ne_nil (by decide), hb.ne_nil, himage.ne_nil, hb'.ne_nil, hw.ne_nil (by decide),
      hb''.ne_nil, hlabel.ne_nil, by simp⟩
  have htokens : fromAsRule.action.tokens base [v, b, image, b', w, b'', label].flatten m = _ :=
    Action.tokens_of_groups hgroups rfl base
  rw [List.filter_eq_self.mpr fun x hx => by simpa using hne x hx, List.zip_cons_cons,
    Token.row] at htokens
  have hnext : ∀ c ∈ (b ++ (image ++ (b' ++ (w ++ (b'' ++ (label ++ m.rest)))))).head?,
      isWordChar c = false := fun c hc => isWordChar_of_blank (hb.head?_append _ c hc)
  refine ⟨v, _, .keyword (by decide) hv htext hnext, htokens, fun tk htk hcategory => ?_⟩
  simp only [List.zip_cons_cons, List.zip_nil_right, Token.row, List.mem_cons, List.not_mem_nil,
    or_false] at htk
  rcases htk with rfl | rfl | rfl | rfl | rfl | rfl
  case inr.inr.inr.inl =>
    refine ⟨_, w, hnaming, ?_⟩
    simp only [Text.size_append, Nat.add_assoc]
  all_goals cases hcategory

/-- What a rule for directives makes of its match. -/
theorem directiveTokens_of_mem {rule : BuiltRule} (hrule : rule ∈ directiveTable)
    {lineStart : Bool} {t u : Text} {m : Match} (hm : rule.fires? lineStart t = some m)
    (hu : t = u ++ m.rest) (base : Nat) :
    DirectiveTokens t base (rule.action.tokens base u m) := by
  have hdirective := directiveRule_of_mem rule hrule
  obtain ⟨more, haction, hmore | rfl⟩ := hdirective.action
  · obtain ⟨v, ws, htext, hv, hgroups, hlength⟩ := hdirective.row hm
    obtain rfl : u = (v :: ws).flatten := by
      refine List.append_cancel_right (hu.symm.trans (htext.trans ?_))
      rw [List.flatten_cons, List.append_assoc]
    rw [haction] at hlength ⊢
    have hlength : (keyword :: more).length = (v :: ws).length := hlength
    have htokens := Action.tokens_of_groups hgroups hlength base
    rw [List.zip_cons_cons, List.filter_cons_of_pos (by simpa using hv.ne_nil)] at htokens
    refine ⟨v, _, hv, htokens, fun tk htk hcategory => ?_⟩
    exact absurd hcategory (category_ne_keyword hmore tk htk)
  · exact directiveTokens_fromAs hm hu base

/-! ## Steps -/

/-- The ways a step goes, by the keywords it makes. -/
inductive KeywordStep (lx : Lexer) : Prop where
  /-- It reads a directive. -/
  | directive : lx.stack = ⟨root, []⟩ → lx.lineStart = true →
      DirectiveTokens lx.rest lx.cursor (lx.step table).pending → KeywordStep lx
  /-- No directive stands there to be read, and it makes no keyword. -/
  | other : (lx.stack = ⟨root, []⟩ → lx.lineStart = true → ∀ u, ¬ Directive lx.rest u) →
      (∀ tk ∈ (lx.step table).pending, tk.category ≠ .keyword) → KeywordStep lx

theorem keyword_not_mem_of_inner {state : String} (hstate : state ∈ innerStates) :
    ∀ rule ∈ table.rulesOf state, keyword ∉ rule.action.categories := by
  simp only [innerStates, List.mem_cons, List.not_mem_nil, or_false] at hstate
  rcases hstate with rfl | rfl | rfl
  · rw [rulesOf_providerAttributes]
    decide
  · rw [rulesOf_commaList]
    decide
  · rw [rulesOf_shellCommandBody]
    decide

/-- A rule of `root` is for directives, or it makes no keyword. -/
theorem mem_directiveTable_or {rule : BuiltRule} (h : rule ∈ rootTable) :
    rule ∈ directiveTable ∨ keyword ∉ rule.action.categories ∧ rule.lineStart = false := by
  have hblank : ∀ r ∈ blankTable, keyword ∉ r.action.categories ∧ r.lineStart = false := by decide
  have hlast : ∀ r ∈ [BuiltRule.words, .signs],
      keyword ∉ r.action.categories ∧ r.lineStart = false := by decide
  rw [rootTable_eq] at h
  rcases List.mem_append.mp h with h | h
  · exact .inr (hblank rule h)
  · exact (List.mem_append.mp h).imp id (hlast rule)

/-- Every step of a scan goes one of the ways. -/
theorem keywordStep {lx : Lexer} (hidle : lx.Idle) (hrest : lx.rest ≠ [])
    (hstack : lx.stack.OnLevels table innerStates) : KeywordStep lx := by
  rcases lx.step_cases table hrest with ⟨rule, m, u, hfire, -, hu, -, -, hstep⟩ |
    ⟨c, rest, hfire, -, hstep⟩
  · obtain ⟨hmem, hm⟩ := firstFiring?_eq_some hfire
    generalize hs : lx.stack = stack at hstack
    cases hstack with
    | entry =>
      rw [hs] at hmem hfire
      rcases mem_directiveTable_or hmem with hrule | ⟨hrule, hline⟩
      · refine .directive hs ?_ ?_
        · exact (BuiltRule.fires?_eq_some_iff.mp hm).1 (directiveRule_of_mem rule hrule).lineStart
        · have htokens := directiveTokens_of_mem hrule hm hu lx.cursor
          rw [hstep, hidle.pending_consume]
          exact htokens
      · refine .other (fun _ hstart v hv => ?_)
          (Lexer.category_ne_of_step hidle hrule (by decide) hstep)
        -- Where a directive stands, the first rule that fires is for the start of a line.
        obtain ⟨rule', hrule', m', hfire'⟩ := exists_directiveRule hv
        rw [hstart] at hfire
        cases (hfire.symm.trans hfire' : some _ = some _)
        rw [(directiveRule_of_mem rule hrule').lineStart] at hline
        cases hline
    | @inner state hstate =>
      rw [hs] at hmem
      have hrule := keyword_not_mem_of_inner hstate rule hmem
      refine .other (fun hroot => ?_) (Lexer.category_ne_of_step hidle hrule (by decide) hstep)
      rw [hroot] at hs
      cases hs
  · refine .other (fun hroot hstart v hv => ?_) (fun tk htk => ?_)
    · obtain ⟨rule', -, m', hfire'⟩ := exists_directiveRule hv
      rw [hroot, hstart] at hfire
      cases (hfire.symm.trans hfire' : none = some _)
    · rw [hstep, hidle.pending_consume, List.mem_singleton] at htk
      rw [htk]
      exact (by decide : Category.text ≠ .keyword)

/-- Where a directive stands at the start of a line, it is the first token. -/
theorem exists_directive_token {lx : Lexer} (hidle : lx.Idle) (hstack : lx.stack = ⟨root, []⟩)
    (hline : lx.lineStart = true) {u : Text} (hu : Directive lx.rest u) :
    ∃ others, (lx.step table).pending = Token.at .keyword lx.cursor u :: others := by
  have hrest : lx.rest ≠ [] := by
    obtain ⟨rest, hrest⟩ := hu.exists_append
    rw [hrest]
    exact List.append_ne_nil_of_left_ne_nil hu.ne_nil rest
  have hlevels : lx.stack.OnLevels table innerStates := by
    rw [hstack]
    exact .entry
  cases keywordStep hidle hrest hlevels with
  | directive _ _ htokens =>
    obtain ⟨v, others, hv, hpending, -⟩ := htokens
    obtain rfl := hu.unique hv
    exact ⟨others, hpending⟩
  | other hnone _ => exact absurd hu (hnone hstack hline u)

/-- At a solid character the first token of `root` is a directive, or it is plain text. -/
theorem directiveTokens_or_text {lx : Lexer} (hidle : lx.Idle) (hstack : lx.stack = ⟨root, []⟩)
    (hrest : lx.rest ≠ []) (hsolid : ∀ c ∈ lx.rest.head?, isBlank c = false ∧ c ≠ '#') :
    DirectiveTokens lx.rest lx.cursor (lx.step table).pending ∨
      ∃ u, (lx.step table).pending = [Token.at .text lx.cursor u] := by
  rcases lx.step_cases table hrest with ⟨rule, m, u, hfire, -, hu, -, -, hstep⟩ |
    ⟨c, t, -, -, hstep⟩
  · rw [hstack] at hfire
    have hfire : firstFiring? lx.lineStart lx.rest rootTable = some (rule, m) := hfire
    rw [rootTable_eq, firstFiring?_append, firstFiring?_blankTable_of_solid hsolid,
      Option.none_or] at hfire
    obtain ⟨hmem, hm⟩ := firstFiring?_eq_some hfire
    rcases List.mem_append.mp hmem with hrule | hrule
    · left
      rw [hstep, hidle.pending_consume]
      exact directiveTokens_of_mem hrule hm hu lx.cursor
    · have haction : rule.action = .token .text := by
        rcases List.mem_pair.mp hrule with rfl | rfl <;> rfl
      exact .inr ⟨u, Lexer.pending_of_token hidle haction hstep⟩
  · right
    rw [hstep, hidle.pending_consume]
    exact ⟨[c], rfl⟩

/-! ## The tokens of a source -/

/-- A line of a source opens after a text, and what stands there starts with no blank. -/
structure LineAt (source before line : Text) : Prop where
  text : source = before ++ line
  opens : Language.pdfile.Opening source before
  ne_nil : line ≠ []
  solid : ∀ c ∈ line.head?, isBlank c = false

variable {source before line : Text}

/-- The first line of a source. -/
theorem LineAt.first {c : Char} {t : Text} (hc : isBlank c = false) :
    LineAt (c :: t) [] (c :: t) :=
  ⟨rfl, .inl rfl, List.cons_ne_nil c t, fun _ hd => Option.some.inj hd ▸ hc⟩

theorem LineAt.exists_scan (h : LineAt source before line) :
    ∃ lx, Reaches source lx ∧ lx.cursor = before.size ∧ lx.rest = line ∧
      lx.stack = ⟨root, []⟩ ∧ lx.lineStart = true := by
  obtain ⟨c, rest, rfl⟩ := List.exists_cons_of_ne_nil h.ne_nil
  have hopens := h.opens
  rw [h.text] at hopens
  obtain ⟨tokens, lx, hscans, hcursor, hrest, hstack, hline⟩ :=
    Language.exists_scan_of_opening hopens (h.solid c rfl)
  rw [Language.entry_eq] at hstack
  exact ⟨lx, ⟨tokens, h.text ▸ hscans⟩, hcursor, hrest, hstack, hline⟩

/-- Where a scan can read a directive, a line is. -/
theorem LineAt.of_reaches {lx : Lexer} (h : Reaches source lx) (hstack : lx.stack = ⟨root, []⟩)
    (hline : lx.lineStart = true) {u : Text} (hu : Directive lx.rest u) :
    ∃ before, LineAt source before lx.rest ∧ lx.cursor = before.size := by
  obtain ⟨tokens, hscans⟩ := h
  obtain ⟨before, htext, hcursor⟩ := exists_read_of_scans hscans
  have hentry : lx.stack = ⟨Language.pdfile.grammar.entry, []⟩ := by
    rw [Language.entry_eq]
    exact hstack
  refine ⟨before, ⟨htext, Language.opening_of_scans hscans hentry hline htext, ?_, ?_⟩, hcursor⟩
  · rintro hnil
    obtain ⟨rest, hrest⟩ := hu.exists_append
    rw [hnil] at hrest
    exact hu.ne_nil (List.append_eq_nil_iff.mp hrest.symm).1
  · exact fun c hc => (hu.solid c hc).1

theorem Reaches.keywordStep {lx : Lexer} (h : Reaches source lx) (hrest : lx.rest ≠ []) :
    KeywordStep lx := by
  obtain ⟨tokens, hscans⟩ := h
  have hstack := hscans.onLevels Language.pdfile.twoLevel .entry
  rw [grammar_eq] at hstack
  exact Pdfile.keywordStep hscans.idle_right hrest hstack

/-- The token of a source that starts where a scan gets to is the first one of its next step. -/
theorem Reaches.exists_token {lx : Lexer} (h : Reaches source lx) (hrest : lx.rest ≠ []) :
    ∃ t others, (lx.step table).pending = t :: others ∧
      t ∈ tokenize Language.pdfile.grammar source ∧ t.start = lx.cursor ∧
      ∀ t' ∈ tokenize Language.pdfile.grammar source, t'.start = lx.cursor → t' = t := by
  obtain ⟨tokens, hscans⟩ := h
  have hmem := mem_tokenize_of_scans hscans hrest
  rw [grammar_eq] at hmem
  obtain ⟨u, -, -, -, -, htiles⟩ := Lexer.exists_step_reads table hscans.idle_right hrest
  obtain ⟨t, others, hpending⟩ :=
    List.exists_cons_of_ne_nil (Lexer.step_pending_ne_nil table hscans.idle_right hrest)
  rw [hpending] at htiles hmem
  have ht := hmem t (List.mem_cons_self ..)
  have hstart : t.start = lx.cursor := htiles.start_eq
  refine ⟨t, others, hpending, grammar_eq ▸ ht, hstart, fun t' ht' hstart' => ?_⟩
  exact (tiles_tokenize _ source).eq_of_start_eq t' ht' t (grammar_eq ▸ ht)
    (hstart'.trans hstart.symm)

/-- Where a line opens and no blank follows, a token starts.  It is a keyword exactly where a
directive stands, and it is the directive then.  Every keyword starts at such a place, or it is
the second word of an origin that stands there. -/
theorem directive_tokens (source : Text) :
    (∀ before line, LineAt source before line →
      (∃ t ∈ tokenize Language.pdfile.grammar source, t.start = before.size) ∧
      ∀ t ∈ tokenize Language.pdfile.grammar source, t.start = before.size →
        (t.category = .keyword ↔ ∃ u, Directive line u) ∧
        ∀ u, Directive line u → t.text = u) ∧
    ∀ t ∈ tokenize Language.pdfile.grammar source, t.category = .keyword →
      ∃ before line, LineAt source before line ∧
        (t.start = before.size ∨
          ∃ lead w, Naming line lead w ∧ t = Token.at .keyword (before.size + lead.size) w) := by
  refine ⟨fun before line hplace => ?_, fun t ht hcategory => ?_⟩
  · obtain ⟨lx, hreaches, hcursor, rfl, hstack, hline⟩ := hplace.exists_scan
    obtain ⟨t, others, hpending, ht, hstart, honly⟩ := hreaches.exists_token hplace.ne_nil
    rw [hcursor] at hstart honly
    refine ⟨⟨t, ht, hstart⟩, fun t' ht' hstart' => ?_⟩
    obtain rfl := honly t' ht' hstart'
    cases hreaches.keywordStep hplace.ne_nil with
    | directive _ _ htokens =>
      obtain ⟨u, others', hu, hfound, -⟩ := htokens
      rw [hpending] at hfound
      obtain ⟨rfl, -⟩ := List.cons.inj hfound
      exact ⟨⟨fun _ => ⟨u, hu⟩, fun _ => rfl⟩, fun u' hu' => hu.unique hu'⟩
    | other hnone hcategory =>
      have hno := hnone hstack hline
      refine ⟨⟨fun hkeyword => ?_, fun ⟨u, hu⟩ => absurd hu (hno u)⟩,
        fun u hu => absurd hu (hno u)⟩
      exact absurd hkeyword (hcategory t' (hpending ▸ List.mem_cons_self ..))
  · obtain ⟨end_, hscans, -⟩ := scans_tokenize Language.pdfile.grammar source
    obtain ⟨tokens, lx, hscan, hrest, hmem⟩ := hscans.exists_step_of_mem t ht
    rw [grammar_eq] at hmem
    have hreaches : Reaches source lx := ⟨tokens, hscan⟩
    cases hreaches.keywordStep hrest with
    | other _ hnone => exact absurd hcategory (hnone t hmem)
    | directive hstack hline htokens =>
      obtain ⟨u, others, hu, hfound, hothers⟩ := htokens
      obtain ⟨before, hplace, hcursor⟩ := LineAt.of_reaches hreaches hstack hline hu
      refine ⟨before, lx.rest, hplace, ?_⟩
      rw [hfound] at hmem
      rcases List.mem_cons.mp hmem with rfl | hmem
      · exact .inl hcursor
      · obtain ⟨lead, w, hnaming, htoken⟩ := hothers t hmem hcategory
        exact .inr ⟨lead, w, hnaming, hcursor ▸ htoken⟩

/-- A long s stands for an `S` in a directive. -/
theorem directive_tokens_long_s :
    let source : Text := ['i', 'n', 'ſ', 'e', 'c', 'u', 'r', 'e']
    LineAt source [] source ∧ Directive source source ∧
      ∃ t ∈ tokenize Language.pdfile.grammar source,
        t.start = 0 ∧ t.category = .keyword ∧ t.text = source := by
  intro source
  have hsolid : ∀ c ∈ source.head?, isBlank c = false := by
    intro c hc
    obtain rfl : 'i' = c := Option.some.inj hc
    decide
  have hplace : LineAt source [] source := ⟨rfl, .inl rfl, by decide, hsolid⟩
  have hfold : source.EqFold "INSECURE".toList := by
    unfold Text.EqFold
    decide +kernel
  have hdirective : Directive source source :=
    .keyword (by decide) hfold (List.append_nil source).symm (by simp)
  obtain ⟨⟨t, ht, hstart⟩, hall⟩ := (directive_tokens source).1 [] source hplace
  obtain ⟨hkeyword, htext⟩ := hall t ht hstart
  exact ⟨hplace, hdirective, t, ht, hstart, hkeyword.mpr ⟨source, hdirective⟩,
    htext source hdirective⟩

end Highlighter.Pdfile
