import Highlighter.Proofs.Pdfile.Bodies
import Highlighter.Proofs.Pdfile.Keywords

/-!
# Readings

A scan *reads a row* if it reads the texts of the row one after another, makes a token
of each, and is in the same state after it (`ReadsRow`).  Rows that are read one after
another are one row (`ReadsRow.trans`), so what is read in a state is put together from
what each of its rules reads.

The scan of a source reads a row of a line if it does so behind tokens that tile what
stands before the line (`ReadsLine`).  The first rule to fire at a line reads the first
row (`LineAt.exists_readsLine`), and what is read after that is added to it
(`ReadsLine.append`).
-/

namespace Highlighter

theorem Token.row_append : ∀ (row row' : List (Category × Text)) (p : Nat),
    Token.row p (row ++ row') =
      Token.row p row ++ Token.row (p + (Pdfile.rowText row).size) row'
  | [], row', p => by simp [Token.row, Pdfile.rowText]
  | (category, w) :: row, row', p => by
    have hsize : p + (Pdfile.rowText ((category, w) :: row)).size =
        p + w.size + (Pdfile.rowText row).size := by
      simp [Pdfile.rowText, Text.size_append, Nat.add_assoc]
    rw [List.cons_append, Token.row, Token.row, Token.row_append row row' (p + w.size), hsize,
      List.cons_append]

/-- The texts of the tokens of a category. -/
def Token.textsOf (category : Category) (tokens : List Token) : List Text :=
  (tokens.filter (·.category = category)).map Token.text

theorem Token.textsOf_row (category : Category) : ∀ (row : List (Category × Text)) (p : Nat),
    Token.textsOf category (Token.row p row) = (row.filter (·.1 = category)).map Prod.snd
  | [], _ => rfl
  | x :: row, p => by
    have ih := Token.textsOf_row category row (p + x.2.size)
    rw [textsOf] at ih ⊢
    by_cases hx : x.1 = category <;> simp [Token.row, Token.at, hx, ih]

end Highlighter

namespace Highlighter.Pdfile

open Category

/-- From one idle scan to another the texts of a row are read, and the state stays. -/
structure ReadsRow (lx : Lexer) (row : List (Category × Text)) (lx' : Lexer) : Prop where
  scans : lx.Scans table (Token.row lx.cursor row) lx'
  text : lx.rest = rowText row ++ lx'.rest
  stack : lx'.stack = lx.stack

namespace ReadsRow

variable {lx lx' lx'' : Lexer} {row row' : List (Category × Text)}

theorem refl (h : lx.Idle) : ReadsRow lx [] lx := ⟨.refl h, rfl, rfl⟩

theorem cursor (h : ReadsRow lx row lx') : lx'.cursor = lx.cursor + (rowText row).size := by
  obtain ⟨u, htext, hcursor, -⟩ := h.scans.exists_reads
  rw [hcursor, List.append_cancel_right (htext.symm.trans h.text)]

theorem trans (h : ReadsRow lx row lx') (h' : ReadsRow lx' row' lx'') :
    ReadsRow lx (row ++ row') lx'' where
  scans := by
    have hscans := h'.scans
    rw [h.cursor] at hscans
    rw [Token.row_append]
    exact h.scans.trans hscans
  text := by rw [rowText_append, List.append_assoc, ← h'.text, h.text]
  stack := h'.stack.trans h.stack

end ReadsRow

section Rules

variable {lx : Lexer} {rule : BuiltRule} {m : Match}

/-- Where a rule that makes one token is the first to fire, and stays in its state, a row of one
text is read. -/
theorem exists_readsRow_token {category : Category} {u : Text} (hidle : lx.Idle)
    (hfire : firstFiring? lx.lineStart lx.rest (table.rulesOf lx.stack.top) = some (rule, m))
    (haction : rule.action = .token category) (hstay : rule.transition = .stay)
    (hu : lx.rest = u ++ m.rest) : ∃ lx', ReadsRow lx [(category, u)] lx' ∧ lx'.rest = m.rest := by
  have hscans := Lexer.scans_of_token hidle hfire haction hu
  rw [hstay] at hscans
  exact ⟨_, ⟨hscans, by simpa [rowText] using hu, rfl⟩, rfl⟩

/-- Where a rule that makes a token of each group is the first to fire, and stays in its state, the
row of its groups is read. -/
theorem exists_readsRow_groups {categories : List Category} {ws : List Text} (hidle : lx.Idle)
    (hfire : firstFiring? lx.lineStart lx.rest (table.rulesOf lx.stack.top) = some (rule, m))
    (haction : rule.action = .groups categories) (hstay : rule.transition = .stay)
    (hlength : categories.length = ws.length) (htext : lx.rest = ws.flatten ++ m.rest)
    (hgroups : m.HasGroups 1 0 ws) :
    ∃ lx', ReadsRow lx ((categories.zip ws).filter (·.2 ≠ [])) lx' ∧ lx'.rest = m.rest := by
  have hscans := Lexer.scans_of_firing hidle hfire htext
  rw [haction, Action.tokens_of_groups hgroups hlength, hstay] at hscans
  exact ⟨_, ⟨hscans, by rw [rowText_zip_filter hlength]; exact htext, rfl⟩, rfl⟩

/-- All blanks within a line are read in an inner state. -/
theorem exists_readsRow_blanks {state : String} (hstate : state ∈ innerStates) (hidle : lx.Idle)
    (htop : lx.stack.top = state) {b t : Text} (hrest : lx.rest = b ++ t)
    (hb : ∀ c ∈ b, isBlank c = true ∧ c ≠ '\n' ∧ c ≠ '\r')
    (ht : ∀ c ∈ t.head?, CharSet.innerBlank.holds c = false) :
    ∃ lx', ReadsRow lx ([(whitespace, b)].filter (·.2 ≠ [])) lx' ∧ lx'.rest = t := by
  cases b with
  | nil => exact ⟨lx, .refl hidle, hrest⟩
  | cons c b =>
    obtain ⟨hc, hnewline, hreturn⟩ := hb c (List.mem_cons_self ..)
    have hinner : ∀ d ∈ b, CharSet.innerBlank.holds d = true := fun d hd => by
      obtain ⟨hblank, hne, -⟩ := hb d (List.mem_cons_of_mem c hd)
      simp [CharSet.innerBlank, CharSet.holds, hblank, hne]
    have hline : BuiltRule.closingLineEnd.fires? lx.lineStart (c :: (b ++ t)) = none :=
      Option.eq_none_iff_forall_ne_some.mpr fun m hm => by
        rcases BuiltRule.fires?_closingLineEnd_eq_some hm with h | h
        · exact hnewline (List.cons.inj h).1
        · exact hreturn (List.cons.inj h).1
    have hfire := firstFiring?_inner_of_blank hstate hc hline
    have hdrop : (b ++ t).dropWhile CharSet.innerBlank.holds = t := by
      rw [List.dropWhile_append_of_pos hinner]
      cases t with
      | nil => rfl
      | cons d t => exact List.dropWhile_cons_of_neg (by simp [ht d rfl])
    rw [← List.cons_append, ← hrest, ← htop] at hfire
    obtain ⟨lx', hreads, hrest'⟩ := exists_readsRow_token hidle hfire rfl rfl (u := c :: b) (by
      rw [hrest, hdrop])
    exact ⟨lx', by simpa using hreads, hrest'.trans hdrop⟩

/-- At a solid character the rules for comments, line ends and blanks do not fire. -/
theorem firstFiring?_of_solid {lineStart : Bool} {c : Char} (t : Text) (hc : isBlank c = false)
    (hash : c ≠ '#') (others : List BuiltRule) :
    firstFiring? lineStart (c :: t) (.comment .pop :: .closingLineEnd :: .innerBlanks :: others) =
      firstFiring? lineStart (c :: t) others := by
  have hcomment : (BuiltRule.comment .pop).fires? lineStart (c :: t) = none :=
    Option.eq_none_iff_forall_ne_some.mpr fun m hm => by
      obtain ⟨u, hu, -⟩ := BuiltRule.fires?_comment_eq_some hm
      exact hash (List.cons.inj hu).1
  have hlineEnd : BuiltRule.closingLineEnd.fires? lineStart (c :: t) = none :=
    Option.eq_none_iff_forall_ne_some.mpr fun m hm => by
      rcases BuiltRule.fires?_closingLineEnd_eq_some hm with hu | hu
      all_goals
        obtain ⟨rfl, -⟩ := List.cons.inj hu
        cases hc
  have hblanks : BuiltRule.innerBlanks.fires? lineStart (c :: t) = none := by
    rw [BuiltRule.innerBlanks, BuiltRule.fires?_plain rfl, Pattern.plus, Pattern.find_run,
      if_neg (by simp [CharSet.innerBlank, CharSet.holds, hc])]
  rw [firstFiring?, hcomment, firstFiring?, hlineEnd, firstFiring?, hblanks]

end Rules

/-! ## What is read in root -/

section Root

variable {lx : Lexer} {t : Text} {c : Char}

/-- All blanks are read. -/
theorem exists_readsRow_root_blanks (hidle : lx.Idle) (hstack : lx.stack = ⟨root, []⟩)
    (hrest : lx.rest = c :: t) (hc : isBlank c = true) :
    ∃ lx', ReadsRow lx [(whitespace, c :: t.takeWhile isBlank)] lx' ∧
      lx'.rest = t.dropWhile isBlank := by
  have hfire := firstFiring?_root_of_blank lx.lineStart t hc
  rw [← hrest, ← rulesOf_root, show root = lx.stack.top by rw [hstack]] at hfire
  exact exists_readsRow_token hidle hfire rfl rfl (by simp [hrest])

/-- A comment is read to the end of the line. -/
theorem exists_readsRow_root_comment (hidle : lx.Idle) (hstack : lx.stack = ⟨root, []⟩)
    (hrest : lx.rest = '#' :: t) :
    ∃ lx', ReadsRow lx [(comment, '#' :: t.takeWhile (· != '\n'))] lx' ∧
      lx'.rest = t.dropWhile (· != '\n') := by
  have hfire := firstFiring?_root_of_hash lx.lineStart t
  rw [← hrest, ← rulesOf_root, show root = lx.stack.top by rw [hstack]] at hfire
  exact exists_readsRow_token hidle hfire rfl rfl (by simp [hrest])

/-- Blanks, if there are any, and the comment they lead to are read. -/
theorem exists_readsRow_to_comment (hidle : lx.Idle) (hstack : lx.stack = ⟨root, []⟩) {gap : Text}
    (hgap : ∀ d ∈ gap, isBlank d = true) (hrest : lx.rest = gap ++ '#' :: t) :
    ∃ lx', ReadsRow lx ([(whitespace, gap), (comment, '#' :: t.takeWhile (· != '\n'))].filter
      (·.2 ≠ [])) lx' := by
  cases gap with
  | nil =>
    obtain ⟨lx', hcomment, -⟩ := exists_readsRow_root_comment hidle hstack hrest
    exact ⟨lx', by simpa using hcomment⟩
  | cons d gap =>
    obtain ⟨hd, hgap⟩ := List.forall_mem_cons.mp hgap
    obtain ⟨lx₁, hblanks, hrest₁⟩ := exists_readsRow_root_blanks (t := gap ++ '#' :: t) hidle hstack
      hrest hd
    have hstop : ¬ isBlank '#' = true := by decide
    rw [List.takeWhile_append_of_pos hgap, List.takeWhile_cons_of_neg hstop,
      List.append_nil] at hblanks
    rw [List.dropWhile_append_of_pos hgap, List.dropWhile_cons_of_neg hstop] at hrest₁
    obtain ⟨lx₂, hcomment, -⟩ := exists_readsRow_root_comment hblanks.scans.idle_right
      (hblanks.stack.trans hstack) hrest₁
    exact ⟨lx₂, by simpa using hblanks.trans hcomment⟩

/-- What is neither a blank nor a comment is plain text, but for the start of a line. -/
theorem exists_readsRow_root_text (hidle : lx.Idle) (hstack : lx.stack = ⟨root, []⟩)
    (hline : lx.lineStart = false) (hrest : lx.rest = c :: t) (hc : isBlank c = false)
    (hash : c ≠ '#') : ∃ v lx', ReadsRow lx [(text, v)] lx' := by
  have hne : lx.rest ≠ [] := by simp [hrest]
  have hrules : table.rulesOf lx.stack.top = rootTable := by rw [hstack]; rfl
  rcases lx.step_cases table hne with ⟨rule, m, u, hfire, -, hu, -, -, -⟩ |
    ⟨d, rest, -, hd, hstep⟩
  · obtain ⟨hmem, hm⟩ := firstFiring?_eq_some hfire
    rw [hrules, rootTable_eq] at hmem
    have hrule : rule = .words ∨ rule = .signs := by
      rcases List.mem_append.mp hmem with hmem | hmem
      · simp only [blankTable, List.mem_cons, List.not_mem_nil, or_false] at hmem
        rcases hmem with rfl | rfl
        · obtain ⟨d, rest, hd, hblank, -⟩ := BuiltRule.fires?_blanks_eq_some hm
          rw [hrest] at hd
          rw [← (List.cons.inj hd).1, hc] at hblank
          cases hblank
        · obtain ⟨rest, hd, -⟩ := BuiltRule.fires?_comment_eq_some hm
          rw [hrest] at hd
          exact absurd (List.cons.inj hd).1 hash
      · rcases List.mem_append.mp hmem with hmem | hmem
        · -- The rules for directives are for the start of a line.
          have hstart := (BuiltRule.fires?_eq_some_iff.mp hm).1
            (directiveRule_of_mem rule hmem).lineStart
          rw [hline] at hstart
          cases hstart
        · simpa using hmem
    have haction : rule.action = .token text ∧ rule.transition = .stay := by
      rcases hrule with rfl | rfl <;> exact ⟨rfl, rfl⟩
    obtain ⟨lx', hreads, -⟩ := exists_readsRow_token hidle hfire haction.1 haction.2 hu
    exact ⟨u, lx', hreads⟩
  · have hscans := Lexer.Scans.step hidle hne (.refl (Lexer.idle_settle (lx.step table)))
    rw [hstep, hidle.pending_consume] at hscans
    exact ⟨[d], _, hscans, hd, rfl⟩

/-- The tokens that a scan still has to find start where it stands or later. -/
theorem cursor_le_of_mem_drain (hidle : lx.Idle) :
    ∀ tk ∈ (lx.drain table).1, lx.cursor ≤ tk.start := fun tk htk =>
  ((Lexer.scans_drain table hidle).1.bounds.2 tk htk).1

theorem ReadsRow.drain_eq {row : List (Category × Text)} {lx' : Lexer} (h : ReadsRow lx row lx') :
    (lx.drain table).1 = Token.row lx.cursor row ++ (lx'.drain table).1 := by
  rw [Lexer.drain_eq_of_scans h.scans]

/-- In the rest of a line that starts with a comment, if with anything, there is only this. -/
theorem category_of_comment (hidle : lx.Idle) (hstack : lx.stack = ⟨root, []⟩)
    (hhead : ∀ c ∈ lx.rest.head?, c = '#') : ∀ tk ∈ (lx.drain table).1,
      tk.start < lx.cursor + Text.size (lx.rest.takeWhile (· != '\n')) →
      tk.category = comment := by
  intro tk htk hlt
  cases hrest : lx.rest with
  | nil =>
    have := cursor_le_of_mem_drain hidle tk htk
    rw [hrest] at hlt
    simp at hlt
    omega
  | cons c t =>
    obtain rfl := hhead c (by rw [hrest]; rfl)
    obtain ⟨lx', hreads, -⟩ := exists_readsRow_root_comment hidle hstack hrest
    rw [hreads.drain_eq] at htk
    rcases List.mem_append.mp htk with htk | htk
    · rw [List.mem_singleton.mp htk]
      rfl
    · have hle := cursor_le_of_mem_drain hreads.scans.idle_right tk htk
      have hcursor := hreads.cursor
      rw [hrest, List.takeWhile_cons_of_pos (by decide)] at hlt
      simp only [rowText, List.map_cons, List.map_nil, List.flatten_cons, List.flatten_nil,
        List.append_nil] at hcursor
      omega

/-- In the rest of a line that has no body there are only blanks and a comment. -/
theorem category_of_body_nil (hidle : lx.Idle) (hstack : lx.stack = ⟨root, []⟩)
    (hbody : lx.rest.body = []) : ∀ tk ∈ (lx.drain table).1,
      tk.start < lx.cursor + Text.size (lx.rest.takeWhile (· != '\n')) →
      tk.category = whitespace ∨ tk.category = comment := by
  intro tk htk hlt
  by_cases hblank : ∀ c ∈ lx.rest.head?, isBlank c = false
  · exact .inr (category_of_comment hidle hstack (Text.eq_hash_of_body_nil hbody hblank) tk htk hlt)
  simp only [not_forall, Bool.not_eq_false] at hblank
  obtain ⟨c, hc, hblank⟩ := hblank
  obtain ⟨t, ht⟩ := List.head?_eq_some_iff.mp hc
  obtain ⟨lx', hreads, hrest⟩ := exists_readsRow_root_blanks hidle hstack ht hblank
  have htext : lx.rest = (c :: t.takeWhile isBlank) ++ lx'.rest := by
    simpa [rowText] using hreads.text
  have hcursor : lx'.cursor = lx.cursor + Text.size (c :: t.takeWhile isBlank) := by
    simpa [rowText] using hreads.cursor
  rw [hreads.drain_eq] at htk
  rcases List.mem_append.mp htk with htk | htk
  · rw [List.mem_singleton.mp htk]
    exact .inl rfl
  have hidle' := hreads.scans.idle_right
  have hle := cursor_le_of_mem_drain hidle' tk htk
  by_cases hline : '\n' ∈ c :: t.takeWhile isBlank
  · have := Text.size_takeWhile_le hline lx'.rest
    rw [htext] at hlt
    omega
  · have hgap : ∀ d ∈ c :: t.takeWhile isBlank, isBlank d = true :=
      List.forall_mem_cons.mpr ⟨hblank, fun d hd => List.mem_takeWhile_imp hd⟩
    have hsolid : ∀ d ∈ lx'.rest.head?, isBlank d = false := fun d hd => by
      have hstop := List.head?_dropWhile_not isBlank t
      rwa [← hrest, Option.mem_def.mp hd] at hstop
    have hbody' := Text.body_eq_nil_of_append hgap hline (htext ▸ hbody)
    refine .inr (category_of_comment hidle' (hreads.stack.trans hstack)
      (Text.eq_hash_of_body_nil hbody' hsolid) tk htk ?_)
    have hwithin : ∀ d ∈ c :: t.takeWhile isBlank, (d != '\n') = true := fun d hd =>
      bne_iff_ne.mpr fun heq => hline (heq ▸ hd)
    rw [htext, List.takeWhile_append_of_pos hwithin, Text.size_append] at hlt
    omega

end Root

/-! ## Lines of a source -/

/-- The scan of a source reads a row behind a text, whose tokens come before those of the row. -/
structure ReadsLine (source before : Text) (row : List (Category × Text)) (lx : Lexer) : Prop where
  scans : ∃ lead, (Lexer.start table source).Scans table (lead ++ Token.row before.size row) lx ∧
    Tiles 0 before lead
  text : source = before ++ (rowText row ++ lx.rest)

namespace ReadsLine

variable {source before : Text} {row row' : List (Category × Text)} {lx lx' : Lexer}

theorem idle (h : ReadsLine source before row lx) : lx.Idle := by
  obtain ⟨lead, hscans, -⟩ := h.scans
  exact hscans.idle_right

theorem cursor (h : ReadsLine source before row lx) :
    lx.cursor = before.size + (rowText row).size := by
  obtain ⟨lead, hscans, -⟩ := h.scans
  obtain ⟨read, htext, hcursor⟩ := exists_read_of_scans hscans
  have hread : read = before ++ rowText row := by
    refine List.append_cancel_right (htext.symm.trans ?_)
    rw [List.append_assoc]
    exact h.text
  rw [hcursor, hread, Text.size_append]

/-- A row that is read after another. -/
theorem append (h : ReadsLine source before row lx) (h' : ReadsRow lx row' lx') :
    ReadsLine source before (row ++ row') lx' where
  scans := by
    obtain ⟨lead, hscans, hlead⟩ := h.scans
    have hmore := h'.scans
    rw [h.cursor] at hmore
    refine ⟨lead, ?_, hlead⟩
    rw [Token.row_append, ← List.append_assoc]
    exact hscans.trans hmore
  text := by rw [rowText_append, List.append_assoc, ← h'.text, ← h.text]

/-- The tokens of the row are among those of the source, behind those of what stands before. -/
theorem exists_tokenize_eq (h : ReadsLine source before row lx) :
    ∃ lead, tokenize Language.pdfile.grammar source =
      lead ++ (Token.row before.size row ++ (lx.drain table).1) ∧ Tiles 0 before lead := by
  obtain ⟨lead, hscans, hlead⟩ := h.scans
  exact ⟨lead, by rw [grammar_eq, tokenize_eq_of_scans hscans, List.append_assoc], hlead⟩

/-- The token of the last text of the row is one of the source. -/
theorem exists_last {category : Category} {v : Text}
    (h : ReadsLine source before (row ++ [(category, v)]) lx) :
    ∃ tk ∈ tokenize Language.pdfile.grammar source, tk.category = category ∧
      tk.start = before.size + (rowText row).size := by
  obtain ⟨lead, htokens, -⟩ := h.exists_tokenize_eq
  refine ⟨Token.at category (before.size + (rowText row).size) v, ?_, rfl, rfl⟩
  rw [htokens, Token.row_append]
  simp [Token.row]

/-- Behind a row within a line the scan is at no start of a line. -/
theorem lineStart_eq_false (h : ReadsLine source before row lx) (hne : rowText row ≠ [])
    (hline : '\n' ∉ rowText row) : lx.lineStart = false := by
  obtain ⟨lead, hscans, -⟩ := h.scans
  obtain ⟨u, htext, hstart⟩ := hscans.lineStart_eq
  have hu : u = before ++ rowText row := by
    refine List.append_cancel_right (htext.symm.trans ?_)
    rw [List.append_assoc]
    exact h.text
  obtain ⟨c, hc⟩ := Option.ne_none_iff_exists'.mp (mt List.getLast?_eq_none_iff.mp hne)
  have hlast : c ≠ '\n' := fun heq => hline (heq ▸ List.mem_of_getLast? hc)
  rw [hstart, hu, List.getLast?_append_of_ne_nil before hne, hc]
  simpa using hlast

/-- If blanks follow a row within a line and the line has more than these, they are read, and then
plain text. -/
theorem exists_text (h : ReadsLine source before row lx) (hstack : lx.stack = ⟨root, []⟩)
    (hne : rowText row ≠ []) (hline : '\n' ∉ rowText row) {c : Char} {t : Text}
    (hrest : lx.rest = c :: t) (hc : isBlank c = true) (hbody : lx.rest.body ≠ []) :
    ∃ u d x v lx', lx.rest = u ++ d :: x ∧ '\n' ∉ u ∧ d ≠ '\n' ∧
      ReadsLine source before (row ++ [(whitespace, u)] ++ [(.text, v)]) lx' := by
  obtain ⟨lx₁, hblanks, hrest₁⟩ := exists_readsRow_root_blanks h.idle hstack hrest hc
  have htext : lx.rest = (c :: t.takeWhile isBlank) ++ lx₁.rest := by
    simpa [rowText] using hblanks.text
  have hgap : ∀ d ∈ c :: t.takeWhile isBlank, isBlank d = true :=
    List.forall_mem_cons.mpr ⟨hc, fun d hd => List.mem_takeWhile_imp hd⟩
  rw [htext] at hbody
  have hgapLine := Text.newline_not_mem_of_body hgap hbody
  have hbody₁ : lx₁.rest.body ≠ [] := fun hnil => hbody (Text.body_blanks_append hgap hnil)
  obtain ⟨d, x, hd⟩ := List.exists_cons_of_ne_nil fun hnil : lx₁.rest = [] =>
    hbody₁ (by rw [hnil]; rfl)
  have hsolid : isBlank d = false := by
    have hstop := List.head?_dropWhile_not isBlank t
    rwa [← hrest₁, hd] at hstop
  have hash : d ≠ '#' := by
    rintro rfl
    exact hbody₁ (by rw [hd, Text.body_cons, if_pos (.inl rfl)])
  have hnewline : d ≠ '\n' := by
    rintro rfl
    exact absurd hsolid (by decide)
  have hreads := h.append hblanks
  have hstart : lx₁.lineStart = false := by
    refine hreads.lineStart_eq_false ?_ ?_
    · rw [rowText_append]
      exact List.append_ne_nil_of_left_ne_nil hne _
    · rw [rowText_append, List.mem_append, not_or]
      exact ⟨hline, by simpa [rowText] using hgapLine⟩
  obtain ⟨v, lx₂, hplain⟩ := exists_readsRow_root_text hreads.idle (hblanks.stack.trans hstack)
    hstart hd hsolid hash
  exact ⟨_, d, x, v, lx₂, hd ▸ htext, hgapLine, hnewline, hreads.append hplain⟩

end ReadsLine

/-- The scan of a source gets to a line, behind tokens that tile what stands before it. -/
theorem LineAt.exists_lead {source before line : Text} (h : LineAt source before line) :
    ∃ lead lx, (Lexer.start table source).Scans table lead lx ∧ Tiles 0 before lead ∧
      lx.cursor = before.size ∧ lx.rest = line ∧ lx.stack = ⟨root, []⟩ ∧ lx.lineStart = true := by
  obtain ⟨lx, ⟨lead, hscans⟩, hcursor, hrest, hstack, hline⟩ := h.exists_scan
  rw [grammar_eq] at hscans
  exact ⟨lead, lx, hscans, tiles_of_scans hscans (hrest ▸ h.text), hcursor, hrest, hstack, hline⟩

/-- The first rule to fire at a line reads the row of its groups. -/
theorem LineAt.exists_readsLine {source before line : Text} {ws : List Text}
    {categories : List Category} {rule : BuiltRule} {m : Match} (h : LineAt source before line)
    (hfire : firstFiring? true line rootTable = some (rule, m))
    (haction : rule.action = .groups categories) (hlength : categories.length = ws.length)
    (htext : line = ws.flatten ++ m.rest) (hgroups : m.HasGroups 1 0 ws) :
    ∃ lx, ReadsLine source before ((categories.zip ws).filter (·.2 ≠ [])) lx ∧
      lx.rest = m.rest ∧ lx.stack = Stack.apply ⟨root, []⟩ rule.transition := by
  obtain ⟨lead, lx, hscans, hlead, hcursor, hrest, hstack, hline⟩ := h.exists_lead
  have hfire : firstFiring? lx.lineStart lx.rest (table.rulesOf lx.stack.top) = some (rule, m) := by
    rw [hline, hrest, hstack]
    exact hfire
  have hstep := Lexer.scans_of_firing hscans.idle_right hfire (hrest.trans htext)
  rw [hcursor, hstack, haction, Action.tokens_of_groups hgroups hlength] at hstep
  refine ⟨_, ⟨⟨lead, hscans.trans hstep, hlead⟩, ?_⟩, rfl, rfl⟩
  rw [rowText_zip_filter hlength, h.text, htext]

end Highlighter.Pdfile
