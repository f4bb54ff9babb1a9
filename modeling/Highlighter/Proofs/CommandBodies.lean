import Highlighter.Proofs.Grammar.Lines

/-!
# Command bodies

A directive with a command opens a state for the body of the command.  `bodyFrom` says
where a body ends without any rules: it passes over escapes, and the body ends before
the first other character that stops it, or with the text.

The rules of a body state read an escape, or characters that neither stop a body nor
start an escape, or else leave the state (`Language.BodyStep`).  Each way agrees with
`bodyFrom`, so by induction on a run the state is left where `bodyFrom` says
(`Language.body_ends`).
-/

namespace Highlighter

/-! ## Bodies by the escapes alone -/

/-- The escapes of a body that starts at a position, with their positions, and the position where
the body ends: before the first character outside of them that stops it, or at the end. -/
def bodyFrom (stops : Char → Bool) : Nat → Text → List (Nat × Text) × Nat
  | p, [] => ([], p)
  | p, '\\' :: '\r' :: '\n' :: t =>
      let u := ['\\', '\r', '\n']
      let (units, e) := bodyFrom stops (p + Text.size u) t
      ((p, u) :: units, e)
  | p, '\\' :: c :: t =>
      let u := ['\\', c]
      let (units, e) := bodyFrom stops (p + Text.size u) t
      ((p, u) :: units, e)
  | p, c :: t => if stops c then ([], p) else bodyFrom stops (p + c.utf8Size) t

section Bodies

variable {stops : Char → Bool}

theorem bodyFrom_nil (p : Nat) : bodyFrom stops p [] = ([], p) := by rw [bodyFrom]

theorem bodyFrom_of_escape {p : Nat} {t u rest : Text} (h : t.escape? = some (u, rest)) :
    bodyFrom stops p t =
      ((p, u) :: (bodyFrom stops (p + u.size) rest).1, (bodyFrom stops (p + u.size) rest).2) := by
  fun_cases Text.escape? t with
  | case1 t =>
    cases h
    rw [bodyFrom]
  | case2 c t hc =>
    rw [Text.escape?] at h
    · cases h
      rw [bodyFrom]
      exact hc
    · exact hc
  | case3 t hreturn hsingle =>
    rw [Text.escape?] at h
    · cases h
    · exact hreturn
    · exact hsingle

theorem bodyFrom_cons {c : Char} {t : Text} (h : c ≠ '\\' ∨ t = []) (p : Nat) :
    bodyFrom stops p (c :: t) =
      if stops c then ([], p) else bodyFrom stops (p + c.utf8Size) t := by
  rw [bodyFrom.eq_4]
  · rintro t' rfl rfl
    simp at h
  · rintro d t' rfl rfl
    simp at h

/-- Characters that neither stop a body nor start an escape are passed over. -/
theorem bodyFrom_append {u : Text} (h : ∀ c ∈ u, stops c = false ∧ c ≠ '\\') (p : Nat)
    (t : Text) : bodyFrom stops p (u ++ t) = bodyFrom stops (p + u.size) t := by
  induction u generalizing p with
  | nil => simp
  | cons c u ih =>
    obtain ⟨hc, hne⟩ := h c (List.mem_cons_self ..)
    rw [List.cons_append, bodyFrom_cons (Or.inl hne), hc, if_neg Bool.false_ne_true,
      ih fun d hd => h d (List.mem_cons_of_mem c hd), Text.size_cons, Nat.add_assoc]

theorem bodyFrom_stop {c : Char} (hc : stops c = true) (hne : c ≠ '\\') (p : Nat) (t : Text) :
    bodyFrom stops p (c :: t) = ([], p) := by
  rw [bodyFrom_cons (Or.inl hne), if_pos hc]

/-- A body ends between the ends of the text. -/
theorem bodyFrom_bounds (p : Nat) (t : Text) :
    p ≤ (bodyFrom stops p t).2 ∧ (bodyFrom stops p t).2 ≤ p + t.size := by
  fun_induction bodyFrom stops p t with
  | case1 p => simp
  | case2 p t u units e hrest ih =>
    have hsize : Text.size ('\\' :: '\r' :: '\n' :: t) = Text.size u + Text.size t :=
      Text.size_append u t
    rw [hrest] at ih
    rw [hsize]
    omega
  | case3 p c t _ u units e hrest ih =>
    have hsize : Text.size ('\\' :: c :: t) = Text.size u + Text.size t := Text.size_append u t
    rw [hrest] at ih
    rw [hsize]
    omega
  | case4 => simp
  | case5 p c t _ _ _ ih =>
    rw [Text.size_cons]
    omega

end Bodies

/-! ## Rules of a body -/

namespace Language

/-- The state for the body of a command. -/
def body : Language → String
  | pdfile => Pdfile.shellCommandBody
  | prldevops => Prldevops.commandBody

/-- The characters that end a body, where they are not escaped. -/
def stops : Language → Char → Bool
  | pdfile, c => c == '\n' || c == '#'
  | prldevops, c => c == '\n'

/-- The rules of a body, by what they do at the end of it. -/
inductive BodyRule (l : Language) : BuiltRule → Prop where
  | lineEnd : BodyRule l .closingLineEnd
  | comment : l.stops '#' = true → BodyRule l (.comment .pop)
  | escape : BodyRule l .escape
  /-- A rule that reads on in the body. -/
  | plain {rule : BuiltRule} {p : Pattern} : rule.pattern = p.tied →
      (∀ c, l.stops c = true ∨ c = '\\' → p.accepts c = false) →
      Category.constant ∉ rule.action.categories → rule.transition = .stay → BodyRule l rule

variable (l : Language)

theorem stops_newline : l.stops '\n' = true := by cases l <;> rfl

theorem stops_return : l.stops '\r' = false := by cases l <;> rfl

theorem stops_backslash : l.stops '\\' = false := by cases l <;> rfl

theorem eq_of_stops {c : Char} (hc : l.stops c = true) :
    c = '\n' ∨ c = '#' ∧ l.stops '#' = true := by
  cases l with
  | pdfile =>
    have hc : c = '\n' ∨ c = '#' := by simpa [stops] using hc
    exact hc.imp id fun h => ⟨h, rfl⟩
  | prldevops =>
    have hc : c = '\n' := by simpa [stops] using hc
    exact Or.inl hc

theorem rulesOf_body : l.grammar.rulesOf l.body =
    match l with
    | pdfile => Pdfile.shellCommandTable
    | prldevops => Prldevops.commandBodyTable := by
  cases l with
  | pdfile =>
    rw [grammar, pdfileGrammar_eq]
    rfl
  | prldevops =>
    rw [grammar, prldevopsGrammar_eq]
    rfl

theorem bodyRule_of_mem : ∀ rule ∈ l.grammar.rulesOf l.body, l.BodyRule rule := by
  rw [rulesOf_body]
  cases l with
  | pdfile =>
    have hstops : ∀ c, stops pdfile c = true ∨ c = '\\' → c = '\n' ∨ c = '#' ∨ c = '\\' := by
      intro c hc
      simpa [stops, or_assoc] using hc
    simp only [Pdfile.shellCommandTable, List.forall_mem_cons]
    refine ⟨.lineEnd, .comment rfl, .escape, .plain rfl ?_ (by decide) rfl,
      .plain rfl ?_ (by decide) rfl, by simp⟩
    · intro c hc
      rcases hstops c hc with rfl | rfl | rfl <;> rfl
    · intro c hc
      rcases hstops c hc with rfl | rfl | rfl <;> rfl
  | prldevops =>
    simp only [Prldevops.commandBodyTable, List.forall_mem_cons]
    refine ⟨.lineEnd, .escape, .plain rfl ?_ (by decide) rfl, by simp⟩
    intro c hc
    have hc : c = '\n' ∨ c = '\\' := by simpa [stops] using hc
    rcases hc with rfl | rfl <;> rfl

theorem closingLineEnd_mem_body : .closingLineEnd ∈ l.grammar.rulesOf l.body := by
  rw [rulesOf_body]
  cases l <;> exact List.mem_cons_self ..

theorem comment_mem_body (h : l.stops '#' = true) :
    .comment .pop ∈ l.grammar.rulesOf l.body := by
  rw [rulesOf_body]
  cases l with
  | pdfile => simp [Pdfile.shellCommandTable]
  | prldevops => cases h

theorem escape_mem_body : .escape ∈ l.grammar.rulesOf l.body := by
  rw [rulesOf_body]
  cases l with
  | pdfile => simp [Pdfile.shellCommandTable]
  | prldevops => simp [Prldevops.commandBodyTable]

/-! ## Steps in a body -/

/-- The ways a step in a body goes. -/
inductive BodyStep (l : Language) (lx : Lexer) : Prop where
  /-- It reads an escape. -/
  | escape {u : Text} : lx.rest.escape? = some (u, (lx.step l.grammar).rest) →
      (lx.step l.grammar).pending = [Token.at .constant lx.cursor u] →
      (lx.step l.grammar).stack = lx.stack → BodyStep l lx
  /-- It reads characters that neither end the body nor start an escape. -/
  | plain {u : Text} : (∀ c ∈ u, l.stops c = false ∧ c ≠ '\\') →
      lx.rest = u ++ (lx.step l.grammar).rest →
      (∀ t ∈ (lx.step l.grammar).pending, t.category ≠ .constant) →
      (lx.step l.grammar).stack = lx.stack → BodyStep l lx
  /-- It reads a backslash that nothing comes after. -/
  | last : lx.rest = ['\\'] → (lx.step l.grammar).rest = [] →
      (lx.step l.grammar).pending = [Token.at .text lx.cursor ['\\']] →
      (lx.step l.grammar).stack = lx.stack → BodyStep l lx
  /-- It reads a line end and leaves the body. -/
  | lineEnd {u : Text} : u = [] ∨ u = ['\r'] →
      lx.rest = u ++ '\n' :: (lx.step l.grammar).rest →
      (lx.step l.grammar).pending = [Token.at .whitespace lx.cursor (u ++ ['\n'])] →
      (lx.step l.grammar).stack = lx.stack.apply .pop → BodyStep l lx
  /-- It reads a comment and leaves the body. -/
  | comment {rest : Text} : l.stops '#' = true → lx.rest = '#' :: rest →
      (lx.step l.grammar).pending =
        [Token.at .comment lx.cursor ('#' :: rest.takeWhile (· != '\n'))] →
      (lx.step l.grammar).stack = lx.stack.apply .pop → BodyStep l lx

variable {l} {lx lx' : Lexer} {tokens : List Token}

/-- Where no rule of a body fires, the character is none that has a rule of its own. -/
theorem bodyStep_of_none {c : Char} {rest : Text} (hidle : lx.Idle)
    (hfire : firstFiring? lx.lineStart lx.rest (l.grammar.rulesOf l.body) = none)
    (hc : lx.rest = c :: rest)
    (hstep : lx.step l.grammar = lx.consume [c] rest [Token.at .text lx.cursor [c]] .stay) :
    l.BodyStep lx := by
  have hpending : (lx.step l.grammar).pending = [Token.at .text lx.cursor [c]] := by
    rw [hstep, hidle.pending_consume]
  have hrest : (lx.step l.grammar).rest = rest := by rw [hstep]; rfl
  have hstack : (lx.step l.grammar).stack = lx.stack := by rw [hstep]; rfl
  have hunfired := firstFiring?_eq_none hfire
  rw [hc] at hunfired
  by_cases hslash : c = '\\'
  · subst hslash
    have hescape := hunfired _ l.escape_mem_body
    rw [BuiltRule.fires?_escape, Option.map_eq_none_iff] at hescape
    cases rest with
    | nil => exact .last hc hrest hpending hstack
    | cons d rest => exact absurd hescape (Text.escape?_ne_none d rest)
  · have hstops : l.stops c = false := by
      by_contra h
      rcases l.eq_of_stops (by simpa using h) with rfl | ⟨rfl, hhash⟩
      · have hlineEnd := hunfired _ l.closingLineEnd_mem_body
        rw [BuiltRule.closingLineEnd, BuiltRule.fires?_plain rfl,
          Pattern.find_newline_newline] at hlineEnd
        cases hlineEnd
      · have hcomment := hunfired _ (l.comment_mem_body hhash)
        rw [BuiltRule.fires?_comment] at hcomment
        cases hcomment
    refine .plain (u := [c]) ?_ ?_ ?_ hstack
    · intro d hd
      obtain rfl := List.mem_singleton.mp hd
      exact ⟨hstops, hslash⟩
    · rw [hrest]
      exact hc
    · intro t ht
      rw [hpending] at ht
      obtain rfl := List.mem_singleton.mp ht
      exact (by decide : Category.text ≠ .constant)

/-- In a body every step goes one of the ways. -/
theorem bodyStep (hidle : lx.Idle) (hrest : lx.rest ≠ []) (htop : lx.stack.top = l.body) :
    l.BodyStep lx := by
  rcases lx.step_cases l.grammar hrest with ⟨rule, m, u, hfire, -, hu, -, -, hstep⟩ |
    ⟨c, rest, hfire, hc, hstep⟩
  · obtain ⟨hmem, hm⟩ := firstFiring?_eq_some hfire
    have hrest' : (lx.step l.grammar).rest = m.rest := by rw [hstep]; rfl
    have hstack : (lx.step l.grammar).stack = lx.stack.apply rule.transition := by rw [hstep]; rfl
    rw [htop] at hmem
    cases l.bodyRule_of_mem rule hmem with
    | lineEnd =>
      have hpending := Lexer.pending_of_token hidle rfl hstep
      rcases BuiltRule.fires?_closingLineEnd_eq_some hm with h | h
      · obtain rfl : ['\n'] = u := List.append_cancel_right (h.symm.trans hu)
        exact .lineEnd (Or.inl rfl) (hrest' ▸ h) hpending hstack
      · obtain rfl : ['\r', '\n'] = u := List.append_cancel_right (h.symm.trans hu)
        exact .lineEnd (Or.inr rfl) (hrest' ▸ h) hpending hstack
    | comment hhash =>
      obtain ⟨rest, htext, hm'⟩ := BuiltRule.fires?_comment_eq_some hm
      rw [htext, hm'] at hu
      obtain rfl := eq_cons_takeWhile hu
      exact .comment hhash htext (Lexer.pending_of_token hidle rfl hstep) hstack
    | escape =>
      obtain ⟨v, hescape⟩ := BuiltRule.fires?_escape_eq_some hm
      obtain rfl : u = v :=
        List.append_cancel_right (hu.symm.trans (Text.escape?_cases hescape).1)
      exact .escape (hrest' ▸ hescape) (Lexer.pending_of_token hidle rfl hstep) hstack
    | plain hp haccepts hcategories htransition =>
      refine .plain (u := u) (fun c hc => ?_) (hrest' ▸ hu)
        (Lexer.category_ne_of_step hidle hcategories (by decide) hstep)
        (by rw [hstack, htransition]; rfl)
      have hread := BuiltRule.accepts_of_fires? hp hm hu c hc
      have hc' : ¬ (l.stops c = true ∨ c = '\\') := by
        intro h
        rw [haccepts c h] at hread
        cases hread
      exact ⟨by simpa using fun h => hc' (Or.inl h), fun h => hc' (Or.inr h)⟩
  · rw [htop] at hfire
    exact bodyStep_of_none hidle hfire hc hstep

/-! ## Runs in a body -/

/-- The escapes and the end of the body that a scan stands in. -/
def bodyAt (l : Language) (lx : Lexer) : List (Nat × Text) × Nat :=
  bodyFrom l.stops lx.cursor lx.rest

/-- The token of an escape. -/
def unitToken (unit : Nat × Text) : Token := Token.at .constant unit.1 unit.2

/-- A step that reads on in the body. -/
structure StaysInBody (l : Language) (lx : Lexer) (units : List (Nat × Text)) : Prop where
  stack : (lx.step l.grammar).stack = lx.stack
  /-- The body from before the step is the escapes of the step, and the body from after it. -/
  body : l.bodyAt lx =
    (units ++ (l.bodyAt (lx.step l.grammar)).1, (l.bodyAt (lx.step l.grammar)).2)
  constants : (lx.step l.grammar).pending.filter (·.category == .constant) = units.map unitToken

/-- A step that leaves the body. -/
structure LeavesBody (l : Language) (lx : Lexer) : Prop where
  stack : (lx.step l.grammar).stack = lx.stack.apply .pop
  units : (l.bodyAt lx).1 = []
  /-- The step goes past the end of the body. -/
  past : (l.bodyAt lx).2 < (lx.step l.grammar).cursor
  constants : (lx.step l.grammar).pending.filter (·.category == .constant) = []
  /-- At a `#` the step reads a comment. -/
  comment : ∀ read rest : Text, lx.cursor = read.size →
    (read ++ lx.rest).dropBytes (l.bodyAt lx).2 = '#' :: rest →
    lx.cursor = (l.bodyAt lx).2 ∧ (lx.step l.grammar).pending =
      [Token.at .comment lx.cursor ('#' :: rest.takeWhile (· != '\n'))]

theorem BodyStep.stays_or_leaves (h : l.BodyStep lx) (hidle : lx.Idle) (hrest : lx.rest ≠ []) :
    (∃ units, l.StaysInBody lx units) ∨ l.LeavesBody lx := by
  cases h with
  | @escape u hescape hpending hstack =>
    have hcursor := Lexer.cursor_step l.grammar hidle hrest (Text.escape?_cases hescape).1
    refine Or.inl ⟨[(lx.cursor, u)], hstack, ?_, by rw [hpending]; rfl⟩
    rw [bodyAt, bodyFrom_of_escape hescape, bodyAt, hcursor]
    rfl
  | @plain u hplain htext hpending hstack =>
    have hcursor := Lexer.cursor_step l.grammar hidle hrest htext
    refine Or.inl ⟨[], hstack, ?_, ?_⟩
    · rw [bodyAt, htext, bodyFrom_append hplain, bodyAt, hcursor]
      rfl
    · simpa using hpending
  | last htext hend hpending hstack =>
    have hcursor := Lexer.cursor_step l.grammar hidle hrest (u := ['\\']) (by rw [htext, hend]; rfl)
    refine Or.inl ⟨[], hstack, ?_, by rw [hpending]; rfl⟩
    rw [bodyAt, htext, bodyFrom_cons (Or.inr rfl), l.stops_backslash, bodyAt, hend, hcursor]
    rfl
  | @lineEnd u hu htext hpending hstack =>
    have hplain : ∀ c ∈ u, l.stops c = false ∧ c ≠ '\\' := by
      rcases hu with rfl | rfl
      · simp
      · simpa using l.stops_return
    have hbody : l.bodyAt lx = ([], lx.cursor + u.size) := by
      rw [bodyAt, htext, bodyFrom_append hplain, bodyFrom_stop l.stops_newline (by decide)]
    have hcursor := Lexer.cursor_step l.grammar hidle hrest (u := u ++ ['\n'])
      (by rw [htext]; simp)
    refine Or.inr ⟨hstack, by rw [hbody], ?_, by rw [hpending]; rfl, ?_⟩
    · rw [hbody, hcursor, Text.size_append]
      simp [Char.utf8Size_pos]
    · intro read rest hread hhash
      rw [hbody, htext, hread, ← Text.size_append, ← List.append_assoc,
        Text.dropBytes_size_append] at hhash
      cases hhash
  | @comment rest hstops htext hpending hstack =>
    have hbody : l.bodyAt lx = ([], lx.cursor) := by
      rw [bodyAt, htext, bodyFrom_stop hstops (by decide)]
    have hlt := Lexer.cursor_lt_step l.grammar hidle hrest
    refine Or.inr ⟨hstack, by rw [hbody], by rw [hbody]; exact hlt, by rw [hpending]; rfl, ?_⟩
    intro read rest' hread hhash
    rw [hbody, hread, Text.dropBytes_size_append, htext] at hhash
    cases hhash
    exact ⟨by rw [hbody], hpending⟩

/-- A run that does not go past the end of the body stays in the body, and its constants are the
escapes it has read. -/
theorem bodyAt_of_scans (h : lx.Scans l.grammar tokens lx') (htop : lx.stack.top = l.body)
    (hle : lx'.cursor ≤ (l.bodyAt lx).2) :
    lx'.stack = lx.stack ∧ ∃ units, l.bodyAt lx = (units ++ (l.bodyAt lx').1, (l.bodyAt lx').2) ∧
      tokens.filter (·.category == .constant) = units.map unitToken := by
  induction h with
  | refl _ => exact ⟨rfl, [], rfl, rfl⟩
  | @step lx lx' tokens hidle hrest hscans ih =>
    rcases (bodyStep hidle hrest htop).stays_or_leaves hidle hrest with ⟨units, hstays⟩ | hleaves
    · have hnext : l.bodyAt (lx.step l.grammar).settle = l.bodyAt (lx.step l.grammar) := rfl
      have hend : (l.bodyAt lx).2 = (l.bodyAt (lx.step l.grammar)).2 := by rw [hstays.body]
      have htop' : (lx.step l.grammar).settle.stack.top = l.body := by
        rw [Lexer.settle_stack, hstays.stack, htop]
      obtain ⟨hstack, more, hbody, hconstants⟩ := ih htop' (by rw [hnext, ← hend]; exact hle)
      refine ⟨by rw [hstack, Lexer.settle_stack, hstays.stack], units ++ more, ?_, ?_⟩
      · rw [hstays.body, ← hnext, hbody, List.append_assoc]
      · rw [List.filter_append, hstays.constants, hconstants, List.map_append]
    · have hpast := hleaves.past
      have hbounds := hscans.bounds.1
      rw [Lexer.settle_cursor] at hbounds
      omega

/-! ## The end of a body -/

/-- The constants among some tokens that start between two positions. -/
def constantsBetween (q e : Nat) (tokens : List Token) : List Token :=
  tokens.filter fun t => t.category == .constant && decide (q ≤ t.start ∧ t.start < e)

section Constants

variable {q e : Nat}

theorem constantsBetween_append (tokens tokens' : List Token) :
    constantsBetween q e (tokens ++ tokens') =
      constantsBetween q e tokens ++ constantsBetween q e tokens' :=
  List.filter_append ..

theorem constantsBetween_of_inside (h : ∀ t ∈ tokens, q ≤ t.start ∧ t.start < e) :
    constantsBetween q e tokens = tokens.filter (·.category == .constant) := by
  refine List.filter_congr fun t ht => ?_
  rw [decide_eq_true (h t ht), Bool.and_true]

theorem constantsBetween_of_outside (h : ∀ t ∈ tokens, t.start < q ∨ e ≤ t.start) :
    constantsBetween q e tokens = [] := by
  refine List.filter_eq_nil_iff.mpr fun t ht => ?_
  have := h t ht
  rw [decide_eq_false (by omega), Bool.and_false]
  exact Bool.false_ne_true

theorem constantsBetween_eq_nil (h : tokens.filter (·.category == .constant) = []) :
    constantsBetween q e tokens = [] := by
  refine List.filter_eq_nil_iff.mpr fun t ht => ?_
  have hother := List.filter_eq_nil_iff.mp h t ht
  rw [Bool.not_eq_true] at hother
  rw [hother, Bool.false_and]
  exact Bool.false_ne_true

end Constants

/-- Where the body ends that a scan has just entered, and what its escapes become. -/
structure BodyEnds (l : Language) (source : Text) (entered : Lexer) : Prop where
  /-- The state of the body is entered on the entry state. -/
  stack : entered.stack = ⟨l.body, [l.grammar.entry]⟩
  /-- Up to the end of the body the state is not left. -/
  stays : ∀ tokens lx, entered.Scans l.grammar tokens lx → lx.cursor ≤ (l.bodyAt entered).2 →
    lx.stack = entered.stack
  /-- The step that goes past the end leaves the state.  At a `#` it reads a comment. -/
  leaves : ∀ tokens lx, entered.Scans l.grammar tokens lx → lx.rest ≠ [] →
    lx.cursor ≤ (l.bodyAt entered).2 → (l.bodyAt entered).2 < (lx.step l.grammar).cursor →
    (lx.step l.grammar).stack = ⟨l.grammar.entry, []⟩ ∧
      ∀ rest, source.dropBytes (l.bodyAt entered).2 = '#' :: rest →
        lx.cursor = (l.bodyAt entered).2 ∧ (lx.step l.grammar).pending =
          [Token.at .comment (l.bodyAt entered).2 ('#' :: rest.takeWhile (· != '\n'))]
  /-- There is such a step, unless the body ends with the source. -/
  reached : (l.bodyAt entered).2 < source.size → ∃ tokens lx, entered.Scans l.grammar tokens lx ∧
    lx.rest ≠ [] ∧ lx.cursor ≤ (l.bodyAt entered).2 ∧
    (l.bodyAt entered).2 < (lx.step l.grammar).cursor
  /-- The constants of the body are its escapes. -/
  constants : constantsBetween entered.cursor (l.bodyAt entered).2 (tokenize l.grammar source) =
    (l.bodyAt entered).1.map unitToken
  /-- A backslash at the end of the source ends an escape of the body, or it is plain text. -/
  last : ∀ before, source = before ++ ['\\'] → entered.cursor ≤ before.size →
    (l.bodyAt entered).2 = source.size →
    (∃ unit ∈ (l.bodyAt entered).1, unit.1 + unit.2.size = source.size) ∨
      Token.at .text before.size ['\\'] ∈ tokenize l.grammar source

/-- A match that enters a body does so in the entry state. -/
theorem stack_of_push {rule : BuiltRule} {m : Match} (l : Language)
    (hstack : lx.stack.OnLevels l.grammar l.innerStates)
    (hfire : firstFiring? lx.lineStart lx.rest (l.grammar.rulesOf lx.stack.top) = some (rule, m))
    (hpush : rule.transition = .push l.body) :
    (lx.step l.grammar).stack = ⟨l.body, [l.grammar.entry]⟩ := by
  have hstep : (lx.step l.grammar).stack = lx.stack.apply (.push l.body) := by
    rw [Lexer.step, hfire, ← hpush]
    rfl
  rw [hstep]
  generalize lx.stack = stack at hstack hfire
  cases hstack with
  | entry => rfl
  | inner hstate =>
    rcases l.twoLevel.inner _ hstate rule (firstFiring?_eq_some hfire).1 with h | h <;>
      rw [hpush] at h <;> cases h

section Ends

variable {source : Text} {entered : Lexer} {before : List Token}

/-- The step that goes past the end of a body leaves the body. -/
theorem leavesBody_of_crossing (htop : entered.stack.top = l.body)
    (h : entered.Scans l.grammar tokens lx) (hrest : lx.rest ≠ [])
    (hle : lx.cursor ≤ (l.bodyAt entered).2)
    (hlt : (l.bodyAt entered).2 < (lx.step l.grammar).cursor) :
    l.LeavesBody lx ∧ (l.bodyAt lx).2 = (l.bodyAt entered).2 := by
  obtain ⟨hstack, units, hbody, -⟩ := bodyAt_of_scans h htop hle
  have hend : (l.bodyAt lx).2 = (l.bodyAt entered).2 := by rw [hbody]
  have hidle := h.idle_right
  rcases (bodyStep hidle hrest (hstack ▸ htop)).stays_or_leaves hidle hrest with
    ⟨_, hstays⟩ | hleaves
  · have hbounds : (lx.step l.grammar).cursor ≤ (l.bodyAt (lx.step l.grammar)).2 :=
      (bodyFrom_bounds _ _).1
    have hstep : (l.bodyAt lx).2 = (l.bodyAt (lx.step l.grammar)).2 := by rw [hstays.body]
    omega
  · exact ⟨hleaves, hend⟩

/-- The constants of a run through the body. -/
theorem constants_of_body (htop : entered.stack.top = l.body) {end_ : Lexer}
    (h : entered.Scans l.grammar tokens end_) (hend : end_.rest = []) :
    constantsBetween entered.cursor (l.bodyAt entered).2 tokens =
      (l.bodyAt entered).1.map unitToken := by
  have hinside : ∀ {tokens lx}, entered.Scans l.grammar tokens lx →
      lx.cursor ≤ (l.bodyAt entered).2 → ∀ t ∈ tokens,
        entered.cursor ≤ t.start ∧ t.start < (l.bodyAt entered).2 := by
    intro tokens lx h hle t ht
    have hbounds := h.bounds.2 t ht
    omega
  by_cases hle : end_.cursor ≤ (l.bodyAt entered).2
  · obtain ⟨-, units, hbody, hconstants⟩ := bodyAt_of_scans h htop hle
    have hnil : (l.bodyAt end_).1 = [] := by rw [bodyAt, hend, bodyFrom_nil]
    rw [constantsBetween_of_inside (hinside h hle), hconstants, hbody, hnil, List.append_nil]
  · have hentered : entered.cursor ≤ (l.bodyAt entered).2 := (bodyFrom_bounds _ _).1
    obtain ⟨first, middle, after, hfirst, hrest, hcursor, hlt, hafter, rfl⟩ :=
      h.exists_crossing hentered (by omega)
    obtain ⟨hleaves, -⟩ := leavesBody_of_crossing htop hfirst hrest hcursor hlt
    obtain ⟨-, units, hbody, hconstants⟩ := bodyAt_of_scans hfirst htop hcursor
    have hpast : ∀ t ∈ after, t.start < entered.cursor ∨ (l.bodyAt entered).2 ≤ t.start := by
      intro t ht
      have hbounds := hafter.bounds.2 t ht
      rw [Lexer.settle_cursor] at hbounds
      omega
    have hunits : (l.bodyAt entered).1 = units := by rw [hbody, hleaves.units, List.append_nil]
    rw [constantsBetween_append, constantsBetween_append,
      constantsBetween_of_inside (hinside hfirst hcursor), hconstants,
      constantsBetween_eq_nil hleaves.constants, constantsBetween_of_outside hpast, hunits,
      List.append_nil, List.append_nil]

variable (hscans : (Lexer.start l.grammar source).Scans l.grammar before entered)
include hscans

theorem cursor_eq_size (h : entered.Scans l.grammar tokens lx) (hend : lx.rest = []) :
    lx.cursor = source.size := by
  obtain ⟨read, htext, hcursor⟩ := exists_read_of_scans (hscans.trans h)
  rw [hcursor, htext, hend, List.append_nil]

theorem leaves_of_crossing (hstack : entered.stack = ⟨l.body, [l.grammar.entry]⟩)
    (h : entered.Scans l.grammar tokens lx) (hrest : lx.rest ≠ [])
    (hle : lx.cursor ≤ (l.bodyAt entered).2)
    (hlt : (l.bodyAt entered).2 < (lx.step l.grammar).cursor) :
    (lx.step l.grammar).stack = ⟨l.grammar.entry, []⟩ ∧
      ∀ rest, source.dropBytes (l.bodyAt entered).2 = '#' :: rest →
        lx.cursor = (l.bodyAt entered).2 ∧ (lx.step l.grammar).pending =
          [Token.at .comment (l.bodyAt entered).2 ('#' :: rest.takeWhile (· != '\n'))] := by
  have htop : entered.stack.top = l.body := by rw [hstack]
  obtain ⟨hleaves, hend⟩ := leavesBody_of_crossing htop h hrest hle hlt
  obtain ⟨read, htext, hcursor⟩ := exists_read_of_scans (hscans.trans h)
  refine ⟨?_, fun rest hhash => ?_⟩
  · rw [hleaves.stack, (bodyAt_of_scans h htop hle).1, hstack]
    rfl
  · rw [← hend, htext] at hhash
    obtain ⟨hstart, hpending⟩ := hleaves.comment read rest hcursor hhash
    rw [← hend, ← hstart]
    exact ⟨rfl, hpending⟩

/-- The backslash at the end of the source. -/
theorem last_of_body (hstack : entered.stack = ⟨l.body, [l.grammar.entry]⟩) {b : Text}
    (hsource : source = b ++ ['\\']) (hle : entered.cursor ≤ b.size)
    (hbody : (l.bodyAt entered).2 = source.size) :
    (∃ unit ∈ (l.bodyAt entered).1, unit.1 + unit.2.size = source.size) ∨
      Token.at .text b.size ['\\'] ∈ tokenize l.grammar source := by
  have htop : entered.stack.top = l.body := by rw [hstack]
  have hsize : source.size = b.size + 1 := by rw [hsource, Text.size_append]; rfl
  obtain ⟨tokens, end_, hall, hend⟩ :=
    Lexer.exists_scans l.grammar entered (hscans.idle_right)
  have hcursor := cursor_eq_size hscans hall hend
  -- The step that reads the backslash reads the rest of the source.
  obtain ⟨first, lx, after, hfirst, hrest, hbefore, hlt, hafter, -⟩ :=
    hall.exists_crossing hle (by omega)
  have hidle := hfirst.idle_right
  have hstep : (lx.step l.grammar).cursor = source.size := by
    have hbounds := hafter.bounds.1
    rw [Lexer.settle_cursor] at hbounds
    omega
  obtain ⟨read, htext, hread⟩ := exists_read_of_scans (hscans.trans hfirst)
  have hnil : (lx.step l.grammar).rest = [] := by
    obtain ⟨read', htext', hread'⟩ :=
      exists_read_of_scans ((hscans.trans hfirst).trans
        (.step hidle hrest (.refl (Lexer.idle_settle _))))
    rw [Lexer.settle_rest] at htext'
    rw [Lexer.settle_cursor] at hread'
    have hempty : source.size = read'.size + (lx.step l.grammar).rest.size := by
      rw [← Text.size_append, ← htext']
    exact Text.size_eq_zero_iff.mp (by omega)
  have hle' : lx.cursor ≤ (l.bodyAt entered).2 := by omega
  obtain ⟨hopen, units, hunits, -⟩ := bodyAt_of_scans hfirst htop hle'
  have hway := bodyStep hidle hrest (hopen ▸ htop)
  have hkept : (lx.step l.grammar).stack = lx.stack := by
    rcases hway.stays_or_leaves hidle hrest with ⟨_, hstays⟩ | hleaves
    · exact hstays.stack
    · have hpast := hleaves.past
      have hsame : (l.bodyAt lx).2 = (l.bodyAt entered).2 := by rw [hunits]
      omega
  have hpop : lx.stack.apply .pop ≠ lx.stack := by
    rw [hopen, hstack]
    exact fun h => absurd (congrArg Stack.below h) (by simp [Stack.apply])
  cases hway with
  | @escape u hescape _ _ =>
    have hu := Lexer.cursor_step l.grammar hidle hrest (Text.escape?_cases hescape).1
    refine Or.inl ⟨(lx.cursor, u), ?_, by rw [← hu, hstep]⟩
    rw [hunits, bodyAt, bodyFrom_of_escape hescape]
    exact List.mem_append_right _ (List.mem_cons_self ..)
  | @plain u hplain hu _ _ =>
    rw [hnil, List.append_nil] at hu
    have hlast : u.getLast? = some '\\' := by
      have hne : u ≠ [] := hu ▸ hrest
      rw [← List.getLast?_append_of_ne_nil read hne, ← hu, ← htext, hsource]
      simp
    exact absurd rfl (hplain '\\' (List.mem_of_getLast? hlast)).2
  | last hslash _ hpending _ =>
    have hb : read = b := by
      rw [hslash, hsource] at htext
      exact List.append_cancel_right htext.symm
    refine Or.inr (mem_tokenize_of_scans (hscans.trans hfirst) hrest _ ?_)
    rw [hpending, hread, hb]
    exact List.mem_singleton_self _
  | lineEnd _ _ _ hleft => exact absurd (hleft.symm.trans hkept) hpop
  | comment _ _ _ hleft => exact absurd (hleft.symm.trans hkept) hpop

end Ends

/-- A match that enters the state for the body of a command is followed by the body, which ends
where `bodyFrom` says. -/
theorem body_ends (l : Language) (source : Text) (tokens : List Token) (lx : Lexer)
    (rule : BuiltRule) (m : Match)
    (hscans : (Lexer.start l.grammar source).Scans l.grammar tokens lx)
    (hfire : firstFiring? lx.lineStart lx.rest (l.grammar.rulesOf lx.stack.top) = some (rule, m))
    (hpush : rule.transition = .push l.body) :
    l.BodyEnds source (lx.step l.grammar).settle := by
  have hstack : (lx.step l.grammar).settle.stack = ⟨l.body, [l.grammar.entry]⟩ :=
    stack_of_push l (hscans.onLevels l.twoLevel .entry) hfire hpush
  have htop : (lx.step l.grammar).settle.stack.top = l.body := by rw [hstack]
  have hrest : lx.rest ≠ [] := by
    intro hnil
    obtain ⟨u, hu, htext, -⟩ := BuiltRule.fires?_spans (firstFiring?_eq_some hfire).2
    rw [hnil] at htext
    exact hu (List.append_eq_nil_iff.mp htext.symm).1
  have hentered := hscans.trans (.step hscans.idle_right hrest (.refl (Lexer.idle_settle _)))
  obtain ⟨more, end_, hall, hend⟩ :=
    Lexer.exists_scans l.grammar (lx.step l.grammar).settle (Lexer.idle_settle _)
  refine ⟨hstack, fun _ _ h hle => (bodyAt_of_scans h htop hle).1,
    fun _ _ h hne hle hlt => leaves_of_crossing hentered hstack h hne hle hlt, fun hlt => ?_, ?_,
    fun b hb hle hbody => last_of_body hentered hstack hb hle hbody⟩
  · obtain ⟨first, middle, _, hfirst, hne, hle, hstep, -⟩ :=
      hall.exists_crossing (bodyFrom_bounds _ _).1 (cursor_eq_size hentered hall hend ▸ hlt)
    exact ⟨first, middle, hfirst, hne, hle, hstep⟩
  · have hbefore : ∀ t ∈ tokens ++ ((lx.step l.grammar).pending ++ []),
        t.start < (lx.step l.grammar).settle.cursor ∨
          (l.bodyAt (lx.step l.grammar).settle).2 ≤ t.start :=
      fun t ht => Or.inl (hentered.bounds.2 t ht).2
    rw [tokenize_of_scans (hentered.trans hall) hend, constantsBetween_append,
      constantsBetween_of_outside hbefore, constants_of_body htop hall hend, List.nil_append]

/-- A command that is an escaped `#`, and a comment after it. -/
theorem body_ends_comment :
    let source : Text := ['D', 'O', ' ', '\\', '#', '#']
    let lx := Lexer.start pdfile.grammar source
    let rule : BuiltRule := ⟨Pdfile.shellStart.tied, true, none, .groups [.keyword, .whitespace],
      .push Pdfile.shellCommandBody⟩
    let m : Match := ⟨0, 3, [⟨2, 2, 3⟩, ⟨1, 0, 2⟩], ['\\', '#', '#']⟩
    lx.Scans pdfile.grammar [] lx ∧
      firstFiring? lx.lineStart lx.rest (pdfile.grammar.rulesOf lx.stack.top) = some (rule, m) ∧
      rule.transition = .push pdfile.body ∧
      pdfile.BodyEnds source (lx.step pdfile.grammar).settle := by
  intro source lx rule m
  have hscans : lx.Scans pdfile.grammar [] lx := .refl rfl
  have hgrammar : pdfile.grammar = Pdfile.table := pdfileGrammar_eq
  have hrules : pdfile.grammar.rulesOf lx.stack.top = Pdfile.rootTable := by
    simp only [lx, Lexer.start, hgrammar]
    rfl
  have hroot : firstFiring? true source Pdfile.rootTable = some (rule, m) := by decide +kernel
  have hfire : firstFiring? lx.lineStart lx.rest (pdfile.grammar.rulesOf lx.stack.top) =
      some (rule, m) := hrules ▸ hroot
  exact ⟨hscans, hfire, rfl, body_ends pdfile source [] lx rule m hscans hfire rfl⟩

end Language

end Highlighter
