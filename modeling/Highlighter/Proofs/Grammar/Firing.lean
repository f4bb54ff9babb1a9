import Mathlib.Data.List.TakeWhile
import Highlighter.Proofs.Grammar.Runs
import Highlighter.Proofs.Pattern.Locality
import Highlighter.Proofs.Scan.Run

/-!
# Where single rules fire

What the rules that the tables share fire at, and what they read.  The pattern of a
rule bounds the characters it reads (`BuiltRule.accepts_of_fires?`), and the rules for
blanks, comments, signs, line ends, escapes and single characters are described
exactly.
-/

namespace Highlighter

/-! ## Reading -/

/-- A rule reads only characters its pattern accepts. -/
theorem BuiltRule.accepts_of_fires? {rule : BuiltRule} {p : Pattern} (hp : rule.pattern = p.tied)
    {lineStart : Bool} {t u : Text} {m : Match} (hm : rule.fires? lineStart t = some m)
    (hu : t = u ++ m.rest) : ∀ c ∈ u, p.accepts c = true := by
  obtain ⟨-, hfind, -⟩ := BuiltRule.fires?_eq_some_iff.mp hm
  rw [hp, Pattern.find_tied] at hfind
  have hstart : (Place.start t).After [] := ⟨rfl, rfl⟩
  obtain ⟨v, hspans, hall⟩ := Pattern.matchAt_spans hstart hfind
  have htext : t = v ++ m.rest := hspans.text
  obtain rfl : u = v := List.append_cancel_right (hu ▸ htext)
  exact hall

/-- A rule without a lookahead fires where its pattern has a match. -/
theorem BuiltRule.exists_fires {p : Pattern} (hp : p.consumes = true) {t : Text} {e : Place}
    (he : e ∈ p.run (Place.start t)) (lineStart : Bool) (action : Action) (s : Transition) :
    ∃ m, (⟨p.tied, lineStart, none, action, s⟩ : BuiltRule).fires? true t = some m := by
  obtain ⟨e', he'⟩ := Option.ne_none_iff_exists'.mp
    (mt List.head?_eq_none_iff.mp (List.ne_nil_of_mem he))
  have hfind : p.tied.find t = some ⟨0, e'.offset, e'.captures, e'.rest⟩ := by
    rw [Pattern.find_tied, Pattern.matchAt, he']
    rfl
  have htied : p.tied.consumes = true := by simp [Pattern.tied, Pattern.consumes, hp]
  exact ⟨_, fires?_eq_some_iff.mpr
    ⟨fun _ => rfl, hfind, Pattern.isEmpty_of_find htied hfind, by simp⟩⟩

/-- What was read before the end of a run. -/
theorem eq_cons_takeWhile {p : Char → Bool} {c : Char} {u rest : Text}
    (h : c :: rest = u ++ rest.dropWhile p) : u = c :: rest.takeWhile p := by
  refine List.append_cancel_right (h.symm.trans ?_)
  rw [List.cons_append, List.takeWhile_append_dropWhile]

/-- The first rule to fire is the only one that fires. -/
theorem firstFiring?_of_others {lineStart : Bool} {t : Text} {rule : BuiltRule} {m : Match}
    (hm : rule.fires? lineStart t = some m) : ∀ {rules : List BuiltRule}, rule ∈ rules →
      (∀ r ∈ rules, r = rule ∨ r.fires? lineStart t = none) →
      firstFiring? lineStart t rules = some (rule, m)
  | r :: rules, hmem, hothers => by
    rw [firstFiring?]
    rcases hothers r (List.mem_cons_self ..) with rfl | hr
    · rw [hm]
    · rw [hr]
      refine firstFiring?_of_others hm ?_ fun r' hr' => hothers r' (List.mem_cons_of_mem r hr')
      rcases List.mem_cons.mp hmem with rfl | hmem
      · rw [hm] at hr
        cases hr
      · exact hmem

/-- What an idle scan finds at a rule that makes one token. -/
theorem Lexer.pending_of_token {g : Grammar} {lx : Lexer} {rule : BuiltRule} {m : Match} {u : Text}
    {category : Category} (hidle : lx.Idle) (haction : rule.action = .token category)
    (hstep : lx.step g = lx.consume u m.rest (rule.action.tokens lx.cursor u m)
      rule.transition) :
    (lx.step g).pending = [Token.at category lx.cursor u] := by
  rw [hstep, hidle.pending_consume, haction]
  rfl

/-- A rule without a category makes no token of it, unless it is the category of plain text. -/
theorem Lexer.category_ne_of_step {g : Grammar} {lx : Lexer} {rule : BuiltRule} {m : Match}
    {u : Text} {category : Category} (hidle : lx.Idle)
    (hrule : category ∉ rule.action.categories) (htext : category ≠ .text)
    (hstep : lx.step g = lx.consume u m.rest (rule.action.tokens lx.cursor u m)
      rule.transition) :
    ∀ t ∈ (lx.step g).pending, t.category ≠ category := by
  intro t ht hcategory
  rw [hstep, hidle.pending_consume] at ht
  rcases Action.category_of_mem_tokens t ht with hmem | hplain
  · exact hrule (hcategory ▸ hmem)
  · exact htext (hcategory.symm.trans hplain)

/-! ## Runs -/

/-- Where the rule for blanks is the first, a blank starts a run of blanks. -/
theorem firstFiring?_blanks (lineStart : Bool) (t : Text) (others : List BuiltRule) {c : Char}
    (hc : isBlank c = true) :
    firstFiring? lineStart (c :: t) (BuiltRule.blanks :: others) =
      some (BuiltRule.blanks,
        ⟨0, Text.size (c :: t.takeWhile isBlank), [], t.dropWhile isBlank⟩) := by
  have hfires : BuiltRule.blanks.fires? lineStart (c :: t) =
      some ⟨0, Text.size (c :: t.takeWhile isBlank), [], t.dropWhile isBlank⟩ := by
    rw [BuiltRule.blanks, BuiltRule.fires?_plain rfl, Pattern.plus, Pattern.find_run,
      if_pos (by exact hc)]
    rfl
  rw [firstFiring?, hfires]

/-- A comment goes on up to the end of its line. -/
theorem BuiltRule.fires?_comment (t : Transition) (lineStart : Bool) (rest : Text) :
    (BuiltRule.comment t).fires? lineStart ('#' :: rest) =
      some ⟨0, Text.size ('#' :: rest.takeWhile (· != '\n')), [],
        rest.dropWhile (· != '\n')⟩ := by
  rw [BuiltRule.comment, BuiltRule.fires?_plain rfl, Pattern.comment, Pattern.find_run,
    if_pos (by decide)]
  rfl

/-- Where the rule for blanks fires. -/
theorem BuiltRule.fires?_blanks_eq_some {lineStart : Bool} {t : Text} {m : Match}
    (h : BuiltRule.blanks.fires? lineStart t = some m) :
    ∃ c rest, t = c :: rest ∧ isBlank c = true ∧ m.rest = rest.dropWhile isBlank := by
  rw [blanks, fires?_plain rfl] at h
  exact Pattern.find_run_eq_some h

/-- The rule for blanks does not fire before a solid character. -/
theorem BuiltRule.fires?_blanks_eq_none {lineStart : Bool} {t : Text}
    (h : ∀ c ∈ t.head?, isBlank c = false) : BuiltRule.blanks.fires? lineStart t = none := by
  refine Option.eq_none_iff_forall_ne_some.mpr fun m hm => ?_
  obtain ⟨c, rest, rfl, hc, -⟩ := fires?_blanks_eq_some hm
  rw [h c rfl] at hc
  cases hc

/-- Where the rule for comments fires. -/
theorem BuiltRule.fires?_comment_eq_some {s : Transition} {lineStart : Bool} {t : Text} {m : Match}
    (h : (BuiltRule.comment s).fires? lineStart t = some m) :
    ∃ rest, t = '#' :: rest ∧ m.rest = rest.dropWhile (· != '\n') := by
  rw [comment, fires?_plain rfl] at h
  obtain ⟨c, rest, htext, hc, hrest⟩ := Pattern.find_run_eq_some h
  obtain rfl : c = '#' := by simpa [CharSet.holds] using hc
  exact ⟨rest, htext, hrest⟩

/-- The rule for comments fires at a `#` only. -/
theorem BuiltRule.fires?_comment_eq_none {s : Transition} {lineStart : Bool} {t : Text}
    (h : ∀ c ∈ t.head?, c ≠ '#') : (BuiltRule.comment s).fires? lineStart t = none := by
  refine Option.eq_none_iff_forall_ne_some.mpr fun m hm => ?_
  obtain ⟨rest, rfl, -⟩ := fires?_comment_eq_some hm
  exact h '#' rfl rfl

/-- Where the rule for signs fires. -/
theorem BuiltRule.fires?_signs_eq_some {lineStart : Bool} {t : Text} {m : Match}
    (h : BuiltRule.signs.fires? lineStart t = some m) :
    ∃ c rest, t = c :: rest ∧ CharSet.sign.holds c = true ∧
      m.rest = rest.dropWhile CharSet.sign.holds := by
  rw [signs, fires?_plain rfl] at h
  exact Pattern.find_run_eq_some h

/-! ## Single characters, line ends and escapes -/

/-- The rule for any character reads one. -/
theorem BuiltRule.fires?_anyChar_eq_some {lineStart : Bool} {t : Text} {m : Match}
    (h : BuiltRule.anyChar.fires? lineStart t = some m) : ∃ c, t = c :: m.rest := by
  rw [anyChar, fires?_plain rfl] at h
  cases t with
  | nil => cases h
  | cons c rest =>
    rw [Pattern.find_inLine] at h
    split at h
    · cases h
    · cases h
      exact ⟨c, rfl⟩

/-- The rule for a line end reads one of the two. -/
theorem BuiltRule.fires?_closingLineEnd_eq_some {lineStart : Bool} {t : Text} {m : Match}
    (h : BuiltRule.closingLineEnd.fires? lineStart t = some m) :
    t = '\n' :: m.rest ∨ t = '\r' :: '\n' :: m.rest := by
  rw [closingLineEnd, fires?_plain rfl] at h
  match t, h with
  | [], h => cases h
  | c :: rest, h =>
    by_cases hn : c = '\n'
    · subst hn
      cases h
      exact Or.inl rfl
    · by_cases hr : c = '\r'
      · subst hr
        match rest, h with
        | [], h => cases h
        | d :: rest, h =>
          by_cases hd : d = '\n'
          · subst hd
            cases h
            exact Or.inr rfl
          · have hnone : Pattern.newline.tied.find ('\r' :: d :: rest) = none := by
              simp [Pattern.find_tied, Pattern.matchAt, Pattern.newline, Pattern.opt, Pattern.run,
                Place.start, Place.advance, CharSet.holds, hd]
            rw [hnone] at h
            cases h
      · rw [Pattern.find_newline_eq_none hn hr] at h
        cases h

/-- The escape a text starts with, and the text after it: a backslash with a `\r\n` after it, or
else with one character. -/
def Text.escape? : Text → Option (Text × Text)
  | '\\' :: '\r' :: '\n' :: t => some (['\\', '\r', '\n'], t)
  | '\\' :: c :: t => some (['\\', c], t)
  | _ => none

theorem Text.escape?_ne_none (c : Char) (t : Text) :
    Text.escape? ('\\' :: c :: t) ≠ none := by
  by_cases hreturn : c = '\r' ∧ t.head? = some '\n'
  · obtain ⟨rfl, hhead⟩ := hreturn
    obtain ⟨t, rfl⟩ := List.head?_eq_some_iff.mp hhead
    exact Option.some_ne_none _
  · rw [Text.escape?]
    · exact Option.some_ne_none _
    · rintro t rfl rfl
      exact hreturn ⟨rfl, rfl⟩

/-- The pattern of escapes finds the escape the text starts with. -/
theorem Pattern.find_escape (t : Text) :
    escape.tied.find t = t.escape?.map fun (u, rest) => ⟨0, u.size, [], rest⟩ := by
  fun_cases Text.escape? t with
  | case1 t => rfl
  | case2 c t hc =>
    by_cases hn : c = '\n'
    · subst hn
      rfl
    · refine find_escape_char hn fun hr ht => ?_
      obtain ⟨t', rfl⟩ := List.head?_eq_some_iff.mp ht
      exact hc t' hr rfl
  | case3 t _ hsingle =>
    match t, hsingle with
    | [], _ => rfl
    | [c], _ =>
      by_cases hc : c = '\\'
      · subst hc
        rfl
      · exact find_escape_eq_none hc
    | c :: d :: t, hsingle => exact find_escape_eq_none fun hc => hsingle d t (hc ▸ rfl)

/-- The rule for escapes fires where an escape is read, and takes it. -/
theorem BuiltRule.fires?_escape (lineStart : Bool) (t : Text) :
    BuiltRule.escape.fires? lineStart t =
      t.escape?.map fun (u, rest) => ⟨0, u.size, [], rest⟩ := by
  rw [escape, fires?_plain rfl, Pattern.find_escape]

/-- Where the rule for escapes fires. -/
theorem BuiltRule.fires?_escape_eq_some {lineStart : Bool} {t : Text} {m : Match}
    (h : BuiltRule.escape.fires? lineStart t = some m) : ∃ u, t.escape? = some (u, m.rest) := by
  rw [fires?_escape, Option.map_eq_some_iff] at h
  obtain ⟨⟨u, rest⟩, hescape, rfl⟩ := h
  exact ⟨u, hescape⟩

/-- The forms of an escape. -/
theorem Text.escape?_cases {t u rest : Text} (h : t.escape? = some (u, rest)) :
    t = u ++ rest ∧ (u = ['\\', '\r', '\n'] ∨ ∃ c, u = ['\\', c]) := by
  fun_cases Text.escape? t with
  | case1 t =>
    cases h
    exact ⟨rfl, Or.inl rfl⟩
  | case2 c t hc =>
    rw [Text.escape?] at h
    · cases h
      exact ⟨rfl, Or.inr ⟨c, rfl⟩⟩
    · exact hc
  | case3 t hreturn hsingle =>
    rw [Text.escape?] at h
    · cases h
    · exact hreturn
    · exact hsingle

/-- More text behind does not change an escape that is not cut. -/
theorem Text.escape?_append {t B : Text} (hne : t ≠ []) (hslash : t ≠ ['\\'])
    (hreturn : t = ['\\', '\r'] → B.head? ≠ some '\n') :
    (t ++ B).escape? = t.escape?.map fun (u, rest) => (u, rest ++ B) := by
  fun_cases Text.escape? t with
  | case1 t => rfl
  | case2 c t hc =>
    rw [List.cons_append, List.cons_append, Text.escape?]
    · rfl
    · rintro rest rfl hrest
      cases t with
      | nil => exact hreturn rfl (by simpa using congrArg List.head? hrest)
      | cons d t => exact hc t rfl (by rw [(List.cons.inj hrest).1])
  | case3 t hcrlf hsingle =>
    match t, hne, hslash, hsingle with
    | c :: t, _, hslash, hsingle =>
      have hc : c ≠ '\\' := by
        rintro rfl
        cases t with
        | nil => exact hslash rfl
        | cons d t => exact hsingle d t rfl
      rw [List.cons_append, Text.escape?]
      · rfl
      · exact fun _ h => hc (List.cons.inj h).1
      · exact fun _ _ h => hc (List.cons.inj h).1

/-- More text behind does not change the match of an escape that is not cut. -/
theorem Pattern.find_escape_append {t B : Text} (hne : t ≠ []) (hslash : t ≠ ['\\'])
    (hreturn : t = ['\\', '\r'] → B.head? ≠ some '\n') :
    Option.Rel (Match.Twins [] B) (escape.tied.find t) (escape.tied.find (t ++ B)) := by
  rw [find_escape, find_escape, Text.escape?_append hne hslash hreturn]
  cases t.escape? with
  | none => exact .none
  | some found => exact .some ⟨rfl, rfl, rfl, found.2, by simp, rfl⟩

end Highlighter
