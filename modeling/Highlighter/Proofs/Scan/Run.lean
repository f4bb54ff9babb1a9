import Highlighter.Proofs.Scan.Tiles

/-!
# Runs of a scan

A scan is *idle* when no token waits to be handed out.  From an idle scan with text
left, one step reads some characters and finds tokens that tile them
(`Lexer.exists_step_reads`).  `lx.Scans g tokens lx'` chains steps of idle scans and
collects their tokens.  It is what claims about whole runs are proved on, by
induction on the chain.

The lexer itself hands tokens out one at a time and counts them.
`Lexer.drain_of_scans` and `Lexer.scans_drain` say that draining it gives the tokens
of the chain that reads everything, so the count never runs short.
-/

namespace Highlighter

/-! ## Rules that fire -/

/-- What it takes for a rule to fire. -/
theorem BuiltRule.fires?_eq_some_iff {rule : BuiltRule} {lineStart : Bool} {rest : Text}
    {m : Match} :
    rule.fires? lineStart rest = some m ↔
      (rule.lineStart = true → lineStart = true) ∧ rule.pattern.find rest = some m ∧
        m.isEmpty = false ∧ ∀ lookahead ∈ rule.followedBy, lookahead.matches m.rest = true := by
  rw [BuiltRule.fires?]
  cases hl : rule.lineStart && !lineStart with
  | true =>
    have : rule.lineStart = true ∧ lineStart = false := by simpa using hl
    simp [this]
  | false =>
    have hline : rule.lineStart = true → lineStart = true := by simpa using hl
    cases hf : rule.pattern.find rest with
    | none => simp
    | some m' =>
      cases hb : rule.followedBy with
      | none => grind
      | some lookahead => grind

/-- A rule without conditions fires where its pattern has a match. -/
theorem BuiltRule.fires?_plain {p : Pattern} (hp : p.consumes = true) (action : Action)
    (t : Transition) (lineStart : Bool) (rest : Text) :
    (⟨p.tied, false, none, action, t⟩ : BuiltRule).fires? lineStart rest = p.tied.find rest := by
  rw [BuiltRule.fires?]
  simp only [Bool.false_and, Bool.false_eq_true, if_false]
  cases hfind : p.tied.find rest with
  | none => rfl
  | some m =>
    have htied : p.tied.consumes = true := by simp [Pattern.tied, Pattern.consumes, hp]
    simp only [Pattern.isEmpty_of_find htied hfind, Bool.false_eq_true, if_false]

theorem firstFiring?_eq_some {lineStart : Bool} {rest : Text} {rules : List BuiltRule}
    {rule : BuiltRule} {m : Match} (h : firstFiring? lineStart rest rules = some (rule, m)) :
    rule ∈ rules ∧ rule.fires? lineStart rest = some m := by
  induction rules with
  | nil => simp [firstFiring?] at h
  | cons r others ih =>
    rw [firstFiring?] at h
    split at h
    · next m' hm =>
      cases h
      exact ⟨List.mem_cons_self .., hm⟩
    · obtain ⟨hmem, hm⟩ := ih h
      exact ⟨List.mem_cons_of_mem _ hmem, hm⟩

theorem firstFiring?_eq_none {lineStart : Bool} {rest : Text} {rules : List BuiltRule}
    (h : firstFiring? lineStart rest rules = none) : ∀ rule ∈ rules,
      rule.fires? lineStart rest = none := by
  induction rules with
  | nil => simp
  | cons r others ih =>
    rw [firstFiring?] at h
    cases hr : r.fires? lineStart rest with
    | some m =>
      rw [hr] at h
      cases h
    | none =>
      rw [hr] at h
      exact List.forall_mem_cons.mpr ⟨hr, ih h⟩

theorem firstFiring?_of_forall_none {lineStart : Bool} {rest : Text} {rules : List BuiltRule}
    (h : ∀ rule ∈ rules, rule.fires? lineStart rest = none) :
    firstFiring? lineStart rest rules = none := by
  by_contra hsome
  obtain ⟨⟨rule, m⟩, hfire⟩ := Option.ne_none_iff_exists'.mp hsome
  obtain ⟨hmem, hm⟩ := firstFiring?_eq_some hfire
  rw [h rule hmem] at hm
  cases hm

theorem firstFiring?_append (lineStart : Bool) (rest : Text) (rules rules' : List BuiltRule) :
    firstFiring? lineStart rest (rules ++ rules') =
      (firstFiring? lineStart rest rules).or (firstFiring? lineStart rest rules') := by
  induction rules with
  | nil => rfl
  | cons rule others ih =>
    rw [List.cons_append, firstFiring?, firstFiring?, ih]
    cases rule.fires? lineStart rest <;> rfl

/-- If the rules of all other members of a list do not fire, those of one of them decide. -/
theorem firstFiring?_flatMap {α : Type} {lineStart : Bool} {rest : Text}
    {rules : α → List BuiltRule} {a : α} {found : BuiltRule × Match}
    (hfound : firstFiring? lineStart rest (rules a) = some found) : ∀ {members : List α},
      a ∈ members →
      (∀ x ∈ members, x ≠ a → ∀ rule ∈ rules x, rule.fires? lineStart rest = none) →
      firstFiring? lineStart rest (members.flatMap rules) = some found
  | x :: members, hmem, hothers => by
    rw [List.flatMap_cons, firstFiring?_append]
    by_cases hx : x = a
    · rw [hx, hfound, Option.some_or]
    · have hmem : a ∈ members := (List.mem_cons.mp hmem).resolve_left (Ne.symm hx)
      rw [firstFiring?_of_forall_none (hothers x (List.mem_cons_self ..) hx), Option.none_or]
      exact firstFiring?_flatMap hfound hmem fun y hy => hothers y (List.mem_cons_of_mem x hy)

/-- The match of a rule that fires is a nonempty beginning of the text. -/
theorem BuiltRule.fires?_spans {rule : BuiltRule} {lineStart : Bool} {rest : Text} {m : Match}
    (h : rule.fires? lineStart rest = some m) :
    ∃ u : Text, u ≠ [] ∧ rest = u ++ m.rest ∧ m.stop = u.size ∧
      ∀ index, ∀ extent ∈ m.group? index, u.HasPart extent := by
  obtain ⟨-, hfind, hne, -⟩ := fires?_eq_some_iff.mp h
  obtain ⟨pre, u, hm, -⟩ := Pattern.find_spans hfind
  have hstop : m.stop = (pre ++ u).size := by rw [hm.stop, Text.size_append]
  refine ⟨pre ++ u, ?_, by rw [List.append_assoc]; exact hm.text, hstop, ?_⟩
  · intro hnil
    rw [List.append_eq_nil_iff] at hnil
    rw [Match.isEmpty, hm.start, hm.stop, hnil.1, hnil.2] at hne
    simp at hne
  · intro index extent hextent
    obtain ⟨v, w, x, rfl, hv, hw⟩ := hm.group?_eq_some hextent
    exact ⟨pre ++ v, w, x, by simp, by rw [hv, Text.size_append], hw⟩

/-! ## Steps -/

namespace Lexer

/-- Whether no token waits to be handed out. -/
def Idle (lx : Lexer) : Prop := lx.pending = []

/-- The scan with its pending tokens taken away. -/
def settle (lx : Lexer) : Lexer := { lx with pending := [] }

@[simp] theorem settle_cursor (lx : Lexer) : lx.settle.cursor = lx.cursor := rfl
@[simp] theorem settle_lineStart (lx : Lexer) : lx.settle.lineStart = lx.lineStart := rfl
@[simp] theorem settle_rest (lx : Lexer) : lx.settle.rest = lx.rest := rfl
@[simp] theorem settle_stack (lx : Lexer) : lx.settle.stack = lx.stack := rfl
theorem idle_settle (lx : Lexer) : lx.settle.Idle := rfl

theorem idle_start (g : Grammar) (source : Text) : (start g source).Idle := rfl

theorem Idle.settle_eq {lx : Lexer} (h : lx.Idle) : lx.settle = lx := by
  cases lx
  cases h
  rfl

theorem Idle.pending_consume {lx : Lexer} (h : lx.Idle) (u rest : Text) (tokens : List Token)
    (t : Transition) : (lx.consume u rest tokens t).pending = tokens := by
  have hnone : lx.pending = [] := h
  rw [consume, hnone, List.nil_append]

/-- The step in which a rule is the first to fire. -/
theorem step_eq_of_firing {g : Grammar} {lx : Lexer} {rule : BuiltRule} {m : Match} {u : Text}
    (hfire : firstFiring? lx.lineStart lx.rest (g.rulesOf lx.stack.top) = some (rule, m))
    (hu : lx.rest = u ++ m.rest) :
    lx.step g = lx.consume u m.rest (rule.action.tokens lx.cursor u m) rule.transition := by
  obtain ⟨v, hv, htext, hstop, -⟩ := BuiltRule.fires?_spans (firstFiring?_eq_some hfire).2
  obtain rfl : u = v := List.append_cancel_right (hu.symm.trans htext)
  have htake : lx.rest.takeBytes m.stop = u := by rw [htext, hstop, Text.takeBytes_size_append]
  simp only [step, hfire, htake]

/-- The two ways a step goes: the first rule that fires, or one character of plain text. -/
theorem step_cases (g : Grammar) (lx : Lexer) (hrest : lx.rest ≠ []) :
    (∃ (rule : BuiltRule) (m : Match) (u : Text),
      firstFiring? lx.lineStart lx.rest (g.rulesOf lx.stack.top) = some (rule, m) ∧
      u ≠ [] ∧ lx.rest = u ++ m.rest ∧ m.stop = u.size ∧
      (∀ index, ∀ extent ∈ m.group? index, u.HasPart extent) ∧
      lx.step g = lx.consume u m.rest (rule.action.tokens lx.cursor u m) rule.transition) ∨
    (∃ c rest, firstFiring? lx.lineStart lx.rest (g.rulesOf lx.stack.top) = none ∧
      lx.rest = c :: rest ∧
      lx.step g = lx.consume [c] rest [Token.at .text lx.cursor [c]] .stay) := by
  cases hfire : firstFiring? lx.lineStart lx.rest (g.rulesOf lx.stack.top) with
  | some found =>
    obtain ⟨rule, m⟩ := found
    obtain ⟨u, hu, htext, hstop, hparts⟩ :=
      BuiltRule.fires?_spans (firstFiring?_eq_some hfire).2
    exact Or.inl ⟨rule, m, u, rfl, hu, htext, hstop, hparts, step_eq_of_firing hfire htext⟩
  | none =>
    obtain ⟨c, rest, hc⟩ := List.exists_cons_of_ne_nil hrest
    refine Or.inr ⟨c, rest, rfl, hc, ?_⟩
    simp only [step, hfire]
    rw [hc]

/-- A step of an idle scan reads some characters, and the tokens it finds tile them. -/
theorem exists_step_reads (g : Grammar) {lx : Lexer} (hidle : lx.Idle) (hrest : lx.rest ≠ []) :
    ∃ u : Text, u ≠ [] ∧ lx.rest = u ++ (lx.step g).rest ∧
      (lx.step g).cursor = lx.cursor + u.size ∧
      (lx.step g).lineStart = (u.getLast? == some '\n') ∧
      Tiles lx.cursor u (lx.step g).pending := by
  rcases step_cases g lx hrest with ⟨rule, m, u, -, hu, htext, -, hparts, hstep⟩ |
    ⟨c, rest, -, hc, hstep⟩
  · refine ⟨u, hu, ?_, ?_, ?_, ?_⟩ <;> simp only [hstep, consume]
    · exact htext
    · rw [hidle, List.nil_append]
      exact rule.action.tokens_tiles lx.cursor hu hparts
  · refine ⟨[c], by simp, ?_, ?_, ?_, ?_⟩ <;> simp only [hstep, consume]
    · exact hc
    · rw [hidle, List.nil_append]
      exact Tiles.singleton (by simp)

theorem cursor_step (g : Grammar) {lx : Lexer} (hidle : lx.Idle) (hrest : lx.rest ≠ []) {u : Text}
    (h : lx.rest = u ++ (lx.step g).rest) : (lx.step g).cursor = lx.cursor + u.size := by
  obtain ⟨v, -, htext, hcursor, -⟩ := exists_step_reads g hidle hrest
  rw [hcursor, List.append_cancel_right (h.symm.trans htext)]

theorem cursor_lt_step (g : Grammar) {lx : Lexer} (hidle : lx.Idle) (hrest : lx.rest ≠ []) :
    lx.cursor < (lx.step g).cursor := by
  obtain ⟨u, hu, -, hcursor, -⟩ := exists_step_reads g hidle hrest
  have := Text.size_pos hu
  omega

theorem step_pending_ne_nil (g : Grammar) {lx : Lexer} (hidle : lx.Idle) (hrest : lx.rest ≠ []) :
    (lx.step g).pending ≠ [] := by
  obtain ⟨u, hu, -, -, -, htiles⟩ := exists_step_reads g hidle hrest
  exact htiles.ne_nil hu

/-- A step finds no more tokens than it reads characters. -/
theorem length_step_le (g : Grammar) {lx : Lexer} (hidle : lx.Idle) (hrest : lx.rest ≠ []) :
    (lx.step g).pending.length + (lx.step g).rest.length ≤ lx.rest.length := by
  obtain ⟨u, -, htext, -, -, htiles⟩ := exists_step_reads g hidle hrest
  have := htiles.length_le
  rw [htext, List.length_append]
  omega

theorem length_step_rest_lt (g : Grammar) {lx : Lexer} (hidle : lx.Idle) (hrest : lx.rest ≠ []) :
    (lx.step g).rest.length < lx.rest.length := by
  have := length_step_le g hidle hrest
  have := List.length_pos_iff.mpr (step_pending_ne_nil g hidle hrest)
  omega

/-! ## Chains of steps -/

/-- From an idle scan one gets to another by steps that find some tokens. -/
inductive Scans (g : Grammar) : Lexer → List Token → Lexer → Prop where
  /-- No step. -/
  | refl {lx : Lexer} : lx.Idle → Scans g lx [] lx
  /-- A step, and the steps after it. -/
  | step {lx lx' : Lexer} {tokens : List Token} : lx.Idle → lx.rest ≠ [] →
      Scans g (lx.step g).settle tokens lx' → Scans g lx ((lx.step g).pending ++ tokens) lx'

namespace Scans

variable {g : Grammar} {lx lx' lx'' : Lexer} {tokens tokens' : List Token}

theorem idle_left (h : lx.Scans g tokens lx') : lx.Idle := by
  cases h with
  | refl h => exact h
  | step h _ _ => exact h

theorem idle_right (h : lx.Scans g tokens lx') : lx'.Idle := by
  induction h with
  | refl h => exact h
  | step _ _ _ ih => exact ih

/-- A chain that starts with a known step. -/
theorem step_eq {next : Lexer} (hstep : lx.step g = next) (hidle : lx.Idle) (hrest : lx.rest ≠ [])
    (h : next.settle.Scans g tokens lx') : lx.Scans g (next.pending ++ tokens) lx' := by
  subst hstep
  exact .step hidle hrest h

theorem trans (h : lx.Scans g tokens lx') (h' : lx'.Scans g tokens' lx'') :
    lx.Scans g (tokens ++ tokens') lx'' := by
  induction h with
  | refl _ => exact h'
  | step hidle hrest _ ih =>
    rw [List.append_assoc]
    exact .step hidle hrest (ih h')

/-- A chain reads a beginning of the text, and its tokens tile it. -/
theorem exists_reads (h : lx.Scans g tokens lx') :
    ∃ u : Text, lx.rest = u ++ lx'.rest ∧ lx'.cursor = lx.cursor + u.size ∧
      Tiles lx.cursor u tokens := by
  induction h with
  | refl _ => exact ⟨[], rfl, rfl, rfl⟩
  | step hidle hrest _ ih =>
    obtain ⟨u, -, htext, hcursor, -, htiles⟩ := exists_step_reads g hidle hrest
    obtain ⟨v, htext', hcursor', htiles'⟩ := ih
    simp only [settle_rest, settle_cursor] at htext' hcursor' htiles'
    refine ⟨u ++ v, ?_, ?_, ?_⟩
    · rw [htext, htext', List.append_assoc]
    · rw [hcursor', hcursor, Text.size_append]
      omega
    · rw [hcursor] at htiles'
      exact htiles.append htiles'

/-- A chain is empty, or it ends with a step. -/
theorem exists_last (h : lx.Scans g tokens lx') :
    (lx' = lx ∧ tokens = []) ∨ ∃ before middle, lx.Scans g before middle ∧ middle.rest ≠ [] ∧
      lx' = (middle.step g).settle ∧ tokens = before ++ (middle.step g).pending := by
  induction h with
  | refl _ => exact Or.inl ⟨rfl, rfl⟩
  | @step lx lx' tokens hidle hrest _ ih =>
    rcases ih with ⟨rfl, rfl⟩ | ⟨before, middle, hbefore, hmiddle, hlast, rfl⟩
    · exact Or.inr ⟨[], lx, .refl hidle, hrest, rfl, by rw [List.append_nil, List.nil_append]⟩
    · exact Or.inr ⟨_, middle, .step hidle hrest hbefore, hmiddle, hlast,
        by rw [List.append_assoc]⟩

/-- The tokens of a chain lie between its two ends. -/
theorem bounds (h : lx.Scans g tokens lx') :
    lx.cursor ≤ lx'.cursor ∧ ∀ t ∈ tokens, lx.cursor ≤ t.start ∧ t.start < lx'.cursor := by
  obtain ⟨u, -, hcursor, htiles⟩ := h.exists_reads
  refine ⟨by omega, fun t ht => ?_⟩
  have := htiles.bounds t ht
  omega

/-- A chain ends at the start of a line if the last character it read ends one. -/
theorem lineStart_eq (h : lx.Scans g tokens lx') :
    ∃ u : Text, lx.rest = u ++ lx'.rest ∧
      lx'.lineStart = u.getLast?.elim lx.lineStart (· == '\n') := by
  induction h with
  | refl _ => exact ⟨[], rfl, rfl⟩
  | step hidle hrest _ ih =>
    obtain ⟨u, hu, htext, -, hline, -⟩ := exists_step_reads g hidle hrest
    obtain ⟨v, htext', hline'⟩ := ih
    simp only [settle_rest, settle_lineStart] at htext' hline'
    refine ⟨u ++ v, by rw [htext, htext', List.append_assoc], ?_⟩
    rw [hline', hline, List.getLast?_append]
    cases v.getLast? with
    | some c => rfl
    | none =>
      obtain ⟨c, hc⟩ := Option.ne_none_iff_exists'.mp (mt List.getLast?_eq_none_iff.mp hu)
      rw [hc]
      rfl

/-- A token of a chain is found in one of its steps, after the tokens of the steps before and
those before it in the step. -/
theorem exists_step_of_split (h : lx.Scans g tokens lx') : ∀ {before after : List Token}
    {t : Token}, tokens = before ++ t :: after →
      ∃ first middle others more, lx.Scans g first middle ∧ middle.rest ≠ [] ∧
        (middle.step g).pending = others ++ t :: more ∧ before = first ++ others := by
  induction h with
  | refl _ => simp
  | @step lx lx' tokens hidle hrest _ ih =>
    intro before after t htokens
    have hplace : (∃ more, (lx.step g).pending = before ++ t :: more) ∨
        ∃ others, tokens = others ++ t :: after ∧ before = (lx.step g).pending ++ others := by
      rcases List.append_eq_append_iff.mp htokens with ⟨others, hbefore, hothers⟩ |
        ⟨more, hpending, hmore⟩
      · exact Or.inr ⟨others, hothers, hbefore⟩
      · cases more with
        | nil => exact Or.inr ⟨[], hmore.symm, by simpa using hpending.symm⟩
        | cons t' more =>
          obtain ⟨rfl, -⟩ := List.cons.inj hmore
          exact Or.inl ⟨more, hpending⟩
    rcases hplace with ⟨more, hpending⟩ | ⟨others, hothers, hbefore⟩
    · exact ⟨[], lx, before, more, .refl hidle, hrest, hpending, rfl⟩
    · obtain ⟨first, middle, others', more, hscans, hmiddle, hpending, rfl⟩ := ih hothers
      exact ⟨_, middle, others', more, .step hidle hrest hscans, hmiddle, hpending,
        by rw [hbefore, List.append_assoc]⟩

theorem exists_step_of_mem (h : lx.Scans g tokens lx') : ∀ t ∈ tokens,
    ∃ before middle, lx.Scans g before middle ∧ middle.rest ≠ [] ∧ t ∈ (middle.step g).pending := by
  intro t ht
  obtain ⟨before, after, htokens⟩ := List.append_of_mem ht
  obtain ⟨first, middle, others, more, hscans, hmiddle, hpending, -⟩ :=
    h.exists_step_of_split htokens
  exact ⟨first, middle, hscans, hmiddle, by simp [hpending]⟩

/-- A chain that goes past a position has a step that does. -/
theorem exists_crossing (h : lx.Scans g tokens lx') {e : Nat} (hle : lx.cursor ≤ e)
    (hlt : e < lx'.cursor) :
    ∃ before middle after, lx.Scans g before middle ∧ middle.rest ≠ [] ∧ middle.cursor ≤ e ∧
      e < (middle.step g).cursor ∧ (middle.step g).settle.Scans g after lx' ∧
      tokens = before ++ ((middle.step g).pending ++ after) := by
  induction h with
  | refl _ => omega
  | @step lx lx' tokens hidle hrest hscans ih =>
    by_cases hnext : (lx.step g).cursor ≤ e
    · obtain ⟨before, middle, after, hbefore, hmiddle, hcursor, hstep, hafter, htokens⟩ :=
        ih hnext hlt
      refine ⟨_, middle, after, .step hidle hrest hbefore, hmiddle, hcursor, hstep, hafter, ?_⟩
      rw [htokens, List.append_assoc]
    · exact ⟨[], lx, tokens, .refl hidle, hrest, hle, by omega, hscans, rfl⟩

end Scans

/-- The chain of the one step in which a rule is the first to fire. -/
theorem scans_of_firing {g : Grammar} {lx : Lexer} {rule : BuiltRule} {m : Match} {u : Text}
    (hidle : lx.Idle)
    (hfire : firstFiring? lx.lineStart lx.rest (g.rulesOf lx.stack.top) = some (rule, m))
    (hu : lx.rest = u ++ m.rest) :
    lx.Scans g (rule.action.tokens lx.cursor u m)
      ⟨lx.cursor + u.size, u.getLast? == some '\n', m.rest, lx.stack.apply rule.transition,
        []⟩ := by
  obtain ⟨v, hv, htext, -⟩ := BuiltRule.fires?_spans (firstFiring?_eq_some hfire).2
  have hrest : lx.rest ≠ [] := htext ▸ List.append_ne_nil_of_left_ne_nil hv m.rest
  have hscans := Scans.step hidle hrest (.refl (idle_settle (lx.step g)))
  rw [step_eq_of_firing hfire hu, hidle.pending_consume, List.append_nil] at hscans
  exact hscans

/-- The chain of the one step in which a rule that makes one token is the first to fire. -/
theorem scans_of_token {g : Grammar} {lx : Lexer} {rule : BuiltRule} {m : Match} {u : Text}
    {category : Category} (hidle : lx.Idle)
    (hfire : firstFiring? lx.lineStart lx.rest (g.rulesOf lx.stack.top) = some (rule, m))
    (haction : rule.action = .token category) (hu : lx.rest = u ++ m.rest) :
    lx.Scans g [Token.at category lx.cursor u]
      ⟨lx.cursor + u.size, u.getLast? == some '\n', m.rest, lx.stack.apply rule.transition,
        []⟩ := by
  have hscans := scans_of_firing hidle hfire hu
  rwa [haction] at hscans

/-- Every idle scan can be run until no text is left. -/
theorem exists_scans (g : Grammar) (lx : Lexer) (hidle : lx.Idle) :
    ∃ tokens lx', lx.Scans g tokens lx' ∧ lx'.rest = [] := by
  induction hn : lx.rest.length using Nat.strongRecOn generalizing lx with
  | _ n ih =>
    by_cases hrest : lx.rest = []
    · exact ⟨[], lx, .refl hidle, hrest⟩
    · have hlt := length_step_rest_lt g hidle hrest
      obtain ⟨tokens, lx', hscans, hend⟩ :=
        ih _ (hn ▸ hlt) (lx.step g).settle (idle_settle _) rfl
      exact ⟨_, lx', .step hidle hrest hscans, hend⟩

/-! ## Handing tokens out -/

theorem next_of_pending (g : Grammar) {lx : Lexer} {t : Token} {more : List Token}
    (h : lx.pending = t :: more) : lx.next g = (some t, { lx with pending := more }) := by
  rw [next, h]

theorem next_of_rest_nil (g : Grammar) {lx : Lexer} (hidle : lx.Idle) (hrest : lx.rest = []) :
    lx.next g = (none, lx) := by
  rw [next, hidle, hrest]
  rfl

/-- With text left, an idle scan makes one step and hands out the first token of it. -/
theorem next_of_idle (g : Grammar) {lx : Lexer} (hidle : lx.Idle) (hrest : lx.rest ≠ []) :
    lx.next g = (lx.step g).next g := by
  obtain ⟨t, more, hpending⟩ := List.exists_cons_of_ne_nil (step_pending_ne_nil g hidle hrest)
  rw [next_of_pending g hpending, next, hidle]
  simp [List.isEmpty_iff, hrest, hpending]

/-- The ways a call goes: the scan is at its end, or the call hands out a token that waits, or one
that a step finds. -/
theorem next_cases (g : Grammar) (lx : Lexer) :
    (lx.Idle ∧ lx.rest = [] ∧ lx.next g = (none, lx)) ∨
    ∃ (lx₀ : Lexer) (t : Token) (more : List Token),
      (lx₀ = lx ∨ lx.Idle ∧ lx.rest ≠ [] ∧ lx₀ = lx.step g) ∧ lx₀.pending = t :: more ∧
      lx.next g = (some t, { lx₀ with pending := more }) := by
  cases hpending : lx.pending with
  | cons t more =>
    exact Or.inr ⟨lx, t, more, Or.inl rfl, hpending, next_of_pending g hpending⟩
  | nil =>
    by_cases hrest : lx.rest = []
    · exact Or.inl ⟨hpending, hrest, next_of_rest_nil g hpending hrest⟩
    · obtain ⟨t, more, hstep⟩ := List.exists_cons_of_ne_nil (step_pending_ne_nil g hpending hrest)
      refine Or.inr ⟨lx.step g, t, more, Or.inr ⟨hpending, hrest, rfl⟩, hstep, ?_⟩
      rw [next_of_idle g hpending hrest, next_of_pending g hstep]

theorem take_of_rest_nil (g : Grammar) {lx : Lexer} (hidle : lx.Idle) (hrest : lx.rest = []) :
    ∀ n, lx.take g n = ([], lx)
  | 0 => rfl
  | n + 1 => by rw [take, next_of_rest_nil g hidle hrest]

theorem take_of_idle (g : Grammar) {lx : Lexer} (hidle : lx.Idle) (hrest : lx.rest ≠ [])
    (n : Nat) : lx.take g (n + 1) = (lx.step g).take g (n + 1) := by
  rw [take, next_of_idle g hidle hrest]
  rfl

/-- Pending tokens are handed out before anything else. -/
theorem take_pending (g : Grammar) (n : Nat) :
    ∀ (pending : List Token) (lx : Lexer), lx.pending = pending →
      lx.take g (pending.length + n) =
        (pending ++ (lx.settle.take g n).1, (lx.settle.take g n).2)
  | [], lx, h => by
    rw [Idle.settle_eq h]
    simp
  | t :: more, lx, h => by
    have ih := take_pending g n more { lx with pending := more } rfl
    rw [List.length_cons, show more.length + 1 + n = more.length + n + 1 by omega, take,
      next_of_pending g h]
    simp only [ih]
    rfl

/-- A chain that reads everything hands out its tokens, whatever greater number is asked for. -/
theorem take_of_scans {g : Grammar} {lx lx' : Lexer} {tokens : List Token}
    (h : lx.Scans g tokens lx') (hend : lx'.rest = []) :
    ∀ n, lx.rest.length ≤ n → lx.take g n = (tokens, lx') := by
  induction h with
  | refl hidle => exact fun n _ => take_of_rest_nil g hidle hend n
  | @step lx lx' tokens hidle hrest _ ih =>
    intro n hn
    have hle := length_step_le g hidle hrest
    obtain ⟨k, rfl⟩ : ∃ k, n = (lx.step g).pending.length + k :=
      ⟨n - (lx.step g).pending.length, by omega⟩
    obtain ⟨j, hj⟩ : ∃ j, (lx.step g).pending.length + k = j + 1 :=
      ⟨(lx.step g).pending.length + k - 1, by
        have := List.length_pos_iff.mpr (step_pending_ne_nil g hidle hrest); omega⟩
    rw [hj, take_of_idle g hidle hrest, ← hj, take_pending g k _ _ rfl,
      ih hend k (by rw [settle_rest]; omega)]

theorem drain_of_scans {g : Grammar} {lx lx' : Lexer} {tokens : List Token}
    (h : lx.Scans g tokens lx') (hend : lx'.rest = []) : lx.drain g = (tokens, lx') := by
  have hidle : lx.pending = [] := h.idle_left
  rw [drain, hidle, List.length_nil, Nat.zero_add]
  exact take_of_scans h hend _ (Nat.le_refl _)

/-- Draining an idle scan runs it until no text is left. -/
theorem scans_drain (g : Grammar) {lx : Lexer} (hidle : lx.Idle) :
    lx.Scans g (lx.drain g).1 (lx.drain g).2 ∧ (lx.drain g).2.rest = [] := by
  obtain ⟨tokens, lx', hscans, hend⟩ := exists_scans g lx hidle
  rw [drain_of_scans hscans hend]
  exact ⟨hscans, hend⟩

/-- The tokens of a scan are those of a chain and then those of the scan it leads to. -/
theorem drain_eq_of_scans {g : Grammar} {lx lx' : Lexer} {tokens : List Token}
    (h : lx.Scans g tokens lx') :
    lx.drain g = (tokens ++ (lx'.drain g).1, (lx'.drain g).2) := by
  obtain ⟨hscans, hend⟩ := scans_drain g h.idle_right
  exact drain_of_scans (h.trans hscans) hend

end Lexer

/-- The tokens of a source are those of a chain of steps that reads all of it. -/
theorem scans_tokenize (g : Grammar) (source : Text) :
    ∃ lx, (Lexer.start g source).Scans g (tokenize g source) lx ∧ lx.rest = [] :=
  ⟨_, Lexer.scans_drain g (Lexer.idle_start g source)⟩

/-- The tokens of a source are those of a chain and then those of the scan it leads to. -/
theorem tokenize_eq_of_scans {g : Grammar} {source : Text} {tokens : List Token} {lx : Lexer}
    (h : (Lexer.start g source).Scans g tokens lx) :
    tokenize g source = tokens ++ (lx.drain g).1 := by
  rw [tokenize, Lexer.drain_eq_of_scans h]

theorem tokenize_of_scans {g : Grammar} {source : Text} {tokens : List Token} {lx : Lexer}
    (h : (Lexer.start g source).Scans g tokens lx) (hend : lx.rest = []) :
    tokenize g source = tokens := by
  rw [tokenize, Lexer.drain_of_scans h hend]

/-- A scan of a source stands after the text it has read. -/
theorem exists_read_of_scans {g : Grammar} {source : Text} {tokens : List Token} {lx : Lexer}
    (h : (Lexer.start g source).Scans g tokens lx) :
    ∃ read : Text, source = read ++ lx.rest ∧ lx.cursor = read.size := by
  obtain ⟨read, htext, hcursor, -⟩ := h.exists_reads
  exact ⟨read, htext, by simpa [Lexer.start] using hcursor⟩

/-- The tokens of the scan of a source tile the text it has read. -/
theorem tiles_of_scans {g : Grammar} {source before : Text} {tokens : List Token} {lx : Lexer}
    (h : (Lexer.start g source).Scans g tokens lx) (hbefore : source = before ++ lx.rest) :
    Tiles 0 before tokens := by
  obtain ⟨read, htext, -, htiles⟩ := h.exists_reads
  have hread : source = read ++ lx.rest := htext
  obtain rfl : before = read := List.append_cancel_right (hbefore.symm.trans hread)
  exact htiles

/-- A step of the scan of a source finds tokens of the source. -/
theorem mem_tokenize_of_scans {g : Grammar} {source : Text} {tokens : List Token} {lx : Lexer}
    (h : (Lexer.start g source).Scans g tokens lx) (hrest : lx.rest ≠ []) :
    ∀ t ∈ (lx.step g).pending, t ∈ tokenize g source := by
  intro t ht
  obtain ⟨more, lx', hscans, -⟩ :=
    Lexer.exists_scans g (lx.step g).settle (Lexer.idle_settle _)
  rw [tokenize, Lexer.drain_eq_of_scans (h.trans (.step h.idle_right hrest hscans))]
  exact List.mem_append_left _ (List.mem_append_right _ (List.mem_append_left _ ht))

/-- The tokens of a source tile it. -/
theorem tiles_tokenize (g : Grammar) (source : Text) : Tiles 0 source (tokenize g source) := by
  obtain ⟨lx, hscans, hend⟩ := scans_tokenize g source
  obtain ⟨u, htext, -, htiles⟩ := hscans.exists_reads
  have hu : source = u := by simpa [Lexer.start, hend] using htext
  rw [← hu] at htiles
  exact htiles

end Highlighter
