import Highlighter.Proofs.Scan.Run

/-!
# Exact slices

`Lexer.step` cuts the text that is left with cuts that always give something.  A
program that keeps the source and a byte position cuts the source between two
positions instead, and fails where a position is out of range or inside a
character.  `Lexer.exactStep?` is the step of such a program.  It keeps nothing but
the source, the position and the stack, it takes every part by `Text.slice?`, and it
gives nothing as soon as one of these slices fails.

In every state a scan can reach the two steps agree (`Lexer.exactStep?_eq_some`), so
no slice ever fails.  With `tiles_tokenize` this gives the result.  A scan always
ends, and its tokens tile the source.
-/

namespace Highlighter

/-! ## Tokens by slices of the source -/

/-- The token between two positions of a source. -/
def sliceToken? (source : Text) (category : Category) (start stop : Nat) : Option Token :=
  (Text.slice? start stop source).map fun text => ⟨category, start, stop, text⟩

/-- The plain text between two positions, which gives no token if there is none. -/
def sliceFiller? (source : Text) (start stop : Nat) : Option (List Token) :=
  if start < stop then (sliceToken? source .text start stop).map ([·]) else some []

/-- The tokens of the groups of a match that starts at `base`, from a position up to the end of
the match. -/
def sliceGroups? (source : Text) (base : Nat) :
    List (Category × Option (Nat × Nat)) → (position stop : Nat) → Option (List Token)
  | [], position, stop => sliceFiller? source position stop
  | (_, none) :: rest, position, stop => sliceGroups? source base rest position stop
  | (category, some (start, end_)) :: rest, position, stop =>
      if base + start == base + end_ || base + start < position then
        sliceGroups? source base rest position stop
      else do
        let filler ← sliceFiller? source position (base + start)
        let token ← sliceToken? source category (base + start) (base + end_)
        let more ← sliceGroups? source base rest (base + end_) stop
        return filler ++ token :: more

/-- The tokens of a match between two positions. -/
def Action.sliceTokens? (action : Action) (source : Text) (start stop : Nat) (m : Match) :
    Option (List Token) :=
  match action with
  | .token category => (sliceToken? source category start stop).map ([·])
  | .groups categories =>
      sliceGroups? source start (categories.zipIdx.map fun (c, i) => (c, m.group? (i + 1)))
        start stop

/-! ## The step by slices of the source -/

/-- The match of a rule, if the rule fires, where the lookahead is tried on a slice. -/
def BuiltRule.exactFires? (rule : BuiltRule) (lineStart : Bool) (rest : Text) :
    Option (Option Match) :=
  if rule.lineStart && !lineStart then some none
  else
    match rule.pattern.find rest with
    | none => some none
    | some m =>
      if m.isEmpty then some none
      else
        match rule.followedBy with
        | none => some (some m)
        | some lookahead => do
          let after ← Text.slice? m.stop rest.size rest
          return if lookahead.matches after then some m else none

/-- The first of some rules that fires. -/
def exactFirstFiring? (lineStart : Bool) (rest : Text) :
    List BuiltRule → Option (Option (BuiltRule × Match))
  | [] => some none
  | rule :: others => do
    match ← rule.exactFires? lineStart rest with
    | some m => return some (rule, m)
    | none => exactFirstFiring? lineStart rest others

/-- Whether a line starts at a position of a source. -/
def startsLine? (source : Text) (position : Nat) : Option Bool := do
  let before ← Text.slice? 0 position source
  return before.isEmpty || before.getLast? == some '\n'

/-- The position and the stack after one step from a position, and the tokens it finds. -/
def Lexer.exactStep? (g : Grammar) (source : Text) (cursor : Nat) (stack : Stack) :
    Option (Nat × Stack × List Token) := do
  let rest ← Text.slice? cursor source.size source
  let lineStart ← startsLine? source cursor
  match ← exactFirstFiring? lineStart rest (g.rulesOf stack.top) with
  | some (rule, m) =>
    let tokens ← rule.action.sliceTokens? source cursor (cursor + m.stop) m
    return (cursor + m.stop, stack.apply rule.transition, tokens)
  | none =>
    let width := (rest.head?.map Char.utf8Size).getD 1
    let token ← sliceToken? source .text cursor (cursor + width)
    return (cursor + width, stack, [token])

/-! ## The slices of one match succeed -/

section Slices

variable (pre t post : Text)

theorem sliceToken?_part (category : Category) (v w x : Text) (h : t = v ++ (w ++ x)) :
    sliceToken? (pre ++ (t ++ post)) category (pre.size + v.size) (pre.size + v.size + w.size) =
      some (Token.at category (pre.size + v.size) w) := by
  have hslice := Text.slice?_append (pre ++ v) w (x ++ post)
  rw [Text.size_append] at hslice
  have hsource : pre ++ (t ++ post) = pre ++ v ++ (w ++ (x ++ post)) := by
    rw [h]
    simp
  rw [sliceToken?, hsource, hslice]
  rfl

theorem sliceFiller?_part (v w x : Text) (h : t = v ++ (w ++ x)) :
    sliceFiller? (pre ++ (t ++ post)) (pre.size + v.size) (pre.size + v.size + w.size) =
      some (if w.isEmpty then [] else [Token.at .text (pre.size + v.size) w]) := by
  rw [sliceFiller?]
  cases w with
  | nil => simp
  | cons c w =>
    have := Text.size_pos (List.cons_ne_nil c w)
    rw [if_pos (by omega), sliceToken?_part pre t post .text v (c :: w) x h]
    simp

theorem sliceGroups?_eq_some :
    ∀ (groups : List (Category × Option (Nat × Nat))) (read rest : Text), t = read ++ rest →
      (∀ g ∈ groups, ∀ extent ∈ g.2, t.HasPart extent) →
        sliceGroups? (pre ++ (t ++ post)) pre.size groups (pre.size + read.size)
            (pre.size + t.size) = some (groupTokens pre.size groups read.size rest)
  | [], read, rest, ht, _ => by
    have h := sliceFiller?_part pre t post read rest [] (by simpa using ht)
    rwa [sliceGroups?, groupTokens, ht, Text.size_append, ← Nat.add_assoc, ← ht]
  | (_, none) :: groups, read, rest, ht, h => by
    rw [sliceGroups?, groupTokens]
    exact sliceGroups?_eq_some groups read rest ht fun g hg => h g (List.mem_cons_of_mem _ hg)
  | (category, some (start, stop)) :: groups, read, rest, ht, h => by
    have hrest := fun g hg => h g (List.mem_cons_of_mem _ hg)
    by_cases hskip : start = stop ∨ start < read.size
    · rw [sliceGroups?, if_pos (by simpa using hskip), groupTokens_of_skipped _ hskip]
      exact sliceGroups?_eq_some groups read rest ht hrest
    · obtain ⟨hne, hlt⟩ := not_or.mp hskip
      have hpart := h _ (List.mem_cons_self ..) (start, stop) rfl
      rw [ht] at hpart
      obtain ⟨between, inside, after, rfl, -, hstart, hstop, htokens⟩ :=
        exists_groupTokens_eq pre.size hpart hne (Nat.le_of_not_lt hlt)
      have hread : (read ++ (between ++ inside)).size = stop := by
        simp only [Text.size_append]
        omega
      have hfiller := sliceFiller?_part pre t post read between (inside ++ after) ht
      rw [Nat.add_assoc, ← hstart] at hfiller
      have htoken := sliceToken?_part pre t post category (read ++ between) inside after
        (by rw [ht]; simp)
      rw [Text.size_append, ← hstart, Nat.add_assoc, ← hstop] at htoken
      have hmore := sliceGroups?_eq_some groups (read ++ (between ++ inside)) after
        (by rw [ht]; simp) hrest
      rw [hread] at hmore
      rw [sliceGroups?, if_neg (by simpa using hskip), hfiller, htoken, hmore, htokens]
      rfl

theorem Action.sliceTokens?_eq_some (action : Action) (m : Match)
    (hgroups : ∀ index, ∀ extent ∈ m.group? index, t.HasPart extent) :
    action.sliceTokens? (pre ++ (t ++ post)) pre.size (pre.size + t.size) m =
      some (action.tokens pre.size t m) := by
  cases action with
  | token category =>
    have h := sliceToken?_part pre t post category [] t [] (by simp)
    simp only [Text.size_nil, Nat.add_zero] at h
    simp [Action.sliceTokens?, Action.tokens, h]
  | groups categories =>
    refine sliceGroups?_eq_some pre t post _ [] t rfl ?_
    intro g hg extent hextent
    obtain ⟨⟨c, i⟩, -, rfl⟩ := List.mem_map.mp hg
    exact hgroups (i + 1) extent hextent

end Slices

/-! ## The slices of one step succeed -/

/-- The end of a text from a character boundary on is a slice of it. -/
theorem Text.slice?_end (s t : Text) : Text.slice? s.size (s ++ t).size (s ++ t) = some t := by
  have h := Text.slice?_append s t []
  rwa [List.append_nil, ← Text.size_append] at h

theorem BuiltRule.exactFires?_eq_some (rule : BuiltRule) (lineStart : Bool) (rest : Text) :
    rule.exactFires? lineStart rest = some (rule.fires? lineStart rest) := by
  rw [BuiltRule.exactFires?, BuiltRule.fires?]
  split
  · rfl
  · cases hfind : rule.pattern.find rest with
    | none => rfl
    | some m =>
      obtain ⟨pre, u, hm, -⟩ := Pattern.find_spans hfind
      have hafter : Text.slice? m.stop rest.size rest = some m.rest := by
        rw [hm.text, ← List.append_assoc, hm.stop, ← Text.size_append]
        exact Text.slice?_end ..
      cases hb : rule.followedBy with
      | none => simp only []; split <;> rfl
      | some lookahead => simp only [hafter]; split <;> rfl

theorem exactFirstFiring?_eq_some (lineStart : Bool) (rest : Text) :
    ∀ rules : List BuiltRule,
      exactFirstFiring? lineStart rest rules = some (firstFiring? lineStart rest rules)
  | [] => rfl
  | rule :: others => by
    rw [exactFirstFiring?, firstFiring?, BuiltRule.exactFires?_eq_some]
    cases rule.fires? lineStart rest with
    | none => exact exactFirstFiring?_eq_some lineStart rest others
    | some m => rfl

namespace Lexer

/-- Where a scan stands in its source. -/
structure Within (source read : Text) (lx : Lexer) : Prop where
  /-- The text that is left comes after the text that was read. -/
  rest : source = read ++ lx.rest
  /-- The position counts the bytes that were read. -/
  cursor : lx.cursor = read.size
  /-- A line starts at the start of the source and after a line feed. -/
  lineStart : lx.lineStart = (read.isEmpty || read.getLast? == some '\n')

theorem within_start (g : Grammar) (source : Text) : (start g source).Within source [] :=
  ⟨rfl, rfl, rfl⟩

/-- A scan that has read a text has read more of it after a step. -/
theorem Within.step {source read : Text} {lx : Lexer} (h : lx.Within source read) (g : Grammar)
    (hidle : lx.Idle) (hrest : lx.rest ≠ []) : ∃ read', (lx.step g).Within source read' := by
  obtain ⟨u, hu, htext, hcursor, hline, -⟩ := exists_step_reads g hidle hrest
  refine ⟨read ++ u, by rw [h.rest, htext, List.append_assoc], ?_, ?_⟩
  · rw [hcursor, h.cursor, Text.size_append]
  · obtain ⟨c, hc⟩ := Option.ne_none_iff_exists'.mp (mt List.getLast?_eq_none_iff.mp hu)
    simp [hline, List.getLast?_append, hc, hu]

/-- The states a scan of a source goes through as its tokens are handed out. -/
inductive Reachable (g : Grammar) (source : Text) : Lexer → Prop where
  /-- The start of the scan. -/
  | start : Reachable g source (start g source)
  /-- The scan after one more token. -/
  | next {lx : Lexer} : Reachable g source lx → Reachable g source (lx.next g).2

theorem Within.of_pending {source read : Text} {lx : Lexer} (h : lx.Within source read)
    (pending : List Token) : Within source read { lx with pending } :=
  ⟨h.rest, h.cursor, h.lineStart⟩

theorem Reachable.within {g : Grammar} {source : Text} {lx : Lexer}
    (h : Reachable g source lx) : ∃ read, lx.Within source read := by
  induction h with
  | start => exact ⟨[], within_start g source⟩
  | @next lx _ ih =>
    obtain ⟨read, hread⟩ := ih
    rcases lx.next_cases g with ⟨-, -, hnext⟩ |
      ⟨_, t, more, rfl | ⟨hidle, hrest, rfl⟩, -, hnext⟩
    · rw [hnext]
      exact ⟨read, hread⟩
    · rw [hnext]
      exact ⟨read, hread.of_pending more⟩
    · obtain ⟨read', hread'⟩ := hread.step g hidle hrest
      rw [hnext]
      exact ⟨read', hread'.of_pending more⟩

theorem Within.startsLine?_eq {source read : Text} {lx : Lexer} (h : lx.Within source read) :
    startsLine? source lx.cursor = some lx.lineStart := by
  have hbefore := Text.slice?_append [] read lx.rest
  rw [Text.size_nil, Nat.zero_add, List.nil_append, ← h.rest, ← h.cursor] at hbefore
  rw [startsLine?, hbefore, h.lineStart]
  rfl

theorem Within.dropBytes_eq {source read : Text} {lx : Lexer} (h : lx.Within source read) :
    source.dropBytes lx.cursor = lx.rest := by
  rw [h.rest, h.cursor, Text.dropBytes_size_append]

/-- In its source, a step finds all its slices and does what the step by slices does. -/
theorem exactStep?_eq_some (g : Grammar) {source read : Text} {lx : Lexer}
    (h : lx.Within source read) (hidle : lx.Idle) (hrest : lx.rest ≠ []) :
    exactStep? g source lx.cursor lx.stack =
      some ((lx.step g).cursor, (lx.step g).stack, (lx.step g).pending) := by
  have hslice : Text.slice? lx.cursor source.size source = some lx.rest := by
    rw [h.rest, h.cursor]
    exact Text.slice?_end ..
  rw [exactStep?, hslice, h.startsLine?_eq]
  simp only [Option.bind_eq_bind, Option.bind_some, exactFirstFiring?_eq_some]
  rcases step_cases g lx hrest with ⟨rule, m, u, hfire, -, htext, hstop, hparts, hstep⟩ |
    ⟨c, rest, hfire, hc, hstep⟩
  · have htokens := Action.sliceTokens?_eq_some read u m.rest rule.action m hparts
    rw [← htext, ← h.rest, ← h.cursor, ← hstop] at htokens
    simp [hfire, hstep, consume, ← hstop, htokens, show lx.pending = [] from hidle]
  · have htoken := sliceToken?_part read lx.rest [] .text [] [c] rest (by simp [hc])
    rw [List.append_nil, ← h.rest, Text.size_nil, Nat.add_zero, ← h.cursor] at htoken
    simp only [Text.size_cons, Text.size_nil, Nat.add_zero] at htoken
    simp only [hfire, hstep, consume]
    simp [hc, htoken, Stack.apply, show lx.pending = [] from hidle]

end Lexer

/-! ## Tilings -/

/-- What it means that tokens tile a source. -/
structure Tiling (source : Text) (tokens : List Token) : Prop where
  /-- There is no token exactly for the empty source. -/
  empty : tokens = [] ↔ source = []
  /-- No token is empty. -/
  nonempty : ∀ token ∈ tokens, token.text ≠ []
  /-- The first token starts where the source starts. -/
  first : ∀ token ∈ tokens.head?, token.start = 0
  /-- Each token starts where the one before it stops. -/
  adjacent : tokens.IsChain fun a b => a.stop = b.start
  /-- The last token stops where the source ends. -/
  last : ∀ token ∈ tokens.getLast?, token.stop = source.size
  /-- The text of a token is the slice of the source at its positions. -/
  slices : ∀ token ∈ tokens, Text.slice? token.start token.stop source = some token.text

theorem Tiles.tiling {source : Text} {tokens : List Token} (h : Tiles 0 source tokens) :
    Tiling source tokens where
  empty := by
    constructor
    · rintro rfl
      exact h
    · rintro rfl
      exact List.length_eq_zero_iff.mp (Nat.le_zero.mp h.length_le)
  nonempty := h.text_ne_nil
  first := by
    cases tokens with
    | nil => simp
    | cons token rest =>
      intro tk htk
      cases htk
      exact h.start_eq
  adjacent := h.isChain
  last := fun token htoken => by simpa using h.stop_getLast? token htoken
  slices := by
    have hpart : Tiles (Text.size []) source tokens := h
    exact fun token htoken => hpart.slice? token htoken

/-- A scan of any source under any grammar ends with nothing left to read or to hand out, every
slice it takes on the way exists, and its tokens tile the source. -/
theorem tokenize_tiling (g : Grammar) (source : Text) :
    (((Lexer.start g source).drain g).2.rest = [] ∧
      ((Lexer.start g source).drain g).2.pending = []) ∧
    (∀ lx, Lexer.Reachable g source lx → lx.pending = [] → lx.rest ≠ [] →
      Lexer.exactStep? g source lx.cursor lx.stack =
        some ((lx.step g).cursor, (lx.step g).stack, (lx.step g).pending)) ∧
    Tiling source (tokenize g source) ∧
    covers (tokenize g source) source = true ∧ detokenize (tokenize g source) = source := by
  have htiles := tiles_tokenize g source
  obtain ⟨hscans, hend⟩ := Lexer.scans_drain g (Lexer.idle_start g source)
  refine ⟨⟨hend, hscans.idle_right⟩, ?_, htiles.tiling, htiles.covers, htiles.detokenize⟩
  intro lx hreach hidle hrest
  obtain ⟨read, hread⟩ := hreach.within
  exact Lexer.exactStep?_eq_some g hread hidle hrest

end Highlighter
