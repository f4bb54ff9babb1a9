import Highlighter.Proofs.Pattern.Locality
import Highlighter.Proofs.Scan.Run

/-!
# Scans that go alike

Two scans are compared step by step.  Where every rule of the innermost state finds
related matches on both sides, the same rule fires on both sides or none does
(`firstFiring?_rel`, `Lexer.step_pair`).  A relation that steps preserve is preserved
by whole runs, and the tokens found are related one by one (`Lexer.Scans.simulate`).

The first use is that a scan does not look at its position: moved to another one it
finds the same tokens, moved as well (`Lexer.drain_moved`).
-/

namespace Highlighter

/-! ## Related matches -/

section Matches

variable {rules : List BuiltRule} {lineStart : Bool} {rest rest' : Text}

/-- Where each rule finds related matches or none, so does the first that fires. -/
theorem firstFiring?_rel {Q : BuiltRule → Match → Match → Prop} {rules : List BuiltRule}
    (h : ∀ rule ∈ rules,
      Option.Rel (Q rule) (rule.fires? lineStart rest) (rule.fires? lineStart rest')) :
    Option.Rel (fun found found' => found'.1 = found.1 ∧ Q found.1 found.2 found'.2)
      (firstFiring? lineStart rest rules) (firstFiring? lineStart rest' rules) := by
  induction rules with
  | nil => exact .none
  | cons rule rules ih =>
    have hrule := h rule (List.mem_cons_self ..)
    have hrest := ih fun r hr => h r (List.mem_cons_of_mem rule hr)
    rw [firstFiring?, firstFiring?]
    cases hm : rule.fires? lineStart rest with
    | none =>
      rw [hm] at hrule
      generalize rule.fires? lineStart rest' = found at hrule
      cases hrule
      exact hrest
    | some m =>
      rw [hm] at hrule
      generalize rule.fires? lineStart rest' = found at hrule
      cases hrule with
      | some hq => exact .some ⟨rfl, hq⟩

/-- A lookahead that stays within a common beginning of two texts holds in both or none. -/
theorem Pattern.matches_eq_of_twins {x y : Text} {q : Pattern} (hblind : q.Blind x.head? y.head?)
    (hx : q.Stays x) (hy : q.Stays y) (u : Text) :
    q.tied.matches (u ++ y) = q.tied.matches (u ++ x) := by
  have hfind := q.twins_find hblind hx hy u
  rw [Pattern.matches, Pattern.matches]
  generalize q.tied.find (u ++ x) = m at hfind
  generalize q.tied.find (u ++ y) = m' at hfind
  cases hfind <;> rfl

/-- A rule finds related matches where its pattern does, if its lookahead holds after both
matches or none. -/
theorem BuiltRule.fires?_rel {rule : BuiltRule} {R : Match → Match → Prop}
    (hempty : ∀ m m', R m m' → m'.isEmpty = m.isEmpty)
    (hlook : ∀ q ∈ rule.followedBy, ∀ m m', R m m' → q.matches m'.rest = q.matches m.rest)
    (hfind : Option.Rel R (rule.pattern.find rest) (rule.pattern.find rest')) :
    Option.Rel R (rule.fires? lineStart rest) (rule.fires? lineStart rest') := by
  rw [BuiltRule.fires?, BuiltRule.fires?]
  split
  · exact .none
  · generalize rule.pattern.find rest = m at hfind
    generalize rule.pattern.find rest' = m' at hfind
    cases hfind with
    | none => exact .none
    | @some m m' h =>
      simp only [hempty m m' h]
      split
      · exact .none
      · cases hf : rule.followedBy with
        | none => exact .some h
        | some q =>
          simp only [hlook q hf m m' h]
          split
          · exact .some h
          · exact .none

/-- A rule whose pattern stays within a common beginning of two texts finds the same match. -/
theorem BuiltRule.fires?_twins {rule : BuiltRule} {p : Pattern} (hp : rule.pattern = p.tied)
    {x y : Text} (hblind : p.Blind x.head? y.head?) (hx : p.Stays x) (hy : p.Stays y) (u : Text)
    (hlook : ∀ q ∈ rule.followedBy, ∀ w : Text, q.matches (w ++ y) = q.matches (w ++ x)) :
    Option.Rel (Match.Twins x y) (rule.fires? lineStart (u ++ x))
      (rule.fires? lineStart (u ++ y)) := by
  refine BuiltRule.fires?_rel (fun m m' h => h.isEmpty) ?_ (hp ▸ p.twins_find hblind hx hy u)
  intro q hq m m' h
  obtain ⟨w, hw, hw'⟩ := h.rest
  rw [hw, hw', hlook q hq w]

theorem Action.tokens_of_captures (action : Action) (base : Nat) (u : Text) {m m' : Match}
    (h : m'.captures = m.captures) : action.tokens base u m' = action.tokens base u m := by
  cases action with
  | token category => rfl
  | groups categories => simp only [Action.tokens, Match.group?, h]

end Matches

/-! ## Related steps -/

namespace Lexer

/-- Two scans where related rules fire: the same rule on both sides, or none. -/
theorem step_pair (g : Grammar) {lx lx' : Lexer} {Q : BuiltRule → Match → Match → Prop}
    (htop : lx'.stack.top = lx.stack.top) (hline : lx'.lineStart = lx.lineStart)
    (hrest : lx.rest ≠ []) (hrest' : lx'.rest ≠ [])
    (h : Option.Rel (fun found found' => found'.1 = found.1 ∧ Q found.1 found.2 found'.2)
      (firstFiring? lx.lineStart lx.rest (g.rulesOf lx.stack.top))
      (firstFiring? lx.lineStart lx'.rest (g.rulesOf lx.stack.top))) :
    (∃ rule ∈ g.rulesOf lx.stack.top, ∃ m m', Q rule m m' ∧ ∃ u u' : Text,
      lx.rest = u ++ m.rest ∧ m.stop = u.size ∧ lx'.rest = u' ++ m'.rest ∧ m'.stop = u'.size ∧
      lx.step g = lx.consume u m.rest (rule.action.tokens lx.cursor u m) rule.transition ∧
      lx'.step g = lx'.consume u' m'.rest (rule.action.tokens lx'.cursor u' m')
        rule.transition) ∨
    (∃ c rest c' rest', firstFiring? lx.lineStart lx.rest (g.rulesOf lx.stack.top) = none ∧
      lx.rest = c :: rest ∧ lx'.rest = c' :: rest' ∧
      lx.step g = lx.consume [c] rest [Token.at .text lx.cursor [c]] .stay ∧
      lx'.step g = lx'.consume [c'] rest' [Token.at .text lx'.cursor [c']] .stay) := by
  rcases step_cases g lx hrest with ⟨rule, m, u, hfire, -, htext, hstop, -, hstep⟩ |
    ⟨c, rest, hfire, hc, hstep⟩ <;>
  rcases step_cases g lx' hrest' with ⟨rule', m', u', hfire', -, htext', hstop', -, hstep'⟩ |
    ⟨c', rest', hfire', hc', hstep'⟩ <;>
  rw [htop, hline] at hfire' <;> rw [hfire, hfire'] at h
  · cases h with
    | some hq =>
      obtain ⟨hrule, hq⟩ := hq
      cases hrule
      exact Or.inl ⟨rule, (firstFiring?_eq_some hfire).1, m, m', hq, u, u', htext, hstop, htext',
        hstop', hstep, hstep'⟩
  · cases h
  · cases h
  · exact Or.inr ⟨c, rest, c', rest', hfire, hc, hc', hstep, hstep'⟩

/-- A relation between idle scans that steps preserve is preserved by runs, and the tokens are
related one by one. -/
theorem Scans.simulate {g g' : Grammar} {R : Lexer → Lexer → Prop} {T : Token → Token → Prop}
    (hidle : ∀ lx lx', R lx lx' → lx'.Idle)
    (hstep : ∀ lx lx', lx.Idle → lx.rest ≠ [] → R lx lx' → lx'.rest ≠ [] ∧
      List.Forall₂ T (lx.step g).pending (lx'.step g').pending ∧
        R (lx.step g).settle (lx'.step g').settle)
    {lx end_ : Lexer} {tokens : List Token} (h : lx.Scans g tokens end_) :
    ∀ {lx' : Lexer}, R lx lx' → ∃ tokens' end', lx'.Scans g' tokens' end' ∧
      List.Forall₂ T tokens tokens' ∧ R end_ end' := by
  induction h with
  | refl _ => exact fun {lx'} hR => ⟨[], lx', .refl (hidle _ _ hR), .nil, hR⟩
  | @step lx end_ tokens hi hrest _ ih =>
    intro lx' hR
    obtain ⟨hrest', htokens, hnext⟩ := hstep lx lx' hi hrest hR
    obtain ⟨tokens', end', hscans, hmore, hend⟩ := ih hnext
    exact ⟨_, end', .step (hidle _ _ hR) hrest' hscans, List.rel_append htokens hmore, hend⟩

/-! ## More text behind a scan -/

/-- A scan with more text behind what is left. -/
def append (lx : Lexer) (B : Text) : Lexer := { lx with rest := lx.rest ++ B }

@[simp] theorem append_rest (lx : Lexer) (B : Text) : (lx.append B).rest = lx.rest ++ B := rfl

@[simp] theorem append_cursor (lx : Lexer) (B : Text) : (lx.append B).cursor = lx.cursor := rfl

/-- Where every rule finds the same match with more text behind, so does the step. -/
theorem step_append (g : Grammar) {lx : Lexer} {B : Text} (hrest : lx.rest ≠ [])
    (h : ∀ rule ∈ g.rulesOf lx.stack.top, Option.Rel (Match.Twins [] B)
      (rule.fires? lx.lineStart lx.rest) (rule.fires? lx.lineStart (lx.rest ++ B))) :
    (lx.append B).step g = (lx.step g).append B := by
  have hrest' : (lx.append B).rest ≠ [] := by simp [hrest]
  have htop : (lx.append B).stack.top = lx.stack.top := rfl
  rcases step_pair g (Q := fun _ => Match.Twins [] B) htop rfl hrest hrest'
      (firstFiring?_rel h) with
    ⟨rule, -, m, m', hm, u, u', hu, hstop, hu', hstop', hstep, hstep'⟩ |
    ⟨c, rest, c', rest', -, hc, hc', hstep, hstep'⟩
  · obtain ⟨w, hw, hw'⟩ := hm.rest
    rw [List.append_nil] at hw
    obtain rfl : u' = u := by
      refine (Text.append_inj_of_size_eq (b := m'.rest) (d := m.rest ++ B) ?_ ?_).1
      · rw [← hu', append_rest, hu, List.append_assoc]
      · rw [← hstop', ← hstop, hm.stop]
    have htokens := rule.action.tokens_of_captures lx.cursor u' hm.captures
    rw [hstep, hstep', append_cursor, htokens, hw', ← hw]
    rfl
  · rw [append_rest, hc] at hc'
    obtain ⟨rfl, rfl⟩ := List.cons.inj hc'
    rw [hstep, hstep']
    rfl

/-- Where that is so of every step of a run, the run goes the same way with more text behind. -/
theorem Scans.append {g : Grammar} {B : Text} {P : Lexer → Prop}
    (hstep : ∀ lx, lx.rest ≠ [] → P lx → P (lx.step g).settle ∧
      ∀ rule ∈ g.rulesOf lx.stack.top, Option.Rel (Match.Twins [] B)
        (rule.fires? lx.lineStart lx.rest) (rule.fires? lx.lineStart (lx.rest ++ B)))
    {lx lx' : Lexer} {tokens : List Token} (h : lx.Scans g tokens lx') (hlx : P lx) :
    (lx.append B).Scans g tokens (lx'.append B) := by
  induction h with
  | refl hidle => exact .refl hidle
  | @step lx lx' tokens hidle hrest _ ih =>
    obtain ⟨hnext, hrules⟩ := hstep lx hrest hlx
    have hmore : ((lx.step g).append B).settle.Scans g tokens (lx'.append B) := ih hnext
    have hscans := Scans.step_eq (step_append g hrest hrules) hidle (by simp [hrest]) hmore
    exact hscans

end Lexer

/-! ## Moving a scan -/

/-- A token moved by some bytes. -/
def Token.moved (k : Nat) (t : Token) : Token :=
  { t with start := k + t.start, stop := k + t.stop }

theorem Token.at_add (category : Category) (k base : Nat) (u : Text) :
    Token.at category (k + base) u = (Token.at category base u).moved k := by
  simp [Token.at, Token.moved, Nat.add_assoc]

theorem groupTokens_add (k base : Nat) :
    ∀ (groups : List (Category × Option (Nat × Nat))) (position : Nat) (u : Text),
      groupTokens (k + base) groups position u =
        (groupTokens base groups position u).map (Token.moved k)
  | [], position, u => by
    rw [groupTokens, groupTokens]
    split
    · rfl
    · simp [Nat.add_assoc, Token.at_add]
  | (_, none) :: groups, position, u => groupTokens_add k base groups position u
  | (category, some (start, stop)) :: groups, position, u => by
    rw [groupTokens, groupTokens]
    split
    · exact groupTokens_add k base groups position u
    · simp only [groupTokens_add k base groups, Nat.add_assoc, Token.at_add, List.map_append,
        List.map_cons]
      split <;> rfl

theorem Action.tokens_add (action : Action) (k base : Nat) (u : Text) (m : Match) :
    action.tokens (k + base) u m = (action.tokens base u m).map (Token.moved k) := by
  cases action with
  | token category => simp [Action.tokens, Token.at_add]
  | groups categories => exact groupTokens_add k base _ 0 u

namespace Lexer

/-- A scan moved by some bytes. -/
def moved (k : Nat) (lx : Lexer) : Lexer :=
  { lx with cursor := k + lx.cursor, pending := lx.pending.map (Token.moved k) }

theorem consume_moved (k : Nat) (lx : Lexer) (u rest : Text) (tokens : List Token)
    (t : Transition) :
    (lx.moved k).consume u rest (tokens.map (Token.moved k)) t =
      (lx.consume u rest tokens t).moved k := by
  simp [consume, moved, Nat.add_assoc]

/-- A step does not look at the position. -/
theorem step_moved (g : Grammar) (k : Nat) (lx : Lexer) :
    (lx.moved k).step g = (lx.step g).moved k := by
  have hrest : (lx.moved k).rest = lx.rest := rfl
  have hline : (lx.moved k).lineStart = lx.lineStart := rfl
  have hstack : (lx.moved k).stack = lx.stack := rfl
  have hcursor : (lx.moved k).cursor = k + lx.cursor := rfl
  rw [step, step, hrest, hline, hstack]
  cases firstFiring? lx.lineStart lx.rest (g.rulesOf lx.stack.top) with
  | some found =>
    obtain ⟨rule, m⟩ := found
    simp only [hcursor, Action.tokens_add, consume_moved]
  | none =>
    cases lx.rest with
    | nil => rfl
    | cons c rest =>
      have htokens : [Token.at .text (k + lx.cursor) [c]] =
          [Token.at .text lx.cursor [c]].map (Token.moved k) := by
        simp [Token.at_add]
      simp only [hcursor, htokens, consume_moved]

/-- The tokens of a moved scan are the tokens of the scan, moved. -/
theorem drain_moved (g : Grammar) (k : Nat) {lx : Lexer} (hidle : lx.Idle) :
    (lx.moved k).drain g = ((lx.drain g).1.map (Token.moved k), (lx.drain g).2.moved k) := by
  obtain ⟨hscans, hend⟩ := scans_drain g hidle
  obtain ⟨tokens, lx', hscans', htokens, rfl, -⟩ := hscans.simulate
    (R := fun lx lx' => lx' = lx.moved k ∧ lx'.Idle) (T := fun t t' => t.moved k = t')
    (fun _ _ h => h.2)
    (by
      rintro lx _ hi hrest ⟨rfl, -⟩
      rw [step_moved]
      exact ⟨hrest, List.forall₂_map_right_iff.mpr (List.forall₂_same.mpr fun t _ => rfl), rfl,
        rfl⟩)
    ⟨rfl, by rw [Idle, moved, hidle]; rfl⟩
  have heq : (lx.drain g).1.map (Token.moved k) = tokens := by
    have hmap := List.forall₂_map_left_iff.mpr htokens
    rwa [List.forall₂_eq_eq_eq] at hmap
  rw [drain_of_scans hscans' hend, heq]

end Lexer

end Highlighter
