import Highlighter.Proofs.Scan.Calls

/-!
# Streaming

A caller may ask a scan for its tokens in portions: the next one, the next ones up to
a number, or all that are left.  `lx.Hands g tokens lx'` says that calls lead from one
scan to another and that each of them hands out a token, so the scan they lead to is
settled by how many they are (`Lexer.Hands.eq_after`).  Every request is such a chain
of calls, and so is every list of requests (`Lexer.hands_answers`).

The states change with a step, before the tokens of the step are handed out.  They
still agree for all ways to ask, since what is compared are scans after the same
number of tokens.

`Lexer.Refills` is the loop that a call stands for: steps are made while no token waits
and text is left.  A step always finds a token, so the loop ends after one step at most.
-/

namespace Highlighter

namespace Lexer

variable {g : Grammar} {source : Text} {lx lx' lx'' : Lexer} {tokens tokens' : List Token}

/-! ## Requests -/

/-- What a caller asks a scan for. -/
inductive Request where
  /-- The next token. -/
  | next
  /-- The next tokens up to a number. -/
  | take (count : Nat)
  /-- All further tokens. -/
  | drain
  deriving DecidableEq, Repr

/-- The tokens that answer a request, and the scan after them. -/
def answer (g : Grammar) (lx : Lexer) : Request → List Token × Lexer
  | .next => ((lx.next g).1.toList, (lx.next g).2)
  | .take count => lx.take g count
  | .drain => lx.drain g

/-- The tokens that answer some requests made in turn, put together, and the scan after them. -/
def answers (g : Grammar) : List Request → Lexer → List Token × Lexer
  | [], lx => ([], lx)
  | request :: others, lx =>
    let (tokens, lx) := lx.answer g request
    let (more, lx) := answers g others lx
    (tokens ++ more, lx)

/-! ## Calls that hand out tokens -/

/-- Some calls lead from a scan to another, and each of them hands out a token. -/
inductive Hands (g : Grammar) : Lexer → List Token → Lexer → Prop where
  /-- No call. -/
  | refl {lx : Lexer} : Hands g lx [] lx
  /-- A call that hands out a token, and the calls after it. -/
  | next {lx lx' : Lexer} {t : Token} {tokens : List Token} : (lx.next g).1 = some t →
      Hands g (lx.next g).2 tokens lx' → Hands g lx (t :: tokens) lx'

namespace Hands

theorem trans (h : lx.Hands g tokens lx') (h' : lx'.Hands g tokens' lx'') :
    lx.Hands g (tokens ++ tokens') lx'' := by
  induction h with
  | refl => exact h'
  | next ht _ ih => exact .next ht (ih h')

/-- The number of tokens settles to which scan the calls lead. -/
theorem eq_after (h : lx.Hands g tokens lx') : lx' = lx.after g tokens.length := by
  induction h with
  | refl => rfl
  | next _ _ ih => exact ih

/-- Of two chains of calls from one scan, the longer goes on from where the shorter leads. -/
theorem exists_rest (h : lx.Hands g tokens lx') (h' : lx.Hands g tokens' lx'')
    (hle : tokens.length ≤ tokens'.length) :
    ∃ more, tokens' = tokens ++ more ∧ lx'.Hands g more lx'' := by
  induction h generalizing tokens' with
  | refl => exact ⟨tokens', rfl, h'⟩
  | @next lx lx' t tokens ht _ ih =>
    cases h' with
    | refl => simp at hle
    | @next _ _ t' tokens' ht' hrest =>
      obtain rfl : t = t' := Option.some.inj (ht.symm.trans ht')
      obtain ⟨more, rfl, hmore⟩ := ih hrest (by simpa using hle)
      exact ⟨more, rfl, hmore⟩

end Hands

/-- A call hands out nothing exactly when no token waits and no text is left. -/
theorem next_eq_none_iff : (lx.next g).1 = none ↔ lx.Idle ∧ lx.rest = [] := by
  rcases lx.next_cases g with ⟨hidle, hrest, hnext⟩ | ⟨lx₀, t, more, hlx₀, hpending, hnext⟩
  · rw [hnext]
    exact iff_of_true rfl ⟨hidle, hrest⟩
  · rw [hnext]
    refine iff_of_false (Option.some_ne_none t) ?_
    rintro ⟨hidle, hrest⟩
    rcases hlx₀ with rfl | ⟨-, hne, -⟩
    · exact absurd (hidle.symm.trans hpending) (List.cons_ne_nil t more).symm
    · exact hne hrest

/-- No call hands out a token any more once one has handed out none. -/
theorem Hands.of_next_eq_none (h : lx.Hands g tokens lx') (hnone : (lx.next g).1 = none) :
    tokens = [] ∧ lx' = lx := by
  cases h with
  | refl => exact ⟨rfl, rfl⟩
  | next ht _ => exact absurd (hnone.symm.trans ht) (Option.some_ne_none _).symm

/-! ## Requests as calls -/

theorem hands_next (g : Grammar) (lx : Lexer) :
    lx.Hands g (lx.next g).1.toList (lx.next g).2 := by
  rcases lx.next_cases g with ⟨-, -, hnext⟩ | ⟨lx₀, t, more, -, -, hnext⟩
  · rw [hnext]
    exact .refl
  · have ht : (lx.next g).1 = some t := by rw [hnext]
    rw [ht]
    exact .next ht .refl

theorem hands_take (g : Grammar) (n : Nat) (lx : Lexer) :
    lx.Hands g (lx.take g n).1 (lx.take g n).2 := by
  induction n generalizing lx with
  | zero => exact .refl
  | succ n ih =>
    rcases lx.next_cases g with ⟨-, -, hnext⟩ | ⟨lx₀, t, more, -, -, hnext⟩
    · rw [take, hnext]
      exact .refl
    · have ht : (lx.next g).1 = some t := by rw [hnext]
      have hrest := ih (lx.next g).2
      rw [take, hnext]
      rw [hnext] at hrest
      exact .next ht (by rw [hnext]; exact hrest)

theorem hands_answer (g : Grammar) (lx : Lexer) (request : Request) :
    lx.Hands g (lx.answer g request).1 (lx.answer g request).2 := by
  cases request with
  | next => exact hands_next g lx
  | take count => exact hands_take g count lx
  | drain => exact hands_take g _ lx

theorem hands_answers (g : Grammar) (requests : List Request) (lx : Lexer) :
    lx.Hands g (lx.answers g requests).1 (lx.answers g requests).2 := by
  induction requests generalizing lx with
  | nil => exact .refl
  | cons request others ih => exact (hands_answer g lx request).trans (ih _)

/-- Draining leaves nothing, also where tokens wait. -/
theorem next_drain_eq_none (g : Grammar) (lx : Lexer) : ((lx.drain g).2.next g).1 = none := by
  have hdrain : (lx.drain g).2 = (lx.settle.drain g).2 := by
    rw [drain, take_pending g _ _ lx rfl, drain, settle_rest, show lx.settle.pending = [] from rfl,
      List.length_nil, Nat.zero_add]
  obtain ⟨hscans, hend⟩ := scans_drain g lx.idle_settle
  rw [hdrain]
  exact next_eq_none_iff.mpr ⟨hscans.idle_right, hend⟩

/-- Some requests of which one drains the scan leave nothing. -/
theorem next_answers_eq_none {requests : List Request} (h : .drain ∈ requests) (lx : Lexer) :
    ((lx.answers g requests).2.next g).1 = none := by
  induction requests generalizing lx with
  | nil => simp at h
  | cons request others ih =>
    rcases List.mem_cons.mp h with rfl | h
    · -- What comes after the draining hands out nothing and leaves the scan as it is.
      have hdrained := next_drain_eq_none g lx
      have heq := ((hands_answers g others (lx.drain g).2).of_next_eq_none hdrained).2
      have hanswers : (lx.answers g (.drain :: others)).2 =
          ((lx.drain g).2.answers g others).2 := rfl
      rw [hanswers, heq]
      exact hdrained
    · exact ih h _

/-! ## The loop of a call -/

/-- Steps are made while no token waits and text is left: how many, and the scan after them. -/
inductive Refills (g : Grammar) : Lexer → Nat → Lexer → Prop where
  /-- A token waits, or no text is left. -/
  | done {lx : Lexer} : ¬ lx.Idle ∨ lx.rest = [] → Refills g lx 0 lx
  /-- A step, and the steps after it. -/
  | step {lx lx' : Lexer} {steps : Nat} : lx.Idle → lx.rest ≠ [] →
      Refills g (lx.step g) steps lx' → Refills g lx (steps + 1) lx'

/-- The loop ends after one step at most, since a step finds a token. -/
theorem Refills.steps_le_one {steps : Nat} (h : lx.Refills g steps lx') : steps ≤ 1 := by
  cases h with
  | done _ => exact Nat.zero_le 1
  | step hidle hrest hmore =>
    cases hmore with
    | done _ => exact Nat.le_refl 1
    | step hidle' _ _ => exact absurd hidle' (step_pending_ne_nil g hidle hrest)

/-- A call runs the loop and hands out the first token that waits then. -/
theorem exists_refills (g : Grammar) (lx : Lexer) : ∃ steps lx', lx.Refills g steps lx' ∧
    lx.next g = (lx'.pending.head?, { lx' with pending := lx'.pending.tail }) := by
  rcases lx.next_cases g with ⟨hidle, hrest, hnext⟩ | ⟨lx₀, t, more, hlx₀, hpending, hnext⟩
  · refine ⟨0, lx, .done (Or.inr hrest), ?_⟩
    have hnil : lx.pending = [] := hidle
    rw [hnext, hnil]
    exact Prod.ext rfl (by cases lx; cases hnil; rfl)
  · have hwaits : ¬ lx₀.Idle := by simp [Idle, hpending]
    have hhead : lx.next g = (lx₀.pending.head?, { lx₀ with pending := lx₀.pending.tail }) := by
      rw [hnext, hpending]
      rfl
    rcases hlx₀ with rfl | ⟨hidle, hrest, rfl⟩
    · exact ⟨0, lx₀, .done (Or.inl hwaits), hhead⟩
    · exact ⟨1, lx.step g, .step hidle hrest (.done (Or.inl hwaits)), hhead⟩

end Lexer

/-! ## Portions of the tokens of a source -/

/-- The tokens of a source are handed out by calls that leave nothing. -/
theorem hands_tokenize (g : Grammar) (source : Text) :
    ∃ lx, (Lexer.start g source).Hands g (tokenize g source) lx ∧ (lx.next g).1 = none :=
  ⟨_, Lexer.hands_take g _ _, Lexer.next_drain_eq_none g _⟩

/-- However the tokens of a source are asked for, what was obtained is a beginning of them.  It is
all of them after draining, and exactly when the next call has none.  The states that are open
depend on the number of tokens obtained alone.  A call makes one step at most. -/
theorem Lexer.answers_streaming (g : Grammar) (source : Text) (requests : List Request) :
    let obtained := (start g source).answers g requests
    obtained.1 <+: tokenize g source ∧
    (.drain ∈ requests → obtained.1 = tokenize g source) ∧
    (∀ requests', let obtained' := (start g source).answers g requests'
      obtained'.1.length = obtained.1.length →
        obtained'.2.currentState = obtained.2.currentState ∧
          obtained'.2.depth = obtained.2.depth) ∧
    (∃ steps lx, obtained.2.Refills g steps lx ∧
      obtained.2.next g = (lx.pending.head?, { lx with pending := lx.pending.tail })) ∧
    (∀ steps lx, obtained.2.Refills g steps lx → steps ≤ 1) ∧
    ((obtained.2.next g).1 = none ↔ obtained.1 = tokenize g source) ∧
    ((obtained.2.next g).1 = none → detokenize obtained.1 = source) := by
  intro obtained
  have hobtained : (start g source).Hands g obtained.1 obtained.2 := hands_answers g requests _
  obtain ⟨lx, hall, hend⟩ := hands_tokenize g source
  have hle : obtained.1.length ≤ (tokenize g source).length := by
    by_contra hlt
    obtain ⟨more, hmore, hrest⟩ := hall.exists_rest hobtained (by omega)
    rw [hmore, (hrest.of_next_eq_none hend).1, List.append_nil] at hlt
    exact hlt (Nat.le_refl _)
  obtain ⟨more, hmore, hrest⟩ := hobtained.exists_rest hall hle
  have hdone : (obtained.2.next g).1 = none ↔ obtained.1 = tokenize g source := by
    constructor
    · intro hnone
      rw [hmore, (hrest.of_next_eq_none hnone).1, List.append_nil]
    · intro heq
      rw [hobtained.eq_after, heq, ← hall.eq_after]
      exact hend
  refine ⟨⟨more, hmore.symm⟩, fun hdrain => hdone.mp (next_answers_eq_none hdrain _), ?_,
    exists_refills g _, fun _ _ h => h.steps_le_one, hdone, fun hnone => ?_⟩
  · intro requests' obtained' hlength
    have hobtained' : (start g source).Hands g obtained'.1 obtained'.2 :=
      hands_answers g requests' _
    have hsame : obtained'.2 = obtained.2 := by
      rw [hobtained'.eq_after, hobtained.eq_after, hlength]
    exact ⟨congrArg currentState hsame, congrArg depth hsame⟩
  · rw [hdone.mp hnone]
    exact (tiles_tokenize g source).detokenize

end Highlighter
