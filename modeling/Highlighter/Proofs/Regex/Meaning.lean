import Highlighter.Proofs.Pattern.Extent
import Highlighter.Proofs.Regex.Reading

/-!
# The pattern a text means

The readings of `Regex.Reads` end in a regular expression, and what is matched is the
pattern it unfolds to.  `r.Carries k k' n p` says that `r` unfolds to `p` without any
marks, opens the groups after `k` up to `k'`, and is no larger than `n` says.

`MeansPart`, `MeansUnit`, `MeansSeq` and `MeansBody` join this with a reading: the
text is one part, one part that may be repeated, a sequence of them, or all that
stands between two parentheses.  A pattern text is taken apart by the lemmas of this
module alone, and `MeansBody.tied_eq_ok` states what a rule gets from it.
-/

namespace Highlighter

/-! ## Patterns of words -/

namespace Pattern

/-- A character of a set, at least once. -/
def plus (s : CharSet) : Pattern := .seq (.one s) (.many true s)

/-- A pattern or nothing. -/
def opt (p : Pattern) : Pattern := .alt p .empty

/-- The choice between some patterns. -/
def choice : List Pattern → Pattern
  | [] => .empty
  | [p] => p
  | p :: rest => .alt p (choice rest)

/-- A character, in any case if `b` says so. -/
def letter (b : Bool) (c : Char) : CharSet :=
  if b && decide (1 < (Unicode.caseVariants c).length) then .anyCase (.only c) else .only c

/-- A word and a pattern after it. -/
def wordThen (b : Bool) (w : Text) (p : Pattern) : Pattern :=
  w.foldr (fun c q => .seq (.one (letter b c)) q) p

/-- A word. -/
def word (b : Bool) : Text → Pattern
  | [] => .empty
  | [c] => .one (letter b c)
  | c :: rest => .seq (.one (letter b c)) (word b rest)

end Pattern

namespace Regex

theorem literal_ruleFlags (b : Bool) (c : Char) :
    literal (ruleFlags b) c = .one (Pattern.letter b c) := by
  cases b with
  | false => rfl
  | true =>
    by_cases h : (Unicode.caseVariants c).length ≤ 1
    · simp [literal, ruleFlags, Pattern.letter, h, Nat.not_lt.mpr h]
    · simp [literal, ruleFlags, Pattern.letter, h, Nat.lt_of_not_le h]

theorem setStates_letter_le (b : Bool) (c : Char) : setStates (Pattern.letter b c) ≤ 5 := by
  have := c.utf8Size_le_four
  rw [Pattern.letter]
  split <;> simp only [setStates] <;> omega

/-! ## Carrying a pattern -/

/-- A regular expression unfolds to a pattern without marks, and is of bounded size. -/
structure Carries (r : Regex) (k k' n : Nat) (p : Pattern) : Prop where
  /-- It unfolds to the pattern, and no mark is used up. -/
  unfolds : ∀ next, r.unfold false next = (p, next)
  /-- A pattern that consumes comes from an expression that does. -/
  solid : p.consumes = true → r.nullable = false ∧ r.neverConsumes = false
  /-- Its groups are those after `k` up to `k'`. -/
  groups : max k r.groupCount = k'
  /-- It is not nested deeper than `n`. -/
  depth : r.depth ≤ n
  /-- It has no more states than `n` allows. -/
  states : r.states ≤ 2500 * n

namespace Carries

variable {r s : Regex} {k k' k'' m n : Nat} {p q : Pattern}

/-- A bound on depth and states may be raised. -/
theorem mono (h : r.Carries k k' m p) (hmn : m ≤ n) : r.Carries k k' n p :=
  ⟨h.unfolds, h.solid, h.groups, Nat.le_trans h.depth hmn, by have := h.states; omega⟩

theorem one {c : CharSet} (hn : setStates c ≤ 2500 * n) : (Regex.one c).Carries k k n (.one c) :=
  ⟨fun _ => rfl, fun _ => ⟨rfl, rfl⟩, Nat.max_eq_left (Nat.zero_le _), Nat.zero_le _, hn⟩

theorem bracket {c : CharSet} {d : Nat} (hd : d ≤ n) (hn : setStates c ≤ 2500 * n) :
    (Regex.bracket c d).Carries k k n (.one c) :=
  ⟨fun _ => rfl, fun _ => ⟨rfl, rfl⟩, Nat.max_eq_left (Nat.zero_le _), hd, hn⟩

theorem check (a : Assertion) : (Regex.check a).Carries k k 1 (.check a) :=
  ⟨fun _ => rfl, fun h => by simp [Pattern.consumes] at h, Nat.max_eq_left (Nat.zero_le _),
    by simp [Regex.depth], by simp [Regex.states]⟩

/-- What is one level deeper and has two more states is within one more unit of size. -/
theorem wrapped (h : r.Carries k k' n p) (hdepth : s.depth ≤ r.depth + 1)
    (hstates : s.states ≤ r.states + 2) : s.depth ≤ n + 1 ∧ s.states ≤ 2500 * (n + 1) := by
  have := h.depth
  have := h.states
  omega

/-- A group has the number that comes next, and what is in it is numbered behind it. -/
theorem group (h : r.Carries (k + 1) k' n p) :
    (Regex.group (k + 1) r).Carries k k' (n + 1) (.group (k + 1) p) where
  unfolds next := by simp [unfold, h.unfolds]
  solid hp := h.solid hp
  groups := by
    have := h.groups
    simp only [groupCount]
    omega
  depth := (h.wrapped (Nat.le_refl _) (Nat.le_refl _)).1
  states := (h.wrapped (Nat.le_refl _) (Nat.le_refl _)).2

theorem scope (h : r.Carries k k' n p) : (Regex.scope r).Carries k k' (n + 1) p where
  unfolds next := by simp [unfold, h.unfolds]
  solid hp := h.solid hp
  groups := h.groups
  depth := (h.wrapped (s := .scope r) (Nat.le_refl _) (Nat.le_add_right _ 2)).1
  states := (h.wrapped (s := .scope r) (Nat.le_refl _) (Nat.le_add_right _ 2)).2

/-- The second half of a sequence is numbered where the first one stops. -/
theorem seq (hr : r.Carries k k' m p) (hs : s.Carries k' k'' n q) :
    (Regex.seq r s).Carries k k'' (m + n + 1) (.seq p q) where
  unfolds next := by simp [unfold, hr.unfolds, hs.unfolds]
  solid hp := by
    rcases Bool.or_eq_true_iff.mp hp with hp | hp
    · simp [nullable, neverConsumes, hr.solid hp]
    · simp [nullable, neverConsumes, hs.solid hp]
  groups := by
    have := hr.groups
    have := hs.groups
    simp only [groupCount]
    omega
  depth := by
    have := hr.depth
    have := hs.depth
    cases s <;> simp only [Regex.depth] at * <;> omega
  states := by
    have := hr.states
    have := hs.states
    simp only [Regex.states]
    omega

/-- So is the second branch of an alternation. -/
theorem alt (hr : r.Carries k k' m p) (hs : s.Carries k' k'' n q) :
    (Regex.alt r s).Carries k k'' (m + n + 1) (.alt p q) where
  unfolds next := by simp [unfold, hr.unfolds, hs.unfolds, Regex.choice]
  solid hp := by
    obtain ⟨hp, hq⟩ := Bool.and_eq_true_iff.mp hp
    simp [nullable, neverConsumes, hr.solid hp, hs.solid hq]
  groups := by
    have := hr.groups
    have := hs.groups
    simp only [groupCount]
    omega
  depth := by
    have := hr.depth
    have := hs.depth
    cases s <;> simp only [Regex.depth] at * <;> omega
  states := by
    have := hr.states
    have := hs.states
    simp only [Regex.states]
    omega

/-- An expression that consumes is repeated as often as the text says. -/
theorem repetition_eq (h : r.Carries k k' n p) (hp : p.consumes = true) (min : Nat)
    (max : Option Nat) (greedy : Bool) :
    repetition min max greedy r = .times min max greedy r := by
  simp [repetition, (h.solid hp).2]

/-- A set repeated at least once. -/
theorem plus {c : CharSet} (h : r.Carries k k' n (.one c)) :
    (repetition 1 none true r).Carries k k' (2 * n + 1) (.plus c) := by
  rw [h.repetition_eq rfl]
  exact {
    unfolds := fun next => by
      simp [unfold, (h.solid rfl).1, copies, h.unfolds, repeated, Pattern.plus]
    solid := fun _ => by simp [nullable, neverConsumes, h.solid rfl]
    groups := by simpa [groupCount] using h.groups
    depth := by
      have := h.depth
      simp only [Regex.depth]
      omega
    states := by
      have := h.states
      simp only [Regex.states, Nat.max_self, Nat.one_mul]
      omega }

/-- A set repeated any number of times. -/
theorem star {c : CharSet} (h : r.Carries k k' n (.one c)) :
    (repetition 0 none true r).Carries k k' (n + 1) (.many true c) := by
  have hstates : (times 0 none true r).states ≤ r.states + 2 := by simp [Regex.states]
  rw [h.repetition_eq rfl]
  exact {
    unfolds := fun next => by simp [unfold, (h.solid rfl).1, h.unfolds, repeated]
    solid := fun hp => by simp [Pattern.consumes] at hp
    groups := by simpa [groupCount] using h.groups
    depth := (h.wrapped (Nat.le_refl _) hstates).1
    states := (h.wrapped (Nat.le_refl _) hstates).2 }

/-- An optional expression that consumes when it is there. -/
theorem opt (h : r.Carries k k' n p) (hp : p.consumes = true) :
    (repetition 0 (some 1) true r).Carries k k' (n + 1) p.opt := by
  have hstates : (times 0 (some 1) true r).states ≤ r.states + 2 := by simp [Regex.states]
  rw [h.repetition_eq hp]
  exact {
    unfolds := fun next => by
      simp [unfold, copies, options, h.unfolds, Regex.choice, optional, Pattern.opt]
    solid := fun hq => by simp [Pattern.opt, Pattern.consumes] at hq
    groups := by simpa [groupCount] using h.groups
    depth := (h.wrapped (Nat.le_refl _) hstates).1
    states := (h.wrapped (Nat.le_refl _) hstates).2 }

/-- A group that is not captured and is repeated any number of times, consuming each time. -/
theorem loop (h : (Regex.scope r).Carries k k' n p) (hp : p.consumes = true)
    (hone : ∀ c, p ≠ .one c) :
    (repetition 0 none true (.scope r)).Carries k k' (n + 1) (.loop true p) := by
  have hstates : (times 0 none true (.scope r)).states ≤ (Regex.scope r).states + 2 := by
    simp [Regex.states]
  rw [h.repetition_eq hp]
  exact {
    unfolds := fun next => by
      rw [unfold]
      simp only [(h.solid hp).1, Bool.or_false, Bool.not_false, Bool.and_true, decide_true,
        if_true, h.unfolds]
      cases p <;> simp_all [repeated]
    solid := fun hq => by simp [Pattern.consumes] at hq
    groups := by simpa [groupCount] using h.groups
    depth := (h.wrapped (Nat.le_refl _) hstates).1
    states := (h.wrapped (Nat.le_refl _) hstates).2 }

end Carries

/-! ## The choice between words -/

theorem word_cons_cons (b : Bool) (c d : Char) (w : Text) :
    word b (c :: d :: w) = .seq (.one (Pattern.letter b c)) (word b (d :: w)) := by
  simp [word, literal_ruleFlags, sequence]

theorem word_singleton (b : Bool) (c : Char) : word b [c] = .one (Pattern.letter b c) := by
  simp [word, literal_ruleFlags, sequence]

/-- A word has no group and no loop, and is unfolded to itself. -/
theorem unfold_word (b marked : Bool) :
    ∀ (w : Text) (next : Nat), (word b w).unfold marked next = (Pattern.word b w, next)
  | [], _ => rfl
  | [c], _ => by rw [word_singleton]; rfl
  | c :: d :: w, next => by
    rw [word_cons_cons]
    simp [unfold, unfold_word b marked (d :: w), Pattern.word]

/-- An alternation nests one level deeper than its branches, unless the last one goes on with it. -/
theorem depth_alt_of_ne {r s : Regex} (h : ∀ s₁ s₂, s ≠ .alt s₁ s₂) :
    (Regex.alt r s).depth = max r.depth s.depth + 1 := by
  cases s with
  | alt s₁ s₂ => exact absurd rfl (h s₁ s₂)
  | _ => rfl

theorem depth_word_le (b : Bool) : ∀ w : Text, (word b w).depth ≤ 1
  | [] => by simp [word, sequence, Regex.depth]
  | [c] => by simp [word_singleton, Regex.depth]
  | [c, d] => by simp [word_cons_cons, word_singleton, Regex.depth]
  | c :: d :: e :: w => by
    have ih := depth_word_le b (d :: e :: w)
    rw [word_cons_cons] at ih
    rw [word_cons_cons, word_cons_cons]
    simp only [Regex.depth] at ih ⊢
    omega

/-- A character of a word has at most five states, those of its other cases included. -/
theorem states_word_le (b : Bool) : ∀ w : Text, (word b w).states ≤ 5 * w.length + 1
  | [] => by simp [word, sequence, Regex.states]
  | [c] => by
    have := setStates_letter_le b c
    simp only [word_singleton, Regex.states, List.length_singleton]
    omega
  | c :: d :: w => by
    have := setStates_letter_le b c
    have ih := states_word_le b (d :: w)
    rw [word_cons_cons]
    simp only [Regex.states, List.length_cons] at ih ⊢
    omega

theorem groupCount_word (b : Bool) : ∀ w : Text, (word b w).groupCount = 0
  | [] => rfl
  | [c] => by rw [word_singleton]; rfl
  | c :: d :: w => by
    rw [word_cons_cons]
    simp [groupCount, groupCount_word b (d :: w)]

theorem solid_word (b : Bool) : ∀ w : Text, (Pattern.word b w).consumes = true →
    (word b w).nullable = false ∧ (word b w).neverConsumes = false
  | [], h => by simp [Pattern.word, Pattern.consumes] at h
  | [c], _ => by rw [word_singleton]; exact ⟨rfl, rfl⟩
  | c :: d :: w, _ => by rw [word_cons_cons]; exact ⟨rfl, rfl⟩

/-- A word of at most thirty characters is within the unit of size. -/
theorem word_carries (b : Bool) (k : Nat) {w : Text} (hw : w.length ≤ 30) :
    (word b w).Carries k k 1 (Pattern.word b w) where
  unfolds := unfold_word b false w
  solid := solid_word b w
  groups := by rw [groupCount_word]; exact Nat.max_eq_left (Nat.zero_le _)
  depth := depth_word_le b w
  states := by have := states_word_le b w; omega

section Alternatives

variable (b : Bool)

/-- A choice between words is the first one or a choice between the others. -/
theorem alternatives_word_cons_cons (w v : Text) (ws : List Text) :
    alternatives ((w :: v :: ws).map (word b)) =
      .alt (word b w) (alternatives ((v :: ws).map (word b))) := rfl

/-- A choice of words is unfolded to the choice of the words. -/
theorem unfold_alternatives_word : ∀ (ws : List Text) (next : Nat),
    (alternatives (ws.map (word b))).unfold false next =
      (Pattern.choice (ws.map (Pattern.word b)), next)
  | [], _ => rfl
  | [w], next => unfold_word b false w next
  | w :: v :: ws, next => by
    rw [alternatives_word_cons_cons]
    simp only [unfold, unfold_word, unfold_alternatives_word (v :: ws), Regex.choice,
      Bool.false_eq_true, if_false]
    rfl

theorem groupCount_alternatives_word : ∀ ws : List Text,
    (alternatives (ws.map (word b))).groupCount = 0
  | [] => rfl
  | [w] => groupCount_word b w
  | w :: v :: ws => by
    rw [alternatives_word_cons_cons, groupCount, groupCount_word,
      groupCount_alternatives_word (v :: ws)]
    rfl

theorem solid_alternatives_word : ∀ ws : List Text,
    (Pattern.choice (ws.map (Pattern.word b))).consumes = true →
      (alternatives (ws.map (word b))).nullable = false ∧
      (alternatives (ws.map (word b))).neverConsumes = false
  | [], h => by simp [Pattern.choice, Pattern.consumes] at h
  | [w], h => solid_word b w h
  | w :: v :: ws, h => by
    obtain ⟨hw, hv⟩ := Bool.and_eq_true_iff.mp h
    obtain ⟨hnullable, hnever⟩ := solid_alternatives_word (v :: ws) hv
    rw [alternatives_word_cons_cons, nullable, neverConsumes, (solid_word b w hw).1,
      (solid_word b w hw).2, hnullable, hnever]
    exact ⟨rfl, rfl⟩

/-- However many words there are, the choice between them is one level. -/
theorem depth_alternatives_word_le : ∀ ws : List Text, (alternatives (ws.map (word b))).depth ≤ 2
  | [] => by simp [alternatives, Regex.depth]
  | [w] => Nat.le_succ_of_le (depth_word_le b w)
  | [w, v] => by
    have := depth_word_le b w
    have := depth_word_le b v
    have hne : ∀ r s, word b v ≠ .alt r s := by
      intro r s
      cases v with
      | nil => simp [word, sequence]
      | cons c v => cases v <;> simp [word_singleton, word_cons_cons]
    rw [show alternatives ([w, v].map (word b)) = .alt (word b w) (word b v) from rfl,
      depth_alt_of_ne hne]
    omega
  | w :: v :: u :: ws => by
    have := depth_word_le b w
    have ih := depth_alternatives_word_le (v :: u :: ws)
    rw [alternatives_word_cons_cons] at ih
    rw [alternatives_word_cons_cons, alternatives_word_cons_cons]
    simp only [Regex.depth] at ih ⊢
    omega

/-- Each word of a choice has its states, and each word but the last one more for its bar. -/
theorem states_alternatives_word_le : ∀ ws : List Text, (∀ w ∈ ws, w.length ≤ 30) →
    (alternatives (ws.map (word b))).states ≤ 152 * ws.length + 1
  | [], _ => by simp [alternatives, Regex.states]
  | [w], h => by
    have hlen := h w (List.mem_singleton_self w)
    have hword : (alternatives ([w].map (word b))).states ≤ 5 * w.length + 1 := states_word_le b w
    rw [List.length_singleton]
    omega
  | w :: v :: ws, h => by
    obtain ⟨hlen, hws⟩ := List.forall_mem_cons.mp h
    have hword := states_word_le b w
    have ih := states_alternatives_word_le (v :: ws) hws
    rw [alternatives_word_cons_cons, Regex.states, List.length_cons]
    omega

/-- What the choice between some words carries. -/
theorem alternatives_word_carries (k : Nat) {ws : List Text} (hws : ∀ w ∈ ws, w.length ≤ 30)
    (hcount : ws.length ≤ 40) :
    (alternatives (ws.map (word b))).Carries k k 3
      (Pattern.choice (ws.map (Pattern.word b))) where
  unfolds := unfold_alternatives_word b ws
  solid := solid_alternatives_word b ws
  groups := by rw [groupCount_alternatives_word]; exact Nat.max_eq_left (Nat.zero_le _)
  depth := Nat.le_succ_of_le (depth_alternatives_word_le b ws)
  states := by
    have := states_alternatives_word_le b ws hws
    omega

end Alternatives

/-! ## Meanings -/

/-- A text that is one part of a sequence and means a pattern. -/
def MeansPart (b : Bool) (k k' n : Nat) (t : Text) (p : Pattern) : Prop :=
  ∃ r, ReadsPart b k k' t r ∧ r.Carries k k' n p

/-- A text that is one part of a sequence, where the part may be a repetition or the edge of a
word, and means a pattern. -/
def MeansUnit (b : Bool) (k k' n : Nat) (t : Text) (p : Pattern) : Prop :=
  ∃ r, Reads b k k' t (·.add r) ∧ r.Carries k k' n p

/-- A text that is a sequence of parts and means a pattern. -/
def MeansSeq (b : Bool) (k k' n : Nat) (t : Text) (p : Pattern) : Prop :=
  ∃ rs, rs ≠ [] ∧ Reads b k k' t (·.adds rs) ∧ (sequence rs).Carries k k' n p

/-- A text that may stand between two parentheses and means a pattern. -/
def MeansBody (b : Bool) (k k' n : Nat) (t : Text) (p : Pattern) : Prop :=
  ∃ f, Reads b k k' t f ∧ ((f ⟨[], []⟩).close).Carries k k' n p

section Meanings

variable {b : Bool} {k k' k'' m n : Nat} {t u w : Text} {p q : Pattern} {s : CharSet}

theorem MeansPart.unit (h : MeansPart b k k' n t p) : MeansUnit b k k' n t p := by
  obtain ⟨r, hread, hr⟩ := h
  exact ⟨r, hread.reads, hr⟩

theorem MeansUnit.seq (h : MeansUnit b k k' n t p) : MeansSeq b k k' n t p := by
  obtain ⟨r, hread, hr⟩ := h
  exact ⟨[r], by simp, hread, hr⟩

theorem MeansPart.seq (h : MeansPart b k k' n t p) : MeansSeq b k k' n t p := h.unit.seq

/-- A unit and a settled text behind it are read as their sequence. -/
theorem MeansUnit.append (h : MeansUnit b k k' m t p) (hu : MeansSeq b k' k'' n u q)
    (hsettled : Settled u) : MeansSeq b k k'' (m + n + 1) (t ++ u) (.seq p q) := by
  obtain ⟨r, hread, hr⟩ := h
  obtain ⟨rs, hne, hreads, hrs⟩ := hu
  refine ⟨r :: rs, by simp, hread.append hreads hsettled, ?_⟩
  cases rs with
  | nil => exact absurd rfl hne
  | cons s rs => exact hr.seq hrs

theorem MeansPart.append (h : MeansPart b k k' m t p) (hu : MeansSeq b k' k'' n u q)
    (hsettled : Settled u) : MeansSeq b k k'' (m + n + 1) (t ++ u) (.seq p q) :=
  h.unit.append hu hsettled

theorem MeansSeq.body (h : MeansSeq b k k' n t p) : MeansBody b k k' n t p := by
  obtain ⟨rs, -, hreads, hrs⟩ := h
  refine ⟨_, hreads, ?_⟩
  rw [Level.close, Level.current_adds, Level.adds_eq]
  exact hrs

/-- Two branches with a bar between are read as their alternation. -/
theorem MeansSeq.alt (h : MeansSeq b k k' m t p) (hu : MeansSeq b k' k'' n u q)
    (hsettled : Settled u) :
    MeansBody b k k'' (m + n + 1) (t ++ ['|'] ++ u) (.alt p q) := by
  obtain ⟨rs, -, hreads, hrs⟩ := h
  obtain ⟨ss, -, hreads', hss⟩ := hu
  refine ⟨_, (hreads.append Reads.bar ⟨by simp, by simp⟩).append hreads' hsettled, ?_⟩
  have hbar : (Level.adds ⟨[], []⟩ rs).bar = ⟨[], [sequence rs]⟩ := by
    rw [Level.bar, Level.current_adds, Level.adds_eq]
  have hclose : ((Level.adds ⟨[], []⟩ rs).bar.adds ss).close =
      .alt (sequence rs) (sequence ss) := by
    rw [hbar, Level.close, Level.current_adds, Level.adds_eq]
    rfl
  simp only [Function.comp_apply, hclose]
  exact hrs.alt hss

/-- A captured group. -/
theorem MeansBody.group (h : MeansBody b (k + 1) k' n t p) (ht : t.head? ≠ some '?') :
    MeansPart b k k' (n + 1) ('(' :: t ++ [')']) (.group (k + 1) p) := by
  obtain ⟨f, hread, hf⟩ := h
  exact ⟨_, hread.group ht, hf.group⟩

/-- A group that is not captured. -/
theorem MeansBody.scope (h : MeansBody b k k' n t p) :
    MeansPart b k k' (n + 1) ("(?:".toList ++ t ++ [')']) p := by
  obtain ⟨f, hread, hf⟩ := h
  exact ⟨_, hread.scope, hf.scope⟩

/-- A part that may be missing. -/
theorem MeansPart.opt (h : MeansPart b k k' n t p) (hp : p.consumes = true) :
    MeansUnit b k k' (n + 1) (t ++ ['?']) p.opt := by
  obtain ⟨r, hread, hr⟩ := h
  exact ⟨_, hread.repeats (by decide), hr.opt hp⟩

/-- A group that is not captured and is repeated. -/
theorem MeansBody.loop (h : MeansBody b k k' n t p) (hp : p.consumes = true)
    (hone : ∀ c, p ≠ .one c) :
    MeansUnit b k k' (n + 2) ("(?:".toList ++ t ++ [')'] ++ ['*']) (.loop true p) := by
  obtain ⟨f, hread, hf⟩ := h
  exact ⟨_, hread.scope.repeats (by decide), hf.scope.loop hp hone⟩

/-- A text that means one character of a set. -/
def MeansSet (b : Bool) (t : Text) (s : CharSet) : Prop :=
  ∃ r, ∀ k, ReadsPart b k k t r ∧ r.Carries k k 2 (.one s)

theorem MeansSet.part (h : MeansSet b t s) : MeansPart b k k 2 t (.one s) := by
  obtain ⟨r, hr⟩ := h
  exact ⟨r, hr k⟩

theorem MeansSet.plus (h : MeansSet b t s) : MeansUnit b k k 5 (t ++ ['+']) (.plus s) := by
  obtain ⟨r, hread, hr⟩ := h.part (k := k)
  exact ⟨_, hread.repeats (by decide), hr.plus⟩

theorem MeansSet.star (h : MeansSet b t s) : MeansUnit b k k 3 (t ++ ['*']) (.many true s) := by
  obtain ⟨r, hread, hr⟩ := h.part (k := k)
  exact ⟨_, hread.repeats (by decide), hr.star⟩

theorem MeansSet.opt (h : MeansSet b t s) : MeansUnit b k k 3 (t ++ ['?']) (Pattern.one s).opt :=
  h.part.opt rfl

/-- A word that quoting does not change. -/
theorem meansSeq_word (hplain : quote w = w) (hne : w ≠ []) (hlen : w.length ≤ 30) :
    MeansSeq b k k 1 w (.word b w) := by
  refine ⟨w.map (literal (ruleFlags b)), by simpa using hne, ?_, word_carries b k hlen⟩
  have h := reads_quote (b := b) (k := k) w
  rwa [hplain] at h

/-- The choice between the words of a list. -/
theorem meansPart_words {list : List Text} (hne : list ≠ []) (hlen : ∀ w ∈ list, w.length ≤ 30)
    (hcount : list.length ≤ 40) :
    MeansPart b k k 4 (words list) (.choice ((arrange list).map (Pattern.word b))) := by
  refine ⟨_, readsPart_words hne, (alternatives_word_carries b k ?_ ?_).scope⟩
  · exact fun w hw => hlen w (mem_arrange.mp hw)
  · exact Nat.le_trans (length_arrange_le list) hcount

/-- What a rule gets from the text of its pattern. -/
theorem MeansBody.tied_eq_ok (h : MeansBody b 0 k n t p) (hn : n ≤ 130) :
    ∃ r, Compiler.standard.tied b t = .ok r ∧ r.toPattern = .seq (.check .textStart) p ∧
      r.groupCount = k := by
  obtain ⟨f, hread, hf⟩ := h
  have hdepth := hf.depth
  have hstates := hf.states
  have hgroups := hf.groups
  refine ⟨_, Compiler.within_eq_ok_iff.mpr ⟨read?_tiedText_of_reads hread rfl, ?_⟩, ?_, ?_⟩
  · have hdepth : ¬ maxDepth < (f ⟨[], []⟩).close.depth + 1 + 1 := by
      simp only [maxDepth]
      omega
    have hstates : ¬ maxSize < stateSize * (1 + (f ⟨[], []⟩).close.states) := by
      simp only [maxSize, stateSize]
      omega
    simp [Limits.standard, Regex.depth, Regex.states, hdepth, hstates]
  · simp [toPattern, unfold, hf.unfolds]
  · simp only [groupCount]
    omega

end Meanings

end Regex

end Highlighter
