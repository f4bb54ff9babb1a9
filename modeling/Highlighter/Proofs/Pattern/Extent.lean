import Highlighter.Pattern.Basic
import Highlighter.Proofs.Boundaries

/-!
# The extent of a match

`a.Reads u b` says that a match in progress gets from the place `a` to the place
`b` by reading the text `u`: the offset grows by the size of `u`, and every group
captured on the way is a part of `u`.  The relation is reflexive and transitive,
and every end of a pattern is read from the place where the pattern starts
(`Pattern.exists_reads`).

A loop is opened once and for all by `loopEnds_induction`: an end of a loop is
reached by finitely many turns of its body, each of which consumes.

`Pattern.find_spans` states the result for a search.  A match found in a text cuts
the text in three, and each group it captured lies inside the middle part on
character boundaries.
-/

namespace Highlighter

/-! ## Reading from place to place -/

/-- From the place `a` one gets to the place `b` by reading `u`. -/
structure Place.Reads (a : Place) (u : Text) (b : Place) : Prop where
  /-- The text read stands before the text that is left. -/
  rest : a.rest = u ++ b.rest
  /-- The offset counts the bytes read. -/
  offset : b.offset = a.offset + u.size
  /-- The character before the place is the last one read. -/
  before : b.before = u.getLast?.or a.before
  /-- A group is an old one or a part of the text read. -/
  captures : ∀ c ∈ b.captures, c ∈ a.captures ∨
    ∃ v w x, u = v ++ (w ++ x) ∧ c.start = a.offset + v.size ∧ c.stop = c.start + w.size

namespace Place.Reads

theorem refl (a : Place) : a.Reads [] a :=
  ⟨rfl, rfl, rfl, fun _ hc => Or.inl hc⟩

theorem trans {a b c : Place} {u v : Text} (h₁ : a.Reads u b) (h₂ : b.Reads v c) :
    a.Reads (u ++ v) c where
  rest := by rw [h₁.rest, h₂.rest, List.append_assoc]
  offset := by rw [h₂.offset, h₁.offset, Text.size_append]; omega
  before := by rw [h₂.before, h₁.before, List.getLast?_append, Option.or_assoc]
  captures := by
    intro g hg
    rcases h₂.captures g hg with hg | ⟨x, w, y, hv, hs, he⟩
    · rcases h₁.captures g hg with hg | ⟨x, w, y, hu, hs, he⟩
      · exact Or.inl hg
      · exact Or.inr ⟨x, w, y ++ v, by rw [hu]; simp, hs, he⟩
    · refine Or.inr ⟨u ++ x, w, y, by rw [hv]; simp, ?_, he⟩
      rw [hs, h₁.offset, Text.size_append]
      omega

/-- Reading one character. -/
theorem advance {a : Place} {c : Char} {rest : Text} (h : a.rest = c :: rest) :
    a.Reads [c] (a.advance c rest) where
  rest := h
  offset := by simp [Place.advance]
  before := by simp [Place.advance]
  captures := fun _ hg => Or.inl hg

/-- What was read is captured as a group. -/
theorem capture {a b : Place} {u : Text} (h : a.Reads u b) (index : Nat) :
    a.Reads u (b.capture index a.offset) where
  rest := h.rest
  offset := h.offset
  before := h.before
  captures := by
    intro g hg
    rcases List.mem_cons.mp hg with rfl | hg
    · exact Or.inr ⟨[], u, [], by simp, by simp, h.offset⟩
    · exact h.captures g hg

/-- What was read is determined by the two places. -/
theorem leaves {a b : Place} {u t : Text} (h : a.Reads u b) (ha : a.rest = u ++ t) : b.rest = t :=
  List.append_cancel_left (h.rest.symm.trans ha)

theorem unique {a b : Place} {u v : Text} (h₁ : a.Reads u b) (h₂ : a.Reads v b) : u = v :=
  List.append_cancel_right (h₁.rest.symm.trans h₂.rest)

end Place.Reads

/-! ## Loops -/

/-- What holds of all turns taken from the places a loop goes on to holds of what the loop
collects over them. -/
theorem foldl_loopEnds_induction {body : Place → List Place} {greedy : Bool} {turns : Nat}
    {P : Place → Prop} {onward : List Place}
    (step : ∀ next ∈ onward, ∀ seen, ∀ e ∈ (loopEnds body greedy turns seen next).2, P e) :
    ∀ acc : List Nat × List Place, (∀ e ∈ acc.2, P e) →
      ∀ e ∈ (onward.foldl (fun (seen, ends) next =>
        let (seen, more) := loopEnds body greedy turns seen next
        (seen, ends ++ more)) acc).2, P e := by
  induction onward with
  | nil => exact fun acc hacc => hacc
  | cons next others ih =>
    intro acc hacc
    refine ih (fun n hn => step n (List.mem_cons_of_mem _ hn)) _ ?_
    intro e he
    rcases List.mem_append.mp he with he | he
    · exact hacc e he
    · exact step next (List.mem_cons_self ..) _ e he

/-- An end of a loop is the place where the loop starts, or an end of the loop from where a
consuming turn of the body leads. -/
theorem loopEnds_induction {body : Place → List Place} {greedy : Bool} {P : Place → Place → Prop}
    (refl : ∀ a, P a a)
    (step : ∀ a b c, b ∈ body a → b.rest.length < a.rest.length → P b c → P a c) :
    ∀ turns seen a, ∀ e ∈ (loopEnds body greedy turns seen a).2, P a e := by
  intro turns
  induction turns with
  | zero =>
    intro seen a e he
    unfold loopEnds at he
    split at he
    · simp at he
    · rw [List.mem_singleton.mp he]
      exact refl a
  | succ turns ih =>
    intro seen a e he
    unfold loopEnds at he
    split at he
    · simp at he
    · have hturn : ∀ next ∈ (body a).filter (·.rest.length < a.rest.length), ∀ seen,
          ∀ e ∈ (loopEnds body greedy turns seen next).2, P a e := by
        intro next hnext seen e he
        have hmem := List.mem_filter.mp hnext
        exact step a next e hmem.1 (by simpa using hmem.2) (ih seen next e he)
      have hends := foldl_loopEnds_induction hturn (a.offset :: seen, []) (by simp)
      cases greedy with
      | true =>
        rcases List.mem_append.mp he with he | he
        · exact hends e he
        · rw [List.mem_singleton.mp he]
          exact refl a
      | false =>
        rcases List.mem_cons.mp he with rfl | he
        · exact refl _
        · exact hends e he

/-! ## Ends of patterns -/

theorem exists_reads_of_mem_runEnds {s : CharSet} :
    ∀ {t : Text} {a : Place} {shorter : List Place}, a.rest = t →
      ∀ e ∈ runEnds s t a shorter, e ∈ shorter ∨ ∃ u, a.Reads u e ∧ ∀ c ∈ u, s.holds c
  | [], a, shorter, _, e, he => by
    rcases List.mem_cons.mp he with rfl | he
    · exact Or.inr ⟨[], .refl _, by simp⟩
    · exact Or.inl he
  | c :: rest, a, shorter, h, e, he => by
    rw [runEnds] at he
    split at he
    · next hc =>
      rcases exists_reads_of_mem_runEnds (a := a.advance c rest) rfl e he with he | ⟨u, hu, hall⟩
      · rcases List.mem_cons.mp he with rfl | he
        · exact Or.inr ⟨[], .refl _, by simp⟩
        · exact Or.inl he
      · refine Or.inr ⟨c :: u, (Place.Reads.advance h).trans hu, ?_⟩
        intro d hd
        rcases List.mem_cons.mp hd with rfl | hd
        · exact hc
        · exact hall d hd
    · rcases List.mem_cons.mp he with rfl | he
      · exact Or.inr ⟨[], .refl _, by simp⟩
      · exact Or.inl he

/-- Whether some position of a pattern accepts a character. -/
def Pattern.accepts : Pattern → Char → Bool
  | .empty, _ => false
  | .one s, c => s.holds c
  | .many _ s, c => s.holds c
  | .check _, _ => false
  | .mark _, _ => false
  | .group _ p, c => p.accepts c
  | .seq p q, c => p.accepts c || q.accepts c
  | .alt p q, c => p.accepts c || q.accepts c
  | .loop _ p, c => p.accepts c

/-- An end of a pattern is read from the place where the pattern starts, and only characters
that the pattern accepts are read. -/
theorem Pattern.exists_reads (p : Pattern) :
    ∀ a, ∀ e ∈ p.run a, ∃ u, a.Reads u e ∧ ∀ c ∈ u, p.accepts c := by
  induction p with
  | empty =>
    intro a e he
    rw [List.mem_singleton.mp he]
    exact ⟨[], .refl a, by simp⟩
  | one s =>
    intro a e he
    simp only [Pattern.run] at he
    split at he
    · simp at he
    · next c rest hrest =>
      split at he
      · next hc =>
        rw [List.mem_singleton.mp he]
        exact ⟨[c], .advance hrest, by simpa [Pattern.accepts] using hc⟩
      · simp at he
  | many greedy s =>
    intro a e he
    have hmem : e ∈ runEnds s a.rest a [] := by
      cases greedy with
      | true => exact he
      | false => exact List.mem_reverse.mp he
    rcases exists_reads_of_mem_runEnds rfl e hmem with h | ⟨u, hu, hall⟩
    · simp at h
    · exact ⟨u, hu, hall⟩
  | check c =>
    intro a e he
    simp only [Pattern.run] at he
    split at he
    · rw [List.mem_singleton.mp he]
      exact ⟨[], .refl a, by simp⟩
    · simp at he
  | mark id =>
    intro a e he
    simp only [Pattern.run] at he
    split at he
    · simp at he
    · rw [List.mem_singleton.mp he]
      exact ⟨[], ⟨rfl, rfl, rfl, fun _ hg => Or.inl hg⟩, by simp⟩
  | group index p ih =>
    intro a e he
    obtain ⟨e', he', rfl⟩ := List.mem_map.mp he
    obtain ⟨u, hu, hall⟩ := ih a e' he'
    exact ⟨u, hu.capture index, hall⟩
  | seq p q ihp ihq =>
    intro a e he
    obtain ⟨b, hb, he⟩ := List.mem_flatMap.mp he
    obtain ⟨u, hu, hallu⟩ := ihp a b hb
    obtain ⟨v, hv, hallv⟩ := ihq b e he
    refine ⟨u ++ v, hu.trans hv, ?_⟩
    intro c hc
    rcases List.mem_append.mp hc with hc | hc
    · simp [Pattern.accepts, hallu c hc]
    · simp [Pattern.accepts, hallv c hc]
  | alt p q ihp ihq =>
    intro a e he
    rcases List.mem_append.mp he with he | he
    · obtain ⟨u, hu, hall⟩ := ihp a e he
      exact ⟨u, hu, fun c hc => by simp [Pattern.accepts, hall c hc]⟩
    · obtain ⟨u, hu, hall⟩ := ihq a e he
      exact ⟨u, hu, fun c hc => by simp [Pattern.accepts, hall c hc]⟩
  | loop greedy p ih =>
    intro a e he
    refine loopEnds_induction (P := fun a e => ∃ u, a.Reads u e ∧ ∀ c ∈ u, p.accepts c)
      (fun a => ⟨[], .refl a, by simp⟩) ?_ _ _ a e he
    rintro a b c hb - ⟨v, hv, hallv⟩
    obtain ⟨u, hu, hallu⟩ := ih a b hb
    refine ⟨u ++ v, hu.trans hv, ?_⟩
    intro d hd
    rcases List.mem_append.mp hd with hd | hd
    · exact hallu d hd
    · exact hallv d hd

/-- Whether every match of a pattern consumes, as its form shows. -/
def Pattern.consumes : Pattern → Bool
  | .empty => false
  | .one _ => true
  | .many _ _ => false
  | .check _ => false
  | .mark _ => false
  | .group _ p => p.consumes
  | .seq p q => p.consumes || q.consumes
  | .alt p q => p.consumes && q.consumes
  | .loop _ _ => false

theorem Pattern.rest_length_lt_of_consumes (p : Pattern) (hp : p.consumes = true) :
    ∀ a, ∀ e ∈ p.run a, e.rest.length < a.rest.length := by
  induction p with
  | empty => simp [Pattern.consumes] at hp
  | many greedy s => simp [Pattern.consumes] at hp
  | check c => simp [Pattern.consumes] at hp
  | mark id => simp [Pattern.consumes] at hp
  | loop greedy p => simp [Pattern.consumes] at hp
  | one s =>
    intro a e he
    simp only [Pattern.run] at he
    split at he
    · simp at he
    · next c rest hrest =>
      split at he
      · rw [List.mem_singleton.mp he, hrest]
        simp [Place.advance]
      · simp at he
  | group index p ih =>
    intro a e he
    obtain ⟨e', he', rfl⟩ := List.mem_map.mp he
    exact ih hp a e' he'
  | seq p q ihp ihq =>
    intro a e he
    obtain ⟨b, hb, he⟩ := List.mem_flatMap.mp he
    obtain ⟨u, hu, -⟩ := p.exists_reads a b hb
    obtain ⟨v, hv, -⟩ := q.exists_reads b e he
    have hab : b.rest.length ≤ a.rest.length := by rw [hu.rest, List.length_append]; omega
    have hbe : e.rest.length ≤ b.rest.length := by rw [hv.rest, List.length_append]; omega
    rcases Bool.or_eq_true_iff.mp hp with hp | hp
    · exact Nat.lt_of_le_of_lt hbe (ihp hp a b hb)
    · exact Nat.lt_of_lt_of_le (ihq hp b e he) hab
  | alt p q ihp ihq =>
    intro a e he
    obtain ⟨hp, hq⟩ := Bool.and_eq_true_iff.mp hp
    rcases List.mem_append.mp he with he | he
    · exact ihp hp a e he
    · exact ihq hq a e he

/-- A match of a pattern that consumes reads a character. -/
theorem Pattern.ne_nil_of_reads {p : Pattern} (hp : p.consumes = true) {a e : Place} {u : Text}
    (he : e ∈ p.run a) (hu : a.Reads u e) : u ≠ [] := by
  rintro rfl
  have hlt := p.rest_length_lt_of_consumes hp a e he
  rw [hu.rest, List.nil_append] at hlt
  exact Nat.lt_irrefl _ hlt

/-! ## Matches -/

/-- A match cuts a text in what comes before it, what it matched, and what is left. -/
structure Match.Spans (m : Match) (t pre u : Text) : Prop where
  /-- The three parts make up the text. -/
  text : t = pre ++ (u ++ m.rest)
  /-- The match starts after the first part. -/
  start : m.start = pre.size
  /-- The match stops after the second. -/
  stop : m.stop = pre.size + u.size
  /-- A group is a part of what was matched. -/
  captures : ∀ c ∈ m.captures,
    ∃ v w x, u = v ++ (w ++ x) ∧ c.start = pre.size + v.size ∧ c.stop = c.start + w.size

/-- The text before a place, when nothing was captured yet. -/
structure Place.After (a : Place) (pre : Text) : Prop where
  /-- The offset counts the bytes before. -/
  offset : a.offset = pre.size
  /-- No group was captured. -/
  captures : a.captures = []

theorem Pattern.matchAt_spans {p : Pattern} {a : Place} {m : Match} {pre : Text}
    (hpre : a.After pre) (h : p.matchAt a = some m) :
    ∃ u, m.Spans (pre ++ a.rest) pre u ∧ ∀ c ∈ u, p.accepts c := by
  obtain ⟨e, he, rfl⟩ := Option.map_eq_some_iff.mp h
  obtain ⟨u, hu, hall⟩ := p.exists_reads a e (List.mem_of_head? he)
  refine ⟨u, ⟨by rw [hu.rest], hpre.offset, ?_, ?_⟩, hall⟩
  · rw [← hpre.offset]
    exact hu.offset
  · intro c hc
    rw [← hpre.offset]
    rcases hu.captures c hc with hc | hc
    · rw [hpre.captures] at hc
      simp at hc
    · exact hc

theorem Pattern.search_spans {p : Pattern} :
    ∀ {t : Text} {a : Place} {m : Match} {pre : Text}, a.After pre → a.rest = t →
      p.search t a = some m → ∃ pre' u, m.Spans (pre ++ t) pre' u ∧ ∀ c ∈ u, p.accepts c
  | [], a, m, pre, hpre, ht, h => by
    obtain ⟨u, hu, hall⟩ := matchAt_spans hpre h
    rw [ht] at hu
    exact ⟨pre, u, hu, hall⟩
  | c :: rest, a, m, pre, hpre, ht, h => by
    rw [Pattern.search] at h
    split at h
    · next m' hm =>
      cases h
      obtain ⟨u, hu, hall⟩ := matchAt_spans hpre hm
      rw [ht] at hu
      exact ⟨pre, u, hu, hall⟩
    · have hnext : (a.advance c rest).After (pre ++ [c]) :=
        ⟨by simp [Place.advance, Text.size_append, hpre.offset], hpre.captures⟩
      obtain ⟨pre', u, hu, hall⟩ := search_spans hnext rfl h
      exact ⟨pre', u, by simpa [Place.advance] using hu, hall⟩

/-- A match found in a text is a part of it, and so are its groups of the match. -/
theorem Pattern.find_spans {p : Pattern} {t : Text} {m : Match} (h : p.find t = some m) :
    ∃ pre u, m.Spans t pre u ∧ ∀ c ∈ u, p.accepts c := by
  have hstart : (Place.start t).After [] := ⟨rfl, rfl⟩
  rw [Pattern.find] at h
  split at h
  · obtain ⟨u, hu⟩ := matchAt_spans hstart h
    exact ⟨[], u, hu⟩
  · exact search_spans hstart rfl h

/-- A pattern whose form shows that it consumes has no match without extent. -/
theorem Pattern.isEmpty_of_find {p : Pattern} (hp : p.consumes = true) {t : Text} {m : Match}
    (h : p.find t = some m) : m.isEmpty = false := by
  have hat : ∀ a m, p.matchAt a = some m → m.isEmpty = false := by
    intro a m hm
    obtain ⟨e, he, rfl⟩ := Option.map_eq_some_iff.mp hm
    obtain ⟨u, hu, -⟩ := p.exists_reads a e (List.mem_of_head? he)
    have := Text.size_pos (ne_nil_of_reads hp (List.mem_of_head? he) hu)
    simp only [Match.isEmpty, hu.offset, beq_eq_false_iff_ne]
    omega
  have hsearch : ∀ (t : Text) a m, p.search t a = some m → m.isEmpty = false := by
    intro t
    induction t with
    | nil => exact fun a m hm => hat a m hm
    | cons c rest ih =>
      intro a m hm
      rw [Pattern.search] at hm
      split at hm
      · next m' hm' =>
        cases hm
        exact hat a m hm'
      · exact ih _ m hm
  rw [Pattern.find] at h
  split at h
  · exact hat _ m h
  · exact hsearch t _ m h

/-- A group of a match is a part of what was matched. -/
theorem Match.Spans.group?_eq_some {m : Match} {t pre u : Text} (h : m.Spans t pre u)
    {index start stop : Nat} (hg : m.group? index = some (start, stop)) :
    ∃ v w x, u = v ++ (w ++ x) ∧ start = pre.size + v.size ∧ stop = start + w.size := by
  obtain ⟨c, hc, heq⟩ := Option.map_eq_some_iff.mp hg
  cases heq
  exact h.captures c (List.mem_of_find?_eq_some hc)

/-! ## Patterns tied to the start -/

/-- A pattern that is tried at the start of a text only. -/
def Pattern.tied (p : Pattern) : Pattern := .seq (.check .textStart) p

theorem Pattern.find_tied (p : Pattern) (t : Text) :
    p.tied.find t = p.matchAt (Place.start t) := by
  have hrun : p.tied.run (Place.start t) = p.run (Place.start t) := by
    simp [tied, run, Place.start, Assertion.holds]
  rw [find, if_pos (by rfl), matchAt, matchAt, hrun]

theorem Pattern.matches_tied (p : Pattern) (t : Text) :
    p.tied.matches t = !(p.run (Place.start t)).isEmpty := by
  rw [Pattern.matches, find_tied, matchAt]
  cases p.run (Place.start t) <;> rfl

end Highlighter
