import Highlighter.Scan
import Highlighter.Proofs.Grammar.Characters

/-!
# The characters that matches start with

`p.starts c` says that some match of the pattern `p` may start by reading `c`.  It is
read off the form of the pattern, like `Pattern.accepts`, but passes to the second of
two parts only where the first may read nothing.

The directives of the built-in grammars are plain words.  So a pattern that starts
with a directive starts with a word character, also where letter case is ignored:
what equals an ASCII letter up to case is a word character
(`Unicode.isWordChar_of_mem_caseVariants`).
-/

namespace Highlighter

/-! ## First characters -/

namespace Pattern

/-- Whether a match of a pattern may start with a character. -/
def starts : Pattern → Char → Bool
  | .empty, _ => false
  | .one s, c => s.holds c
  | .many _ s, c => s.holds c
  | .check _, _ => false
  | .mark _, _ => false
  | .group _ p, c => p.starts c
  | .seq p q, c => p.starts c || (!p.consumes && q.starts c)
  | .alt p q, c => p.starts c || q.starts c
  | .loop _ p, c => p.starts c

/-- What is read from a place on starts with a character that the pattern may start with. -/
theorem starts_of_mem_run (p : Pattern) :
    ∀ a, ∀ e ∈ p.run a, ∃ u, a.Reads u e ∧ ∀ c ∈ u.head?, p.starts c = true := by
  induction p with
  | empty =>
    intro a e he
    rw [List.mem_singleton.mp he]
    exact ⟨[], .refl a, by simp⟩
  | one s =>
    intro a e he
    obtain ⟨u, hu, hall⟩ := (Pattern.one s).exists_reads a e he
    exact ⟨u, hu, fun c hc => hall c (List.mem_of_head? hc)⟩
  | many greedy s =>
    intro a e he
    obtain ⟨u, hu, hall⟩ := (Pattern.many greedy s).exists_reads a e he
    exact ⟨u, hu, fun c hc => hall c (List.mem_of_head? hc)⟩
  | check c =>
    intro a e he
    obtain ⟨u, hu, hall⟩ := (Pattern.check c).exists_reads a e he
    exact ⟨u, hu, fun c hc => hall c (List.mem_of_head? hc)⟩
  | mark id =>
    intro a e he
    obtain ⟨u, hu, hall⟩ := (Pattern.mark id).exists_reads a e he
    exact ⟨u, hu, fun c hc => hall c (List.mem_of_head? hc)⟩
  | group index p ih =>
    intro a e he
    obtain ⟨e', he', rfl⟩ := List.mem_map.mp he
    obtain ⟨u, hu, hstarts⟩ := ih a e' he'
    exact ⟨u, hu.capture index, hstarts⟩
  | seq p q ihp ihq =>
    intro a e he
    obtain ⟨b, hb, he⟩ := List.mem_flatMap.mp he
    obtain ⟨u, hu, hstartsu⟩ := ihp a b hb
    obtain ⟨v, hv, hstartsv⟩ := ihq b e he
    refine ⟨u ++ v, hu.trans hv, ?_⟩
    intro c hc
    cases u with
    | cons d u => simp [starts, hstartsu c hc]
    | nil =>
      -- The first part read nothing, so it is not of the form that always consumes.
      have hconsumes : p.consumes = false := by
        by_contra hp
        exact ne_nil_of_reads (by simpa using hp) hb hu rfl
      simp [starts, hconsumes, hstartsv c hc]
  | alt p q ihp ihq =>
    intro a e he
    rcases List.mem_append.mp he with he | he
    · obtain ⟨u, hu, hstarts⟩ := ihp a e he
      exact ⟨u, hu, fun c hc => by simp [starts, hstarts c hc]⟩
    · obtain ⟨u, hu, hstarts⟩ := ihq a e he
      exact ⟨u, hu, fun c hc => by simp [starts, hstarts c hc]⟩
  | loop greedy p ih =>
    intro a e he
    refine loopEnds_induction (P := fun a e => ∃ u, a.Reads u e ∧ ∀ c ∈ u.head?, p.starts c = true)
      (fun a => ⟨[], .refl a, by simp⟩) ?_ _ _ a e he
    rintro a b c hb hlt ⟨v, hv, -⟩
    obtain ⟨u, hu, hstarts⟩ := ih a b hb
    refine ⟨u ++ v, hu.trans hv, ?_⟩
    intro d hd
    cases u with
    | cons d' u => exact hstarts d hd
    | nil =>
      rw [hu.rest, List.nil_append] at hlt
      exact absurd hlt (Nat.lt_irrefl _)

/-- A pattern that consumes and may not start with the next character has no match. -/
theorem find_eq_none_of_starts {p : Pattern} (hp : p.consumes = true) {c : Char}
    (hc : p.starts c = false) (t : Text) : p.tied.find (c :: t) = none := by
  have hrun : p.run (Place.start (c :: t)) = [] := by
    rw [List.eq_nil_iff_forall_not_mem]
    intro e he
    obtain ⟨u, hu, hstarts⟩ := p.starts_of_mem_run _ e he
    have htext : c :: t = u ++ e.rest := hu.rest
    cases u with
    | nil => exact ne_nil_of_reads hp he hu rfl
    | cons d u =>
      rw [List.cons_append, List.cons.injEq] at htext
      rw [hstarts c (by rw [htext.1]; rfl)] at hc
      exact Bool.noConfusion hc
  rw [find_tied, matchAt, hrun]
  rfl

end Pattern

/-! ## Letters up to case -/

namespace Unicode

/-- The orbit of a code point is one of the listed ones, or it is alone in it. -/
theorem orbitIn_cases : ∀ (orbits : List (List Nat)) (n : Nat),
    orbitIn orbits n = [n] ∨ (orbitIn orbits n ∈ orbits ∧ n ∈ orbitIn orbits n)
  | [], _ => Or.inl rfl
  | [] :: others, n => (orbitIn_cases others n).imp id fun h => ⟨List.mem_cons_of_mem _ h.1, h.2⟩
  | (least :: more) :: others, n => by
    rw [orbitIn]
    split
    · exact Or.inl rfl
    · split
      · next h => exact Or.inr ⟨List.mem_cons_self .., by simpa using h⟩
      · exact (orbitIn_cases others n).imp id fun h => ⟨List.mem_cons_of_mem _ h.1, h.2⟩

/-- The ASCII letters are word characters. -/
theorem wordRanges_holds_letters :
    ∀ n < 128, (Char.ofNat n).isAlpha = true → wordRanges.holds n = true := by
  decide

/-- An orbit with an ASCII letter has word characters only. -/
theorem wordRanges_holds_orbits :
    orbits.all (fun orbit =>
      !(orbit.any fun n => (Char.ofNat n).isAlpha) || orbit.all wordRanges.holds) = true := by
  decide +kernel

theorem toNat_lt_of_isAlpha {c : Char} (h : c.isAlpha = true) : c.toNat < 128 := by
  rcases Bool.or_eq_true_iff.mp (show (c.isUpper || c.isLower) = true from h) with h | h
  · have hle : 'A'.val ≤ c.val ∧ c.val ≤ 'Z'.val := of_decide_eq_true h
    exact Nat.lt_of_le_of_lt hle.2 (by decide)
  · have hle := of_decide_eq_true (Bool.and_eq_true_iff.mp h).2
    exact Nat.lt_of_le_of_lt hle (by decide)

theorem isWordChar_of_isAlpha {c : Char} (h : c.isAlpha = true) : isWordChar c = true :=
  wordRanges_holds_letters c.toNat (toNat_lt_of_isAlpha h) (by rwa [Char.ofNat_toNat])

/-- What equals an ASCII letter up to case is a word character. -/
theorem isWordChar_of_mem_caseVariants {c d : Char} (hd : d.isAlpha = true)
    (h : d ∈ caseVariants c) : isWordChar c = true := by
  obtain ⟨n, hn, rfl⟩ := List.mem_map.mp h
  rcases orbitIn_cases orbits c.toNat with horbit | ⟨hmem, hc⟩
  · rw [horbit, List.mem_singleton] at hn
    subst hn
    rw [Char.ofNat_toNat] at hd
    exact isWordChar_of_isAlpha hd
  · have hall := List.all_eq_true.mp wordRanges_holds_orbits _ hmem
    have hany : ((orbitIn orbits c.toNat).any fun n => (Char.ofNat n).isAlpha) = true :=
      List.any_eq_true.mpr ⟨n, hn, hd⟩
    rw [hany, Bool.not_true, Bool.false_or] at hall
    exact List.all_eq_true.mp hall _ hc

end Unicode

/-! ## Patterns that start with a word character -/

namespace Pattern

/-- A pattern that consumes and starts with a word character. -/
structure WordFirst (p : Pattern) : Prop where
  /-- It consumes. -/
  consumes : p.consumes = true
  /-- It starts with word characters only. -/
  starts : ∀ c, isWordChar c = false → p.starts c = false

namespace WordFirst

variable {p q : Pattern} {b : Bool}

/-- A letter in either case is a word character. -/
theorem one_letter {d : Char} (hd : d.isAlpha = true) : (Pattern.one (letter b d)).WordFirst where
  consumes := rfl
  starts c hc := by
    have hne : c ≠ d := by
      rintro rfl
      rw [Unicode.isWordChar_of_isAlpha hd] at hc
      exact Bool.noConfusion hc
    have hvariants : d ∉ Unicode.caseVariants c := by
      intro hmem
      rw [Unicode.isWordChar_of_mem_caseVariants hd hmem] at hc
      exact Bool.noConfusion hc
    rw [Pattern.starts, letter]
    split
    · rw [CharSet.holds, List.any_eq_false]
      intro x hx hholds
      have heq : x = d := by simpa [CharSet.holds] using hholds
      exact hvariants (heq ▸ hx)
    · simpa [CharSet.holds] using hne

/-- A sequence starts as its first half, which consumes. -/
theorem seq (hp : p.WordFirst) (q : Pattern) : (Pattern.seq p q).WordFirst where
  consumes := by rw [Pattern.consumes, hp.consumes]; rfl
  starts c hc := by rw [Pattern.starts, hp.starts c hc, hp.consumes]; rfl

theorem alt (hp : p.WordFirst) (hq : q.WordFirst) : (Pattern.alt p q).WordFirst where
  consumes := by rw [Pattern.consumes, hp.consumes, hq.consumes]; rfl
  starts c hc := by rw [Pattern.starts, hp.starts c hc, hq.starts c hc]; rfl

theorem opt_seq (hp : p.WordFirst) (hq : q.WordFirst) : (Pattern.seq p.opt q).WordFirst where
  consumes := by rw [Pattern.consumes, hq.consumes, Bool.or_true]
  starts c hc := by
    simp [opt, Pattern.starts, hp.starts c hc, hq.starts c hc]

theorem group (hp : p.WordFirst) (k : Nat) : (Pattern.group k p).WordFirst :=
  ⟨hp.consumes, hp.starts⟩

/-- A choice starts as one of its patterns. -/
theorem choice : ∀ {ps : List Pattern}, ps ≠ [] → (∀ p ∈ ps, p.WordFirst) →
    (Pattern.choice ps).WordFirst
  | [], hne, _ => absurd rfl hne
  | [p], _, h => h p (List.mem_cons_self ..)
  | p :: q :: ps, _, h => (h p (List.mem_cons_self ..)).alt
      (choice (List.cons_ne_nil q ps) fun r hr => h r (List.mem_cons_of_mem p hr))

theorem wordThen {w : Text} (h : w.Plain) (p : Pattern) : (Pattern.wordThen b w p).WordFirst := by
  obtain ⟨c, t, rfl, hc⟩ := h.exists_cons
  exact (one_letter hc).seq _

theorem word {w : Text} (h : w.Plain) : (Pattern.word b w).WordFirst := by
  obtain ⟨c, t, rfl, hc⟩ := h.exists_cons
  cases t with
  | nil => exact one_letter hc
  | cons d t => exact (one_letter hc).seq _

theorem literal {s : String} (h : Text.Plain s.toList) : (Pattern.literal s).WordFirst := word h

/-- A choice between plain words starts with a letter. -/
theorem words {list : List String} (h : PlainWords list) : (Pattern.words list).WordFirst := by
  refine choice ?_ fun p hp => ?_
  · simpa using Regex.arrange_ne_nil (by simpa using h.ne_nil)
  · obtain ⟨w, hw, rfl⟩ := List.mem_map.mp hp
    obtain ⟨s, hs, rfl⟩ := List.mem_map.mp (Regex.mem_arrange.mp hw)
    exact word (h.plain s hs)

/-- A row starts as its first part. -/
theorem groupsThen (hp : p.WordFirst) (k : Nat) (ps : List Pattern) (q : Pattern) :
    (Pattern.groupsThen k (p :: ps) q).WordFirst :=
  (hp.group k).seq _

/-- A rule whose pattern starts with a word character does not fire elsewhere. -/
theorem fires?_eq_none {rule : BuiltRule} (hp : p.WordFirst) (hrule : rule.pattern = p.tied)
    {c : Char} (hc : isWordChar c = false) (lineStart : Bool) (t : Text) :
    rule.fires? lineStart (c :: t) = none := by
  have hfind := find_eq_none_of_starts hp.consumes (hp.starts c hc) t
  rw [BuiltRule.fires?, hrule, hfind]
  split <;> rfl

end WordFirst

end Pattern

end Highlighter
