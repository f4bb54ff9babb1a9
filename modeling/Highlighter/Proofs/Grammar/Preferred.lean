import Mathlib.Data.List.DropRight
import Highlighter.Proofs.Grammar.Rows

/-!
# Preferred matches

A row of groups says what some match reads.  `p.Prefers a w e` says what the match reads
that is preferred to all others: from the place `a` on it reads `w` and ends at `e`.

The parts of a directive read what stands there: a word up to case, all the blanks
within the line, and as argument the line up to a comment without the blanks at its end
(`Text.body`, `prefers_argument`).  Parts one after another read one after another
(`Prefers.seq`).
-/

namespace Highlighter

/-! ## Characters whose case does not matter -/

namespace Unicode

/-- Code points that are far from those of blanks. -/
def farFromBlanks (n : Nat) : Bool :=
  32 < n && n < 0x2000 && n != 0x85 && n != 0xa0 && n != 0x1680 || 0x205f < n && n != 0x3000

theorem farFromBlanks_of_orbits :
    orbits.all (fun orbit => orbit.all fun n => farFromBlanks (Char.ofNat n).toNat) = true := by
  decide +kernel

/-- A code point far from the blanks is that of no blank. -/
theorem isBlank_of_farFromBlanks {c : Char} (h : farFromBlanks c.toNat = true) :
    isBlank c = false := by
  by_contra hblank
  simp only [isBlank, Bool.not_eq_false, Bool.or_eq_true, beq_iff_eq, Bool.and_eq_true,
    decide_eq_true_eq] at hblank
  have hrange : ∀ {lo hi : Char}, lo ≤ c ∧ c ≤ hi → lo.toNat ≤ c.toNat ∧ c.toNat ≤ hi.toNat :=
    fun h => h
  rcases hblank with (((((((((rfl | hr) | rfl) | rfl) | rfl) | hr) | rfl) | rfl) | rfl) | rfl) |
    rfl
  case inl.inl.inl.inl.inl.inl.inl.inl.inl.inr | inl.inl.inl.inl.inl.inr =>
    have hbounds := hrange hr
    simp [farFromBlanks] at h hbounds
    omega
  all_goals exact absurd h (by decide)

/-- A blank equals only itself up to case. -/
theorem eq_of_isBlank {c d : Char} (hd : isBlank d = true) (h : d ∈ caseVariants c) : c = d := by
  obtain ⟨n, hn, rfl⟩ := List.mem_map.mp h
  rcases orbitIn_cases orbits c.toNat with horbit | ⟨hmem, -⟩
  · rw [horbit, List.mem_singleton] at hn
    rw [hn, Char.ofNat_toNat]
  · have hfar := List.all_eq_true.mp (List.all_eq_true.mp farFromBlanks_of_orbits _ hmem) n hn
    rw [isBlank_of_farFromBlanks hfar] at hd
    cases hd

end Unicode

namespace CharSet

/-- Case does not matter for a set of characters that equal only themselves up to case. -/
theorem holds_anyCase {s : CharSet}
    (hs : ∀ d, s.holds d = true → ∀ c, d ∈ Unicode.caseVariants c → c = d) (c : Char) :
    (CharSet.anyCase s).holds c = s.holds c := by
  rw [holds, Bool.eq_iff_iff, List.any_eq_true]
  constructor
  · rintro ⟨d, hd, hholds⟩
    rwa [hs d hholds c hd]
  · exact fun hholds => ⟨c, Unicode.self_mem_caseVariants c, hholds⟩

theorem beforeComment_holds (c : Char) : beforeComment.holds c = (c != '#' && c != '\n') := by
  rw [beforeComment, holds, holds_anyCase, holds, holds, holds, Bool.not_or]
  · rfl
  · intro d hd e he
    have hd : d = '#' ∨ d = '\n' := by simpa [holds] using hd
    rcases hd with rfl | rfl <;> exact Unicode.eq_of_mem_caseVariants (by decide) (by decide) he

/-- A solid character is neither blank nor the start of a comment. -/
theorem solid_holds (c : Char) : solid.holds c = (c != '#' && !isBlank c) := by
  rw [solid, holds, holds_anyCase, holds, holds, holds, Bool.not_or]
  · rfl
  · intro d hd e he
    have hd : d = '#' ∨ isBlank d = true := by simpa [holds] using hd
    rcases hd with rfl | hd
    · exact Unicode.eq_of_mem_caseVariants (by decide) (by decide) he
    · exact Unicode.eq_of_isBlank hd he

theorem valueChar_holds (c : Char) :
    valueChar.holds c = (c != ';' && c != '#' && !isBlank c) := by
  rw [valueChar, holds, holds_anyCase, holds, holds, holds, holds, holds, Bool.not_or, Bool.not_or]
  · rfl
  · intro d hd e he
    have hd : (d = ';' ∨ d = '#') ∨ isBlank d = true := by simpa [holds] using hd
    rcases hd with (rfl | rfl) | hd
    · exact Unicode.eq_of_mem_caseVariants (by decide) (by decide) he
    · exact Unicode.eq_of_mem_caseVariants (by decide) (by decide) he
    · exact Unicode.eq_of_isBlank hd he

theorem trailingBlank_holds_iff {c : Char} :
    trailingBlank.holds c = true ↔ c = ' ' ∨ c = '\t' ∨ c = '\r' := by
  rw [trailingBlank, holds_anyCase]
  · simp [holds, or_assoc]
  · intro d hd e he
    have hd : (d = ' ' ∨ d = '\t') ∨ d = '\r' := by simpa [holds] using hd
    rcases hd with (rfl | rfl) | rfl <;>
      exact Unicode.eq_of_mem_caseVariants (by decide) (by decide) he

end CharSet

/-! ## The body of a line -/

namespace Text

/-- The text up to the first `#` or line feed, without the blanks at its end. -/
def body (t : Text) : Text := (t.takeWhile fun c => c != '#' && c != '\n').rdropWhile isBlank

theorem rdropWhile_cons (p : Char → Bool) (c : Char) (t : Text) :
    List.rdropWhile p (c :: t) =
      if List.rdropWhile p t = [] then if p c then [] else [c] else c :: List.rdropWhile p t := by
  rw [List.rdropWhile, List.rdropWhile, List.reverse_cons, List.dropWhile_append]
  by_cases h : t.reverse.dropWhile p = []
  · cases hc : p c <;> simp [h, hc]
  · simp [h, List.isEmpty_iff]

@[simp] theorem body_nil : body [] = [] := rfl

/-- The body of a line, character by character: a blank is dropped where nothing solid follows. -/
theorem body_cons (c : Char) (t : Text) :
    body (c :: t) =
      if c = '#' ∨ c = '\n' then []
      else if t.body = [] then if isBlank c then [] else [c] else c :: t.body := by
  rw [body, List.takeWhile_cons]
  by_cases hc : c = '#' ∨ c = '\n'
  · have hstop : (c != '#' && c != '\n') = false := by rcases hc with rfl | rfl <;> rfl
    rw [if_pos hc, hstop]
    rfl
  · rw [not_or] at hc
    rw [if_neg (not_or.mpr hc), if_pos (by simpa using hc), rdropWhile_cons]
    rfl

end Text

namespace Pattern

variable {p q : Pattern} {a b e : Place} {u w t : Text}

/-! ## Preferred matches -/

/-- From the place `a` on the preferred match of a pattern reads `w` and ends at `e`. -/
structure Prefers (p : Pattern) (a : Place) (w : Text) (e : Place) : Prop where
  head : (p.run a).head? = some e
  reads : a.Reads w e

namespace Prefers

theorem group (h : p.Prefers a w e) (k : Nat) :
    (Pattern.group k p).Prefers a w (e.capture k a.offset) where
  head := by rw [run, List.head?_map, h.head]; rfl
  reads := h.reads.capture k

/-- A sequence prefers what its halves prefer one after the other. -/
theorem seq (h : p.Prefers a u b) (h' : q.Prefers b w e) :
    (Pattern.seq p q).Prefers a (u ++ w) e where
  head := by
    obtain ⟨ends, hends⟩ := List.head?_eq_some_iff.mp h.head
    rw [run, hends, List.flatMap_cons, List.head?_append, h'.head]
    rfl
  reads := h.reads.trans h'.reads

/-- What a pattern prefers from the start of a text is its match there. -/
theorem exists_find (h : p.Prefers (Place.start t) w e) :
    ∃ m, p.tied.find t = some m ∧ t = w ++ m.rest := by
  refine ⟨⟨0, e.offset, e.captures, e.rest⟩, ?_, h.reads.rest⟩
  rw [find_tied, matchAt, h.head]
  rfl

/-- A pattern that has a match and can only read one text prefers to read it. -/
theorem of_mem (hb : b ∈ p.run a) (hall : ∀ e ∈ p.run a, a.Reads u e) : ∃ e, p.Prefers a u e := by
  obtain ⟨e, he⟩ := Option.ne_none_iff_exists'.mp
    (mt List.head?_eq_none_iff.mp (List.ne_nil_of_mem hb))
  exact ⟨e, he, hall e (List.mem_of_head? he)⟩

end Prefers

/-! ## Words -/

/-- A word prefers the text that equals it up to case. -/
theorem prefers_literal {s : String} (hs : WordChars s.toList) (hfold : u.EqFold s.toList)
    (ha : a.rest = u ++ t) : ∃ e, (literal s).Prefers a u e := by
  obtain ⟨b, hb, -⟩ := exists_mem_word hs hfold ha
  refine Prefers.of_mem hb fun e he => ?_
  obtain ⟨u', hu', hfold'⟩ := exists_of_mem_word hs he
  have hlength : u'.length = u.length := hfold'.length_eq.trans hfold.length_eq.symm
  obtain rfl := (List.append_inj (hu'.rest.symm.trans ha) hlength).1
  exact hu'

/-- Words none of which is the beginning of another, whose characters are equal if they equal a
third up to case. -/
structure PrefixFree (list : List String) : Prop where
  alike : ∀ s ∈ list, ∀ s' ∈ list, ∀ d ∈ s.toList, ∀ d' ∈ s'.toList, ∀ c,
    d ∈ Unicode.caseVariants c → d' ∈ Unicode.caseVariants c → d = d'
  free : ∀ s ∈ list, ∀ s' ∈ list, s.toList <+: s'.toList → s = s'

/-- Words of a class that has no two characters equal up to case. -/
theorem PrefixFree.of_orbits {P : Char → Bool} {list : List String}
    (horbits : Unicode.orbits.all (fun orbit => ((orbit.map Char.ofNat).filter P).length ≤ 1) =
      true) (h : ∀ s ∈ list, ∀ c ∈ s.toList, P c = true)
    (hfree : ∀ s ∈ list, ∀ s' ∈ list, s.toList <+: s'.toList → s = s') : PrefixFree list where
  alike s hs s' hs' d hd d' hd' _ hc hc' :=
    Unicode.unique_of_orbits horbits (h s hs d hd) (h s' hs' d' hd') hc hc'
  free := hfree

/-- No two lower-case ASCII letters are equal up to case. -/
theorem isLower_of_orbits : Unicode.orbits.all (fun orbit =>
    ((orbit.map Char.ofNat).filter fun c => c.isLower || c == '_').length ≤ 1) = true := by
  decide +kernel

/-- No two upper-case ASCII letters are equal up to case. -/
theorem isUpper_of_orbits : Unicode.orbits.all (fun orbit =>
    ((orbit.map Char.ofNat).filter fun c => c.isUpper || c == '_').length ≤ 1) = true := by
  decide +kernel

/-- Words in lower case are told apart by their letters, whatever the case of the text. -/
theorem PrefixFree.of_lower {list : List String}
    (h : ∀ s ∈ list, ∀ c ∈ s.toList, (c.isLower || c == '_') = true)
    (hfree : ∀ s ∈ list, ∀ s' ∈ list, s.toList <+: s'.toList → s = s') : PrefixFree list :=
  .of_orbits isLower_of_orbits h hfree

theorem PrefixFree.of_upper {list : List String} (h : ∀ s ∈ list, Text.Upper s.toList)
    (hfree : ∀ s ∈ list, ∀ s' ∈ list, s.toList <+: s'.toList → s = s') : PrefixFree list :=
  .of_orbits isUpper_of_orbits h hfree

/-- If a text is the beginning of another, the word it equals is the beginning of the word that the
other equals. -/
theorem prefix_of_eqFold {u u' w w' : Text} (h : u.EqFold w) (h' : u'.EqFold w') (hu : u <+: u')
    (halike : ∀ d ∈ w, ∀ d' ∈ w', ∀ c, d ∈ Unicode.caseVariants c → d' ∈ Unicode.caseVariants c →
      d = d') : w <+: w' := by
  induction h generalizing u' w' with
  | nil => exact List.nil_prefix
  | @cons c d u w hd _ ih =>
    cases h' with
    | nil => simp at hu
    | @cons c' d' u' w' hd' h' =>
      obtain ⟨rfl, hmore⟩ := List.cons_prefix_cons.mp hu
      obtain rfl := halike d (List.mem_cons_self ..) d' (List.mem_cons_self ..) c hd hd'
      refine List.cons_prefix_cons.mpr ⟨rfl, ih h' hmore fun x hx x' hx' => ?_⟩
      exact halike x (List.mem_cons_of_mem d hx) x' (List.mem_cons_of_mem d hx')

/-- The only text that a choice of words reads where one of them stands is that word. -/
theorem PrefixFree.unique {list : List String} (hfree : PrefixFree list) {s s' : String}
    (hs : s ∈ list) (hs' : s' ∈ list) {u u' t t' : Text} (hu : u.EqFold s.toList)
    (hu' : u'.EqFold s'.toList) (h : u ++ t = u' ++ t') : u = u' := by
  have hsame : s = s' := by
    rcases List.prefix_or_prefix_of_prefix ⟨t, h⟩ (List.prefix_append u' t') with hpre | hpre
    · exact hfree.free s hs s' hs' (prefix_of_eqFold hu hu' hpre (hfree.alike s hs s' hs'))
    · exact (hfree.free s' hs' s hs (prefix_of_eqFold hu' hu hpre (hfree.alike s' hs' s hs))).symm
  subst hsame
  exact (List.append_inj h (hu.length_eq.trans hu'.length_eq.symm)).1

/-- A choice between words of which none starts another prefers the one that is there. -/
theorem prefers_words {list : List String} (h : PlainWords list) (hfree : PrefixFree list)
    {s : String} (hs : s ∈ list) (hfold : u.EqFold s.toList) (ha : a.rest = u ++ t) :
    ∃ e, (words list).Prefers a u e := by
  obtain ⟨b, hb, -⟩ := exists_mem_words h hs hfold ha
  refine Prefers.of_mem hb fun e he => ?_
  obtain ⟨u', hu', s', hs', hfold'⟩ := exists_of_mem_words h he
  obtain rfl := hfree.unique hs' hs hfold' hfold (hu'.rest.symm.trans ha)
  exact hu'

/-- The ends of longer words come before those of shorter ones. -/
theorem pairwise_run_words {list : List String} (h : PlainWords list) (a : Place) :
    ((words list).run a).Pairwise fun x y => x.rest.length ≤ y.rest.length := by
  have hlength : ∀ w ∈ Regex.arrange (list.map String.toList), ∀ x ∈ (word true w).run a,
      w.size + x.rest.length = a.rest.length := fun w hw x hx => by
    obtain ⟨s, hs, rfl⟩ := List.mem_map.mp (Regex.mem_arrange.mp hw)
    obtain ⟨u, hu, hfold⟩ := exists_of_mem_word (h.plain s hs).chars hx
    have hsize : Text.size s.toList = s.toList.length := WordChars.size_eq (h.plain s hs).chars
    rw [hsize, ← hfold.length_eq, ← List.length_append, hu.rest]
  rw [run_words h.ne_nil]
  refine List.pairwise_flatMap.mpr ⟨fun w hw => ?_, ?_⟩
  · refine List.pairwise_of_forall_mem_list fun x hx y hy => ?_
    have := hlength w hw x hx
    have := hlength w hw y hy
    omega
  · refine (Regex.pairwise_arrange _).imp_of_mem fun {v w} hv hw hle x hx y hy => ?_
    have := hlength v hv x hx
    have := hlength w hw y hy
    omega

/-- A choice of words prefers the longest of its words that stand there. -/
theorem prefers_words_of_longest {list : List String} (h : PlainWords list) {s : String}
    (hs : s ∈ list) (hfold : u.EqFold s.toList) (ha : a.rest = u ++ t)
    (hlongest : ∀ s' ∈ list, ∀ u' : Text, u'.EqFold s'.toList → u' <+: u ++ t →
      u'.length ≤ u.length) : ∃ e, (words list).Prefers a u e := by
  obtain ⟨b, hb, hu⟩ := exists_mem_words h hs hfold ha
  obtain ⟨e, ends, hrun⟩ := List.exists_cons_of_ne_nil (List.ne_nil_of_mem hb)
  have he : e ∈ (words list).run a := by simp [hrun]
  obtain ⟨u', hu', s', hs', hfold'⟩ := exists_of_mem_words h he
  have htext : u' ++ e.rest = u ++ t := hu'.rest.symm.trans ha
  have hle : e.rest.length ≤ b.rest.length := by
    rw [hrun] at hb
    rcases List.mem_cons.mp hb with rfl | hb
    · exact Nat.le_refl _
    · exact (List.pairwise_cons.mp (hrun ▸ pairwise_run_words h a)).1 b hb
  have hlength : u'.length = u.length := by
    have hle' := hlongest s' hs' u' hfold' ⟨e.rest, htext⟩
    have hcut := congrArg List.length (hu'.rest.symm.trans hu.rest)
    simp only [List.length_append] at hcut
    omega
  obtain rfl := (List.append_inj htext hlength).1
  exact ⟨e, by rw [hrun, List.head?_cons], hu'⟩

/-! ## Runs and arguments -/

/-- A run of characters of a set is read to its end. -/
theorem prefers_many {s : CharSet} (hw : ∀ c ∈ w, s.holds c = true) (ha : a.rest = w ++ t)
    (ht : ∀ c ∈ t.head?, s.holds c = false) : ∃ e, (many true s).Prefers a w e := by
  have hrun : (w ++ t).takeWhile s.holds = w := by
    rw [List.takeWhile_append_of_pos hw]
    cases t with
    | nil => simp
    | cons c t => rw [List.takeWhile_cons_of_neg (by simp [ht c rfl]), List.append_nil]
  obtain ⟨e, he, hreads, -⟩ := head?_runEnds s (w ++ t) a [] ha
  rw [hrun] at hreads
  exact ⟨e, by rw [run, ha]; exact he, hreads⟩

theorem prefers_one {s : CharSet} {c : Char} (hc : s.holds c = true) (ha : a.rest = c :: t) :
    (one s).Prefers a [c] (a.advance c t) where
  head := by simp [run, ha, hc]
  reads := .advance ha

/-- A run of characters prefers the longest one. -/
theorem prefers_plus {s : CharSet} (hne : w ≠ []) (hw : ∀ c ∈ w, s.holds c = true)
    (ha : a.rest = w ++ t) (ht : ∀ c ∈ t.head?, s.holds c = false) :
    ∃ e, (plus s).Prefers a w e := by
  obtain ⟨c, w, rfl⟩ := List.exists_cons_of_ne_nil hne
  have hfirst := prefers_one (hw c (List.mem_cons_self ..)) ha
  obtain ⟨e, he⟩ := prefers_many (a := a.advance c (w ++ t))
    (fun d hd => hw d (List.mem_cons_of_mem c hd)) rfl ht
  exact ⟨e, hfirst.seq he⟩

/-- A run of blanks is read to its end. -/
theorem prefers_blanks (hw : w.Blanks) (ha : a.rest = w ++ t)
    (ht : ∀ c ∈ t.head?, c ≠ ' ' ∧ c ≠ '\t') : ∃ e, blanks.Prefers a w e := by
  refine prefers_plus hw.ne_nil (fun c hc => inlineBlank_holds_iff.mpr (hw.blank c hc)) ha ?_
  intro c hc
  refine Bool.eq_false_iff.mpr fun hholds => ?_
  exact (inlineBlank_holds_iff.mp hholds).elim (ht c hc).1 (ht c hc).2

theorem run_one_of_not {s : CharSet} (h : ∀ c ∈ a.rest.head?, s.holds c = false) :
    (one s).run a = [] := by
  cases hrest : a.rest with
  | nil => simp [run, hrest]
  | cons c rest => simp [run, hrest, h c (by simp [hrest])]

/-- Of the ends of a run before which a solid character stands the last is preferred. -/
theorem head?_lastSolid : ∀ (t : Text) (a : Place) (shorter : List Place), a.rest = t →
    (t.body ≠ [] → ∃ e, a.Reads t.body e ∧
      ((runEnds .beforeComment t a shorter).flatMap (one .solid).run).head? = some e) ∧
    (t.body = [] → ((runEnds .beforeComment t a shorter).flatMap (one .solid).run).head? =
      (shorter.flatMap (one .solid).run).head?)
  | [], a, shorter, ha => by
    have hnone : (one .solid).run a = [] := run_one_of_not (by simp [ha])
    simp [runEnds, hnone]
  | c :: t, a, shorter, ha => by
    rw [runEnds, CharSet.beforeComment_holds, Text.body_cons]
    by_cases hc : c = '#' ∨ c = '\n'
    · have hstop : (c != '#' && c != '\n') = false := by rcases hc with rfl | rfl <;> rfl
      have hnone : (one .solid).run a = [] := by
        refine run_one_of_not fun d hd => ?_
        obtain rfl : c = d := by simpa [ha] using hd
        rcases hc with rfl | rfl <;> rw [CharSet.solid_holds] <;> decide
      simp [hc, hstop, hnone]
    · have hgo : (c != '#' && c != '\n') = true := by simpa [not_or] using hc
      obtain ⟨hsome, hnone⟩ := head?_lastSolid t (a.advance c t) (a :: shorter) rfl
      rw [if_pos hgo, if_neg hc]
      by_cases hbody : Text.body t = []
      · rw [if_pos hbody, hnone hbody, List.flatMap_cons]
        cases hblank : isBlank c with
        | true =>
          have hskip : (one .solid).run a = [] := by
            refine run_one_of_not fun d hd => ?_
            obtain rfl : c = d := by simpa [ha] using hd
            rw [CharSet.solid_holds, hblank, Bool.not_true, Bool.and_false]
          simp [hskip]
        | false =>
          have hlast : (one .solid).run a = [a.advance c t] := by
            have hsolid : CharSet.solid.holds c = true := by
              rw [not_or] at hc
              simp [CharSet.solid_holds, hblank, hc.1]
            simp [run, ha, hsolid]
          simpa [hlast] using Place.Reads.advance ha
      · rw [if_neg hbody]
        obtain ⟨e, hreads, he⟩ := hsome hbody
        exact ⟨fun _ => ⟨e, (Place.Reads.advance ha).trans hreads, he⟩, fun h => by cases h⟩

/-- A line up to its last solid character is its body. -/
theorem prefers_toSolid (ha : a.rest = t) (ht : t.body ≠ []) :
    ∃ e, (seq (many true .beforeComment) (one .solid)).Prefers a t.body e := by
  obtain ⟨e, hreads, he⟩ := (head?_lastSolid t a [] ha).1 ht
  exact ⟨e, by simpa [run, ha] using he, hreads⟩

/-- A line without a body has no solid character. -/
theorem run_toSolid_eq_nil (ha : a.rest = t) (ht : t.body = []) :
    (seq (many true .beforeComment) (one .solid)).run a = [] := by
  have hnone := (head?_lastSolid t a [] ha).2 ht
  rw [List.flatMap_nil, List.head?_nil, List.head?_eq_none_iff] at hnone
  simpa [run, ha] using hnone

/-- An argument is one solid character, or goes on up to another. -/
theorem run_argument {c : Char} (ha : a.rest = c :: t) (hc : CharSet.solid.holds c = true) :
    argument.run a =
      (seq (many true .beforeComment) (one .solid)).run (a.advance c t) ++ [a.advance c t] := by
  have hfirst : (one .solid).run a = [a.advance c t] := by simp [run, ha, hc]
  rw [argument, run, hfirst, List.flatMap_cons, List.flatMap_nil, List.append_nil]
  rfl

/-- An argument is the body of the line. -/
theorem prefers_argument {c : Char} (ha : a.rest = c :: t) (hc : isBlank c = false)
    (hash : c ≠ '#') : ∃ e, argument.Prefers a (Text.body (c :: t)) e := by
  have hsolid : CharSet.solid.holds c = true := by simp [CharSet.solid_holds, hc, hash]
  have hnewline : c ≠ '\n' := by
    rintro rfl
    exact absurd hc (by decide)
  have hrun := run_argument ha hsolid
  rw [Text.body_cons, if_neg (not_or.mpr ⟨hash, hnewline⟩)]
  by_cases hbody : t.body = []
  · have hnone := run_toSolid_eq_nil (a := a.advance c t) rfl hbody
    rw [if_pos hbody, hc]
    exact ⟨_, by rw [hrun, hnone]; rfl, .advance ha⟩
  · obtain ⟨e, he⟩ := prefers_toSolid (a := a.advance c t) rfl hbody
    rw [if_neg hbody]
    refine ⟨e, ?_, (Place.Reads.advance ha).trans he.reads⟩
    rw [hrun, List.head?_append, he.head, Option.some_or]

/-! ## The end of a line -/

/-- A line ends before a comment, before a line feed and where nothing is left. -/
theorem endsLine_iff {o : Option Char} : endsLine o = true ↔ ∀ c ∈ o, c = '#' ∨ c = '\n' := by
  cases o with
  | none => simp [endsLine]
  | some c => simp [endsLine, or_comm]

/-- The lookahead for the end of a line, with blanks and what they lead to named. -/
theorem matches_lineEnd_iff {t : Text} :
    lineEnd.tied.matches t = true ↔ ∃ gap rest : Text, t = gap ++ rest ∧
      (∀ c ∈ gap, c = ' ' ∨ c = '\t' ∨ c = '\r') ∧ ∀ c ∈ rest.head?, c = '#' ∨ c = '\n' := by
  rw [matches_lineEnd, endsLine_iff]
  constructor
  · refine fun h => ⟨t.takeWhile CharSet.trailingBlank.holds, _,
      List.takeWhile_append_dropWhile.symm, fun c hc => ?_, h⟩
    exact CharSet.trailingBlank_holds_iff.mp (List.mem_takeWhile_imp hc)
  · rintro ⟨gap, rest, rfl, hgap, hrest⟩
    rw [List.dropWhile_append_of_pos fun c hc => CharSet.trailingBlank_holds_iff.mpr (hgap c hc)]
    cases rest with
    | nil => simp
    | cons c rest =>
      have hstop : ¬ CharSet.trailingBlank.holds c = true := by
        rw [CharSet.trailingBlank_holds_iff]
        rcases hrest c rfl with rfl | rfl <;> decide
      rw [List.dropWhile_cons_of_neg hstop]
      exact hrest

end Pattern

end Highlighter
