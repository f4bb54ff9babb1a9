import Mathlib.Data.List.Forall2
import Highlighter.Proofs.Grammar.Starts

/-!
# What words and blanks read

A word of a directive is matched character by character under simple case folding.
`Text.EqFold` is this relation between texts, and what the patterns for words read is
stated with it both ways: every match reads a text equal to a word, and where such a
text stands there is a match that reads it.

Directives are in upper-case letters and `_`.  A text equals at most one word of this
form (`Text.EqFold.unique`), since no two upper-case letters are equal up to case.
-/

namespace Highlighter

/-! ## Cuts of a text -/

/-- A text is cut in one way only after the characters at its start that meet a condition. -/
theorem Text.cut_unique {p : Char → Bool} {u u' t t' : Text} (h : u ++ t = u' ++ t')
    (hu : ∀ c ∈ u, p c = true) (hu' : ∀ c ∈ u', p c = true) (ht : ∀ c ∈ t.head?, p c = false)
    (ht' : ∀ c ∈ t'.head?, p c = false) : u = u' ∧ t = t' := by
  induction u generalizing u' with
  | nil =>
    cases u' with
    | nil => exact ⟨rfl, h⟩
    | cons c u' =>
      have hc := ht c (by rw [show t = c :: u' ++ t' from h]; rfl)
      rw [hu' c (List.mem_cons_self ..)] at hc
      cases hc
  | cons c u ih =>
    cases u' with
    | nil =>
      have hc := ht' c (by rw [← show c :: u ++ t = t' from h]; rfl)
      rw [hu c (List.mem_cons_self ..)] at hc
      cases hc
    | cons d u' =>
      obtain ⟨rfl, hmore⟩ := List.cons.inj h
      obtain ⟨rfl, rfl⟩ := ih hmore (fun x hx => hu x (List.mem_cons_of_mem c hx))
        fun x hx => hu' x (List.mem_cons_of_mem c hx)
      exact ⟨rfl, rfl⟩

/-! ## Case folding -/

namespace Unicode

/-- Among the ASCII characters only letters have other cases. -/
theorem isAlpha_of_orbits :
    orbits.all (fun orbit => orbit.all fun n =>
      (Char.ofNat n).isAlpha || decide (128 ≤ (Char.ofNat n).toNat)) = true := by
  decide +kernel

/-- No two upper-case ASCII letters are equal up to case. -/
theorem isUpper_of_orbits :
    orbits.all (fun orbit => ((orbit.map Char.ofNat).filter Char.isUpper).length ≤ 1) = true := by
  decide +kernel

/-- Every ASCII letter has another case. -/
theorem length_caseVariants_letters :
    ∀ n < 128, (Char.ofNat n).isAlpha = true → 1 < (caseVariants (Char.ofNat n)).length := by
  decide +kernel

variable {c d e : Char}

theorem self_mem_caseVariants (c : Char) : c ∈ caseVariants c := by
  refine List.mem_map.mpr ⟨c.toNat, ?_, Char.ofNat_toNat c⟩
  rcases orbitIn_cases orbits c.toNat with h | ⟨-, h⟩
  · rw [h]
    exact List.mem_singleton_self _
  · exact h

/-- An ASCII character that is no letter equals only itself up to case. -/
theorem eq_of_mem_caseVariants (hlt : d.toNat < 128) (hd : d.isAlpha = false)
    (h : d ∈ caseVariants c) : c = d := by
  obtain ⟨n, hn, rfl⟩ := List.mem_map.mp h
  rcases orbitIn_cases orbits c.toNat with horbit | ⟨hmem, -⟩
  · rw [horbit, List.mem_singleton] at hn
    rw [hn, Char.ofNat_toNat]
  · have hletter := List.all_eq_true.mp (List.all_eq_true.mp isAlpha_of_orbits _ hmem) n hn
    rw [hd, Bool.false_or, decide_eq_true_eq] at hletter
    omega

/-- Two characters of a class that has no two characters equal up to case are one if they equal a
third. -/
theorem unique_of_orbits {P : Char → Bool}
    (horbits : orbits.all (fun orbit => ((orbit.map Char.ofNat).filter P).length ≤ 1) = true)
    (hd : P d = true) (he : P e = true) (h : d ∈ caseVariants c) (h' : e ∈ caseVariants c) :
    d = e := by
  have hfilter : ((caseVariants c).filter P).length ≤ 1 := by
    rcases orbitIn_cases orbits c.toNat with horbit | ⟨hmem, -⟩
    · rw [caseVariants, horbit]
      exact Nat.le_trans (List.length_filter_le ..) (Nat.le_refl 1)
    · exact of_decide_eq_true (List.all_eq_true.mp horbits _ hmem)
  have hmem : d ∈ (caseVariants c).filter P := List.mem_filter.mpr ⟨h, hd⟩
  have hmem' : e ∈ (caseVariants c).filter P := List.mem_filter.mpr ⟨h', he⟩
  match (caseVariants c).filter P, hfilter, hmem, hmem' with
  | [x], _, hmem, hmem' => rw [List.mem_singleton.mp hmem, List.mem_singleton.mp hmem']

/-- A character has at most one upper-case ASCII variant. -/
theorem upper_unique (hd : d.isUpper = true) (he : e.isUpper = true) (h : d ∈ caseVariants c)
    (h' : e ∈ caseVariants c) : d = e :=
  unique_of_orbits isUpper_of_orbits hd he h h'

end Unicode

/-! ## Texts equal up to case -/

/-- Two texts are equal under simple case folding, character by character. -/
def Text.EqFold (u w : Text) : Prop := List.Forall₂ (fun c d => d ∈ Unicode.caseVariants c) u w

instance (u w : Text) : Decidable (u.EqFold w) :=
  inferInstanceAs (Decidable (List.Forall₂ _ u w))

/-- A word of upper-case ASCII letters and `_`. -/
def Text.Upper (w : Text) : Prop := ∀ c ∈ w, (c.isUpper || c == '_') = true

instance (w : Text) : Decidable w.Upper :=
  decidable_of_iff ((w.all fun c => c.isUpper || c == '_') = true) List.all_eq_true

theorem Text.Upper.ofList {cs : List Char} (h : Text.Upper cs) :
    Text.Upper (String.ofList cs).toList := by
  rwa [String.toList_ofList]

theorem Text.Upper.letters {w : Text} (h : w.Upper) : ∀ c ∈ w, (c.isAlpha || c == '_') = true := by
  intro c hc
  rcases Bool.or_eq_true_iff.mp (h c hc) with hupper | hline
  · exact Bool.or_eq_true_iff.mpr (.inl (Bool.or_eq_true_iff.mpr (.inl hupper)))
  · exact Bool.or_eq_true_iff.mpr (.inr hline)

namespace Text.EqFold

variable {u w w' : Text}

/-- What equals a word of letters and `_` has word characters only. -/
theorem isWordChar_of_letters (h : u.EqFold w) (hw : ∀ c ∈ w, (c.isAlpha || c == '_') = true) :
    ∀ c ∈ u, isWordChar c = true := by
  induction h with
  | nil => simp
  | @cons c d u w hd _ ih =>
    refine List.forall_mem_cons.mpr ⟨?_, ih fun x hx => hw x (List.mem_cons_of_mem d hx)⟩
    rcases Bool.or_eq_true_iff.mp (hw d (List.mem_cons_self ..)) with halpha | hline
    · exact Unicode.isWordChar_of_mem_caseVariants halpha hd
    · obtain rfl : d = '_' := by simpa using hline
      rw [Unicode.eq_of_mem_caseVariants (by decide) (by decide) hd]
      decide

/-- What equals a word in upper case has word characters only. -/
theorem isWordChar (h : u.EqFold w) (hw : w.Upper) : ∀ c ∈ u, isWordChar c = true :=
  h.isWordChar_of_letters hw.letters

/-- What equals a word of letters, `_` and `-` has word characters and hyphens only. -/
theorem isWordChar_or_hyphen (h : u.EqFold w)
    (hw : ∀ c ∈ w, (c.isAlpha || c == '_' || c == '-') = true) :
    ∀ c ∈ u, Highlighter.isWordChar c = true ∨ c = '-' := by
  induction h with
  | nil => simp
  | @cons c d u w hd _ ih =>
    refine List.forall_mem_cons.mpr ⟨?_, ih fun x hx => hw x (List.mem_cons_of_mem d hx)⟩
    rcases Bool.or_eq_true_iff.mp (hw d (List.mem_cons_self ..)) with hletter | hhyphen
    · rcases Bool.or_eq_true_iff.mp hletter with halpha | hline
      · exact .inl (Unicode.isWordChar_of_mem_caseVariants halpha hd)
      · obtain rfl : d = '_' := by simpa using hline
        rw [Unicode.eq_of_mem_caseVariants (by decide) (by decide) hd]
        exact .inl (by decide)
    · obtain rfl : d = '-' := by simpa using hhyphen
      exact .inr (Unicode.eq_of_mem_caseVariants (by decide) (by decide) hd)

/-- A text equals at most one word in upper case. -/
theorem unique (h : u.EqFold w) (h' : u.EqFold w') (hw : w.Upper) (hw' : w'.Upper) : w = w' := by
  induction h generalizing w' with
  | nil =>
    cases h'
    rfl
  | @cons c d u w hd _ ih =>
    cases h' with
    | @cons _ d' _ w' hd' h' =>
      have heq : d = d' := by
        rcases Bool.or_eq_true_iff.mp (hw d (List.mem_cons_self ..)) with hupper | hline
        · rcases Bool.or_eq_true_iff.mp (hw' d' (List.mem_cons_self ..)) with hupper' | hline'
          · exact Unicode.upper_unique hupper hupper' hd hd'
          · obtain rfl : d' = '_' := by simpa using hline'
            obtain rfl := Unicode.eq_of_mem_caseVariants (by decide) (by decide) hd'
            simpa [show Unicode.caseVariants '_' = ['_'] from rfl] using hd
        · obtain rfl : d = '_' := by simpa using hline
          obtain rfl := Unicode.eq_of_mem_caseVariants (by decide) (by decide) hd
          simpa [show Unicode.caseVariants '_' = ['_'] from rfl, eq_comm] using hd'
      rw [heq, ih h' (fun x hx => hw x (List.mem_cons_of_mem d hx))
        fun x hx => hw' x (List.mem_cons_of_mem d' hx)]

theorem ne_nil (h : u.EqFold w) (hw : w ≠ []) : u ≠ [] := by
  rintro rfl
  cases h
  exact hw rfl

end Text.EqFold

/-- A nonempty text of spaces and tabs. -/
structure Text.Blanks (w : Text) : Prop where
  ne_nil : w ≠ []
  blank : ∀ c ∈ w, c = ' ' ∨ c = '\t'

/-- A nonempty text within a line and before a comment. -/
structure Text.Argument (w : Text) : Prop where
  ne_nil : w ≠ []
  newline : '\n' ∉ w
  hash : '#' ∉ w

/-- No blank is a character of words. -/
theorem isWordChar_of_isBlank {c : Char} (hc : isBlank c = true) : isWordChar c = false := by
  have hcodes : ∀ n ∈ List.range' 0x9 5 ++ List.range' 0x2000 11,
      Unicode.wordRanges.holds n = false := by decide +kernel
  have hothers : [' ', '\u0085', '\u00a0', '\u1680', '\u2028', '\u2029', '\u202f', '\u205f',
      '\u3000'].all (fun d => !isWordChar d) = true := by decide +kernel
  by_cases hmem : c.toNat ∈ List.range' 0x9 5 ++ List.range' 0x2000 11
  · exact hcodes _ hmem
  · refine (Bool.not_eq_true' _).mp (List.all_eq_true.mp hothers c ?_)
    have hbelow : ¬ ('\t' ≤ c ∧ c ≤ '\x0d') ∧ ¬ ('\u2000' ≤ c ∧ c ≤ '\u200a') := by
      refine ⟨fun h => hmem ?_, fun h => hmem ?_⟩
      · have hlo : 0x9 ≤ c.toNat := h.1
        have hhi : c.toNat ≤ 0xd := h.2
        simp only [List.mem_append, List.mem_range'_1]
        omega
      · have hlo : 0x2000 ≤ c.toNat := h.1
        have hhi : c.toNat ≤ 0x200a := h.2
        simp only [List.mem_append, List.mem_range'_1]
        omega
    simpa [isBlank, hbelow, or_assoc] using hc

theorem isBlank_of_blank {c : Char} (hc : c = ' ' ∨ c = '\t') : isBlank c = true := by
  rcases hc with rfl | rfl <;> rfl

theorem isWordChar_of_blank {c : Char} (hc : c = ' ' ∨ c = '\t') : isWordChar c = false :=
  isWordChar_of_isBlank (isBlank_of_blank hc)

/-- A text that starts with a run of blanks starts with a space or a tab. -/
theorem Text.Blanks.head?_append {w : Text} (h : w.Blanks) (t : Text) :
    ∀ c ∈ (w ++ t).head?, c = ' ' ∨ c = '\t' := by
  intro c hc
  rw [List.head?_append_of_ne_nil w h.ne_nil] at hc
  exact h.blank c (List.mem_of_head? hc)

/-- What starts with a solid character starts with neither a space nor a tab. -/
theorem Text.ne_blank_of_solid {t : Text} (h : ∀ c ∈ t.head?, isBlank c = false) :
    ∀ c ∈ t.head?, c ≠ ' ' ∧ c ≠ '\t' := by
  intro c hc
  have hsolid := h c hc
  constructor
  all_goals
    rintro rfl
    exact absurd hsolid (by decide)

/-- A run of blanks is cut off in one way only. -/
theorem Text.Blanks.cut {b b' t t' : Text} (hb : b.Blanks) (hb' : b'.Blanks)
    (ht : ∀ c ∈ t.head?, c ≠ ' ' ∧ c ≠ '\t') (ht' : ∀ c ∈ t'.head?, c ≠ ' ' ∧ c ≠ '\t')
    (h : b ++ t = b' ++ t') : b = b' ∧ t = t' := by
  have hall : ∀ {u : Text}, u.Blanks → ∀ c ∈ u, (c == ' ' || c == '\t') = true :=
    fun hu c hc => by simpa using hu.blank c hc
  have hstop : ∀ {u : Text}, (∀ c ∈ u.head?, c ≠ ' ' ∧ c ≠ '\t') →
      ∀ c ∈ u.head?, (c == ' ' || c == '\t') = false := fun hu c hc => by simpa using hu c hc
  exact Text.cut_unique h (hall hb) (hall hb') (hstop ht) (hstop ht')

/-- Every text is some blanks within a line and a text that starts with none. -/
theorem Text.exists_blanks_append (t : Text) : ∃ b t' : Text, t = b ++ t' ∧
    (∀ c ∈ b, c = ' ' ∨ c = '\t') ∧ ∀ c ∈ t'.head?, c ≠ ' ' ∧ c ≠ '\t' := by
  induction t with
  | nil => exact ⟨[], [], rfl, by simp, by simp⟩
  | cons c t ih =>
    by_cases hc : c = ' ' ∨ c = '\t'
    · obtain ⟨b, t', rfl, hb, ht'⟩ := ih
      exact ⟨c :: b, t', rfl, List.forall_mem_cons.mpr ⟨hc, hb⟩, ht'⟩
    · exact ⟨[], c :: t, rfl, by simp, by simpa [not_or] using hc⟩

/-- A character of words is neither a blank nor a `#`. -/
theorem solid_of_isWordChar {c : Char} (h : isWordChar c = true) : isBlank c = false ∧ c ≠ '#' := by
  constructor
  · by_contra hblank
    rw [isWordChar_of_isBlank (by simpa using hblank)] at h
    cases h
  · rintro rfl
    exact absurd h (by decide)

theorem isWordChar_of_letter {c : Char} (h : (c.isAlpha || c == '_') = true) :
    isWordChar c = true := by
  rcases Bool.or_eq_true_iff.mp h with halpha | hline
  · exact Unicode.isWordChar_of_isAlpha halpha
  · obtain rfl : c = '_' := by simpa using hline
    decide

/-- What equals a plain word up to case has neither a blank nor a `#`. -/
theorem Text.EqFold.solid {u w : Text} (h : u.EqFold w) (hw : w.Plain) :
    ∀ c ∈ u, isBlank c = false ∧ c ≠ '#' := by
  intro c hc
  rcases h.isWordChar_or_hyphen hw.chars c hc with hword | rfl
  · exact solid_of_isWordChar hword
  · decide

/-- A word that was read ends at an edge if no word character follows. -/
theorem Place.Reads.wordEdge {a b : Place} {u : Text} (h : a.Reads u b) (hne : u ≠ [])
    (hu : ∀ c ∈ u, isWordChar c = true) (hnext : ∀ c ∈ b.rest.head?, isWordChar c = false) :
    (Assertion.word .either .word).holds b.before b.rest.head? = true := by
  obtain ⟨c, hc⟩ := Option.ne_none_iff_exists'.mp (mt List.getLast?_eq_none_iff.mp hne)
  have hword := hu c (List.mem_of_getLast? hc)
  have hrest : b.rest.head?.any isWordChar = false := by
    cases hhead : b.rest.head? with
    | none => rfl
    | some d => exact hnext d hhead
  have hchars : CharSet.word.holds = isWordChar := rfl
  rw [Assertion.holds, WordEdge.holds, hchars, h.before, hc, hrest]
  simpa using hword

namespace Pattern

/-! ## Words -/

/-- A character of a plain word reads what equals it up to case. -/
theorem letter_holds_iff {c d : Char} (hd : (d.isAlpha || d == '_' || d == '-') = true) :
    (letter true d).holds c = true ↔ d ∈ Unicode.caseVariants c := by
  rw [letter, Bool.true_and]
  by_cases hcased : 1 < (Unicode.caseVariants d).length
  · rw [if_pos (by simpa using hcased), CharSet.holds, List.any_eq_true]
    constructor
    · rintro ⟨x, hx, hholds⟩
      obtain rfl : x = d := by simpa [CharSet.holds] using hholds
      exact hx
    · intro hmem
      exact ⟨d, hmem, by simp [CharSet.holds]⟩
  · rw [if_neg (by simpa using hcased), CharSet.holds, beq_iff_eq]
    constructor
    · rintro rfl
      exact Unicode.self_mem_caseVariants c
    · intro hmem
      have hother : d.isAlpha = false ∧ d.toNat < 128 := by
        by_cases halpha : d.isAlpha = true
        · have hlength := Unicode.length_caseVariants_letters d.toNat
            (Unicode.toNat_lt_of_isAlpha halpha) (by rwa [Char.ofNat_toNat])
          rw [Char.ofNat_toNat] at hlength
          exact absurd hlength hcased
        · have hd : d = '_' ∨ d = '-' := by simpa [halpha] using hd
          rcases hd with rfl | rfl <;> decide
      exact Unicode.eq_of_mem_caseVariants hother.2 hother.1 hmem

section Words

variable {p : Pattern} {a b e : Place} {w u t : Text}

/-- The characters of a plain word. -/
def WordChars (w : Text) : Prop := ∀ c ∈ w, (c.isAlpha || c == '_' || c == '-') = true

/-- Each character of a plain word is one byte. -/
theorem WordChars.size_eq (hw : WordChars w) : w.size = w.length := by
  induction w with
  | nil => rfl
  | cons c w ih =>
    have hlt : c.toNat < 128 := by
      rcases Bool.or_eq_true_iff.mp (hw c (List.mem_cons_self ..)) with hletter | hhyphen
      · rcases Bool.or_eq_true_iff.mp hletter with halpha | hline
        · exact Unicode.toNat_lt_of_isAlpha halpha
        · rw [beq_iff_eq.mp hline]
          decide
      · rw [beq_iff_eq.mp hhyphen]
        decide
    have hone : c.utf8Size = 1 := Char.utf8Size_eq_one_iff.mpr (Nat.le_of_lt_succ hlt)
    rw [Text.size_cons, hone, ih fun d hd => hw d (List.mem_cons_of_mem c hd), List.length_cons,
      Nat.add_comm]

theorem run_word (b : Bool) : ∀ (w : Text) (a : Place),
    (word b w).run a = (wordThen b w .empty).run a
  | [], _ => rfl
  | [c], a => by simp [word, wordThen, run]
  | c :: d :: w, a => by
    have hrest : word b (c :: d :: w) = .seq (.one (letter b c)) (word b (d :: w)) := rfl
    have hrest' : wordThen b (c :: d :: w) .empty =
        .seq (.one (letter b c)) (wordThen b (d :: w) .empty) := rfl
    rw [hrest, hrest', run, funext (run_word b (d :: w))]
    rfl

/-- A match of a word and a pattern reads a text equal to the word, and goes on. -/
theorem exists_of_mem_wordThen (hw : WordChars w) : ∀ {a : Place}, e ∈ (wordThen true w p).run a →
    ∃ u b, a.Reads u b ∧ u.EqFold w ∧ b.captures = a.captures ∧ e ∈ p.run b := by
  induction w with
  | nil => exact fun {a} he => ⟨[], a, .refl a, .nil, rfl, he⟩
  | cons d w ih =>
    intro a he
    obtain ⟨b, hb, he⟩ := List.mem_flatMap.mp he
    simp only [run] at hb
    split at hb
    · simp at hb
    · next c rest hrest =>
      split at hb
      · next hholds =>
        obtain rfl := List.mem_singleton.mp hb
        obtain ⟨u, b, hu, hfold, hcaptures, he⟩ :=
          ih (fun x hx => hw x (List.mem_cons_of_mem d hx)) he
        have hd := (letter_holds_iff (hw d (List.mem_cons_self ..))).mp hholds
        exact ⟨c :: u, b, (Place.Reads.advance hrest).trans hu, .cons hd hfold, hcaptures, he⟩
      · simp at hb

/-- Where a text equal to a word stands, what matches after it is a match of the two. -/
theorem exists_mem_wordThen (hw : WordChars w) (hfold : u.EqFold w) : ∀ {a : Place},
    a.rest = u ++ t → ∃ b, a.Reads u b ∧ ∀ e ∈ p.run b, e ∈ (wordThen true w p).run a := by
  induction hfold with
  | nil => exact fun {a} _ => ⟨a, .refl a, fun _ he => he⟩
  | @cons c d u w hd hfold ih =>
    intro a ha
    obtain ⟨b, hb, hrun⟩ := ih (fun x hx => hw x (List.mem_cons_of_mem d hx))
      (a := a.advance c (u ++ t)) rfl
    refine ⟨b, (Place.Reads.advance ha).trans hb, fun e he => ?_⟩
    have hholds := (letter_holds_iff (hw d (List.mem_cons_self ..))).mpr hd
    refine List.mem_flatMap.mpr ⟨a.advance c (u ++ t), ?_, hrun e he⟩
    simp [run, ha, hholds]

/-- A match of a word reads a text that equals the word up to case. -/
theorem exists_of_mem_word (hw : WordChars w) (hb : b ∈ (word true w).run a) :
    ∃ u, a.Reads u b ∧ u.EqFold w := by
  rw [run_word] at hb
  obtain ⟨u, b', hu, hfold, -, hb⟩ := exists_of_mem_wordThen hw hb
  obtain rfl := List.mem_singleton.mp hb
  exact ⟨u, hu, hfold⟩

/-- The text that a match of a word reads equals the word up to case. -/
theorem eqFold_of_reads (hw : WordChars w) (hb : b ∈ (word true w).run a) (hu : a.Reads u b) :
    u.EqFold w := by
  obtain ⟨u', hu', h⟩ := exists_of_mem_word hw hb
  rwa [hu.unique hu']

/-- A text that equals a word up to case is read by it. -/
theorem exists_mem_word (hw : WordChars w) (hfold : u.EqFold w) (ha : a.rest = u ++ t) :
    ∃ b ∈ (word true w).run a, a.Reads u b := by
  obtain ⟨b, hb, hrun⟩ := exists_mem_wordThen (p := .empty) hw hfold ha
  refine ⟨b, ?_, hb⟩
  rw [run_word]
  exact hrun b (List.mem_singleton_self b)

/-- The ends of a choice are those of its members, one after another. -/
theorem run_choice : ∀ {ps : List Pattern}, ps ≠ [] → ∀ a : Place,
    (choice ps).run a = ps.flatMap fun p => p.run a
  | [], h, _ => absurd rfl h
  | [p], _, a => by simp [choice]
  | p :: q :: ps, _, a => by
    have hrest : choice (p :: q :: ps) = .alt p (choice (q :: ps)) := rfl
    rw [hrest, run, run_choice (List.cons_ne_nil q ps)]
    rfl

/-- A choice between words tries them in their written order. -/
theorem run_words {list : List String} (h : list ≠ []) (a : Place) : (words list).run a =
    (Regex.arrange (list.map String.toList)).flatMap fun w => (word true w).run a := by
  have harrange : Regex.arrange (list.map String.toList) ≠ [] :=
    Regex.arrange_ne_nil (by simpa using h)
  rw [words, run_choice (by simpa using harrange), List.flatMap_map]

/-- A match of a choice between words is a match of one of them. -/
theorem mem_run_words {list : List String} (h : list ≠ []) :
    b ∈ (words list).run a ↔ ∃ s ∈ list, b ∈ (literal s).run a := by
  rw [run_words h, List.mem_flatMap]
  constructor
  · rintro ⟨w, hw, hb⟩
    obtain ⟨s, hs, rfl⟩ := List.mem_map.mp (Regex.mem_arrange.mp hw)
    exact ⟨s, hs, hb⟩
  · rintro ⟨s, hs, hb⟩
    exact ⟨s.toList, Regex.mem_arrange.mpr (List.mem_map.mpr ⟨s, hs, rfl⟩), hb⟩

/-- A match of some words reads a text equal to one of them. -/
theorem exists_of_mem_words {list : List String} (h : PlainWords list)
    (hb : b ∈ (words list).run a) : ∃ u, a.Reads u b ∧ ∃ s ∈ list, u.EqFold s.toList := by
  obtain ⟨s, hs, hb⟩ := (mem_run_words h.ne_nil).mp hb
  obtain ⟨u, hu, hfold⟩ := exists_of_mem_word (h.plain s hs).chars hb
  exact ⟨u, hu, s, hs, hfold⟩

/-- A text that equals one of some words up to case is read by their choice. -/
theorem exists_mem_words {list : List String} (h : PlainWords list) {s : String} (hs : s ∈ list)
    (hfold : u.EqFold s.toList) (ha : a.rest = u ++ t) :
    ∃ b ∈ (words list).run a, a.Reads u b := by
  obtain ⟨b, hb, hu⟩ := exists_mem_word (h.plain s hs).chars hfold ha
  exact ⟨b, (mem_run_words h.ne_nil).mpr ⟨s, hs, hb⟩, hu⟩

end Words

/-! ## Blanks -/

/-- The blanks within a line are the space and the tab. -/
theorem inlineBlank_holds_iff {c : Char} :
    CharSet.inlineBlank.holds c = true ↔ c = ' ' ∨ c = '\t' := by
  rw [CharSet.inlineBlank, CharSet.holds, List.any_eq_true]
  constructor
  · rintro ⟨d, hd, hholds⟩
    have hblank : d = ' ' ∨ d = '\t' := by simpa [CharSet.holds] using hholds
    rcases hblank with rfl | rfl
    · exact Or.inl (Unicode.eq_of_mem_caseVariants (by decide) (by decide) hd)
    · exact Or.inr (Unicode.eq_of_mem_caseVariants (by decide) (by decide) hd)
  · intro hc
    refine ⟨c, Unicode.self_mem_caseVariants c, ?_⟩
    rcases hc with rfl | rfl <;> rfl

theorem mem_runEnds_of_mem {s : CharSet} {e : Place} : ∀ {t : Text} {a : Place}
    {shorter : List Place}, e ∈ a :: shorter → e ∈ runEnds s t a shorter
  | [], _, _, h => h
  | c :: t, a, shorter, h => by
    rw [runEnds]
    split
    · exact mem_runEnds_of_mem (List.mem_cons_of_mem _ h)
    · exact h

/-- A run may end behind any characters of the set. -/
theorem exists_mem_runEnds {s : CharSet} {t : Text} : ∀ {u : Text} (a : Place)
    (shorter : List Place), a.rest = u ++ t → (∀ c ∈ u, s.holds c = true) →
      ∃ e ∈ runEnds s (u ++ t) a shorter, a.Reads u e
  | [], a, shorter, _, _ => by
    refine ⟨a, ?_, .refl a⟩
    cases t with
    | nil => exact List.mem_cons_self ..
    | cons c t => exact mem_runEnds_of_mem (List.mem_cons_self ..)
  | c :: u, a, shorter, ha, hu => by
    obtain ⟨e, he, hreads⟩ := exists_mem_runEnds (a.advance c (u ++ t)) (a :: shorter) rfl
      fun d hd => hu d (List.mem_cons_of_mem c hd)
    refine ⟨e, ?_, (Place.Reads.advance ha).trans hreads⟩
    rw [List.cons_append, runEnds, if_pos (hu c (List.mem_cons_self ..))]
    exact he

section Blanks

variable {a b : Place} {w t : Text}

/-- A match of blanks reads blanks. -/
theorem exists_of_mem_blanks (hb : b ∈ blanks.run a) : ∃ w, a.Reads w b ∧ w.Blanks := by
  obtain ⟨w, hw, hall⟩ := blanks.exists_reads a b hb
  refine ⟨w, hw, ne_nil_of_reads rfl hb hw, fun c hc => ?_⟩
  have haccepts := hall c hc
  rw [blanks, plus, accepts, accepts, accepts, Bool.or_self] at haccepts
  exact inlineBlank_holds_iff.mp haccepts

/-- A run of blanks is read up to any of its ends. -/
theorem exists_mem_blanks (hw : w.Blanks) (ha : a.rest = w ++ t) :
    ∃ b ∈ blanks.run a, a.Reads w b := by
  obtain ⟨c, w, rfl⟩ := List.exists_cons_of_ne_nil hw.ne_nil
  have hholds : ∀ d ∈ c :: w, CharSet.inlineBlank.holds d = true := fun d hd =>
    inlineBlank_holds_iff.mpr (hw.blank d hd)
  obtain ⟨b, hb, hreads⟩ := exists_mem_runEnds (t := t) (a.advance c (w ++ t)) [] rfl
    fun d hd => hholds d (List.mem_cons_of_mem c hd)
  refine ⟨b, ?_, (Place.Reads.advance ha).trans hreads⟩
  refine List.mem_flatMap.mpr ⟨a.advance c (w ++ t), ?_, hb⟩
  simp [run, ha, hholds c (List.mem_cons_self ..)]

theorem blanks_of_reads (hb : b ∈ blanks.run a) (hw : a.Reads w b) : w.Blanks := by
  obtain ⟨w', hw', h⟩ := exists_of_mem_blanks hb
  rwa [hw.unique hw']

/-- A pattern that reads on with a space or a tab. -/
structure BlankFirst (p : Pattern) : Prop where
  consumes : p.consumes = true
  starts : ∀ c, p.starts c = true → CharSet.inlineBlank.holds c = true

/-- A match of such a pattern starts at a space or a tab. -/
theorem BlankFirst.exists_cons {p : Pattern} (h : p.BlankFirst) (hb : b ∈ p.run a) :
    ∃ c t, a.rest = c :: t ∧ (c = ' ' ∨ c = '\t') := by
  obtain ⟨u, hu, hstarts⟩ := p.starts_of_mem_run a b hb
  obtain ⟨c, u, rfl⟩ := List.exists_cons_of_ne_nil (ne_nil_of_reads h.consumes hb hu)
  exact ⟨c, u ++ b.rest, hu.rest, inlineBlank_holds_iff.mp (h.starts c (hstarts c rfl))⟩

theorem blankFirst_blanks : blanks.BlankFirst :=
  ⟨rfl, fun c hc => by simpa [blanks, plus, starts, Pattern.consumes] using hc⟩

theorem BlankFirst.group {p : Pattern} (h : p.BlankFirst) (k : Nat) :
    (Pattern.group k p).BlankFirst :=
  ⟨h.consumes, h.starts⟩

theorem BlankFirst.groupsThen {p : Pattern} (h : p.BlankFirst) (k : Nat) (ps : List Pattern)
    (q : Pattern) : (Pattern.groupsThen k (p :: ps) q).BlankFirst where
  consumes := by rw [Pattern.groupsThen, Pattern.consumes, (h.group k).consumes]; rfl
  starts c hc := by
    rw [Pattern.groupsThen, Pattern.starts, (h.group k).consumes] at hc
    exact h.starts c (by simpa [Pattern.starts] using hc)

end Blanks

/-! ## Arguments -/

/-- An argument is a nonempty text within a line and before a comment. -/
theorem argument_of_reads {a b : Place} {w : Text} (hb : b ∈ argument.run a)
    (hw : a.Reads w b) : w.Argument := by
  obtain ⟨w', hw', hall⟩ := argument.exists_reads a b hb
  obtain rfl := hw.unique hw'
  refine ⟨ne_nil_of_reads rfl hb hw, fun hmem => ?_, fun hmem => ?_⟩
  · exact absurd (hall _ hmem) (by decide)
  · exact absurd (hall _ hmem) (by decide)

end Pattern

end Highlighter
