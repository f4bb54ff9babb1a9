import Mathlib.Data.List.TakeDrop
import Mathlib.Data.List.TakeWhile
import Highlighter.Proofs.Regex.Reading

/-!
# Reading inside parentheses

A text that is a regular expression by itself reads the same when a closing parenthesis
comes after it.

Each reader looks a few characters ahead, so this is shown reader by reader.  `Enclosed t t'`
relates what is left of the text by itself with what is left of it before the parenthesis.
`Agree f f'` says that what `f` reads from the first, `f'` reads from the second.  Only
a comment tells the two apart: one that runs up to the end of the text takes the
parenthesis in, and then nothing is left of either.

`readLevel_enclosed` is the result for whole levels.  It holds with more fuel before the
parenthesis than without it, since a longer text comes with more.
-/

namespace Highlighter.Regex

/-! ## Texts before a parenthesis -/

/-- What is left of a text by itself, and of the text before a parenthesis. -/
inductive Enclosed : Text → Text → Prop where
  /-- The parenthesis is still to come. -/
  | paren (t : Text) : Enclosed t (t ++ [')'])
  /-- A comment took it in. -/
  | spent : Enclosed [] []

/-- What the first reader reads from a text by itself, the second reads before a parenthesis. -/
def Agree {α : Type} (f f' : Text → Option (α × Text)) : Prop :=
  ∀ ⦃t t'⦄, Enclosed t t' → ∀ ⦃a rest⦄, f t = some (a, rest) →
    ∃ rest', f' t' = some (a, rest') ∧ Enclosed rest rest'

/-- A character still to be read comes next in both texts. -/
theorem Enclosed.cons {c : Char} {t t' : Text} (h : Enclosed (c :: t) t') :
    ∃ u', t' = c :: u' ∧ Enclosed t u' := by
  cases h with
  | paren => exact ⟨t ++ [')'], rfl, .paren t⟩

/-- A character other than the parenthesis that comes next in the second text does so in both. -/
theorem Enclosed.of_cons {c : Char} {t u' : Text} (h : Enclosed t (c :: u'))
    (hc : c ≠ ')' := by decide) : ∃ u, t = c :: u ∧ Enclosed u u' := by
  generalize ht : c :: u' = t' at h
  cases h with
  | paren =>
    cases t with
    | nil =>
      cases ht
      exact absurd rfl hc
    | cons d u =>
      cases ht
      exact ⟨u, rfl, .paren u⟩
  | spent => cases ht

/-- A character other than the parenthesis starts both texts or neither. -/
theorem Enclosed.starts {t t' : Text} (h : Enclosed t t') (c : Char)
    (hc : c ≠ ')' := by decide) :
    (∃ u u', t = c :: u ∧ t' = c :: u' ∧ Enclosed u u') ∨
      (∀ u, t ≠ c :: u) ∧ ∀ u, t' ≠ c :: u := by
  by_cases hstart : ∃ u, t = c :: u
  · obtain ⟨u, rfl⟩ := hstart
    obtain ⟨u', rfl, hu⟩ := h.cons
    exact .inl ⟨u, u', rfl, rfl, hu⟩
  · refine .inr ⟨fun u hu => hstart ⟨u, hu⟩, ?_⟩
    rintro u' rfl
    obtain ⟨u, rfl, -⟩ := h.of_cons hc
    exact hstart ⟨u, rfl⟩

/-- Where the second text is spent, so is the first. -/
theorem Enclosed.eq_nil {t : Text} (h : Enclosed t []) : t = [] := by
  generalize ht : [] = t' at h
  cases h with
  | paren => simp at ht
  | spent => rfl

theorem Enclosed.length_le {t t' : Text} (h : Enclosed t t') : t.length ≤ t'.length := by
  cases h with
  | paren => simp
  | spent => exact Nat.le_refl _

/-! ## Blanks and numbers -/

/-- Blanks and comments are skipped alike, and only a comment reaches over the parenthesis. -/
theorem skipBlanks_enclosed : ∀ (inComment : Bool) (t : Text),
    Enclosed (skipBlanks inComment t) (skipBlanks inComment (t ++ [')']))
  | true, [] => .spent
  | false, [] => .paren []
  | true, c :: t => skipBlanks_enclosed (c != '\n') t
  | false, c :: t => by
    rw [List.cons_append, skipBlanks, skipBlanks]
    split
    · exact skipBlanks_enclosed false t
    · split
      · exact skipBlanks_enclosed true t
      · exact .paren (c :: t)

theorem Enclosed.gap {t t' : Text} (h : Enclosed t t') (flags : Flags) :
    Enclosed (gap flags t) (gap flags t') := by
  unfold Regex.gap
  split
  · cases h with
    | paren => exact skipBlanks_enclosed false t
    | spent => exact .spent
  · exact h

theorem skipBlanks_length_le : ∀ (inComment : Bool) (t : Text),
    (skipBlanks inComment t).length ≤ t.length
  | inComment, [] => by simp [skipBlanks]
  | true, c :: t => Nat.le_succ_of_le (skipBlanks_length_le _ t)
  | false, c :: t => by
    rw [skipBlanks]
    split
    · exact Nat.le_succ_of_le (skipBlanks_length_le false t)
    · split
      · exact Nat.le_succ_of_le (skipBlanks_length_le true t)
      · exact Nat.le_refl _

/-- What stands behind a gap is no longer than the text it was in. -/
theorem gap_length_le (flags : Flags) (t : Text) : (gap flags t).length ≤ t.length := by
  rw [gap]
  split
  · exact skipBlanks_length_le false t
  · exact Nat.le_refl _

/-- Digits of fixed number are read one by one, with gaps between them. -/
theorem readHexDigits_agree (flags : Flags) : ∀ n value : Nat,
    Agree (readHexDigits flags n value) (readHexDigits flags n value)
  | 0, value, t, t', h, a, rest, hread => by
    cases hread
    exact ⟨t', rfl, h⟩
  | n + 1, value, [], t', h, a, rest, hread => by cases hread
  | n + 1, value, c :: t, t', h, a, rest, hread => by
    obtain ⟨u', rfl, hu⟩ := h.cons
    rw [readHexDigits] at hread ⊢
    split at hread
    · cases hread
    · next d hd => exact readHexDigits_agree flags n _ (hu.gap flags) hread

/-- The closing brace ends the digits before the parenthesis is met. -/
theorem readBraced_agree (flags : Flags) : ∀ (fuel fuel' : Nat) (read : Text), fuel ≤ fuel' →
    Agree (readBraced flags fuel read) (readBraced flags fuel' read)
  | 0, fuel', read, hle, t, t', h, a, rest, hread => by cases hread
  | fuel + 1, fuel' + 1, read, hle, t, t', h, a, rest, hread => by
    have hgap := h.gap flags
    rw [readBraced] at hread ⊢
    generalize gap flags t = u at hread hgap
    cases u with
    | nil => cases hread
    | cons c u =>
      obtain ⟨u', hu', hu⟩ := hgap.cons
      rw [hu']
      by_cases hc : c = '}'
      · subst hc
        cases hread
        exact ⟨u', rfl, hu⟩
      · simp only [] at hread ⊢
        exact readBraced_agree flags fuel fuel' _ (Nat.le_of_succ_le_succ hle) hu hread

/-! ## Escapes -/

theorem readCode_agree (flags : Flags) (digits : Nat) :
    Agree (readCode flags digits) (readCode flags digits) := by
  intro t t' h a rest hread
  have hgap := h.gap flags
  rw [readCode] at hread ⊢
  generalize gap flags t = u at hread hgap
  generalize gap flags t' = u' at hgap ⊢
  cases u with
  | nil => cases hread
  | cons c u =>
    obtain ⟨u', rfl, hu⟩ := hgap.cons
    by_cases hc : c = '\x7b'
    · subst hc
      simp only [] at hread ⊢
      split at hread
      · cases hread
      · next code after hcode =>
        obtain ⟨after', hcode', hafter⟩ := readBraced_agree flags _ (u'.length + 1) []
          (Nat.succ_le_succ hu.length_le) hu hcode
        obtain ⟨d, hd, heq⟩ := Option.map_eq_some_iff.mp hread
        cases heq
        exact ⟨_, by simp [hcode', hd], hafter.gap flags⟩
    · simp only [List.cons.injEq, hc, false_and, imp_self, implies_true] at hread ⊢
      split at hread
      · cases hread
      · next n after hcode =>
        obtain ⟨after', hcode', hafter⟩ := readHexDigits_agree flags digits 0 hgap hcode
        obtain ⟨d, hd, heq⟩ := Option.map_eq_some_iff.mp hread
        cases heq
        exact ⟨_, by simp [hcode', hd], hafter⟩

/-- A property is one letter, or a name that ends with its brace. -/
theorem readProperty_agree (flags : Flags) (negated : Bool) :
    Agree (readProperty flags negated) (readProperty flags negated) := by
  intro t t' h a rest hread
  have hgap := h.gap flags
  rw [readProperty] at hread ⊢
  split at hread
  · cases hread
  · next hu =>
    rw [if_neg hu]
    generalize gap flags t = u at hread hgap
    cases u with
    | nil => cases hread
    | cons c u =>
      obtain ⟨u', hu', hu⟩ := hgap.cons
      rw [hu']
      by_cases hc : c = '\x7b'
      · subst hc
        simp only [] at hread ⊢
        split at hread
        · cases hread
        · next name after hname =>
          obtain ⟨after', hname', hafter⟩ := readBraced_agree flags _ (u'.length + 1) []
            (Nat.succ_le_succ hu.length_le) hu hname
          obtain ⟨d, hd, heq⟩ := Option.map_eq_some_iff.mp hread
          cases heq
          exact ⟨_, by simp [hname', hd], hafter⟩
      · simp only [] at hread ⊢
        split at hread
        · cases hread
        · next hback =>
          obtain ⟨d, hd, heq⟩ := Option.map_eq_some_iff.mp hread
          cases heq
          exact ⟨_, by simp [hback, hd], hu.gap flags⟩

/-- The name of a word edge, up to the brace that closes it. -/
theorem readEdgeName_agree (flags : Flags) : ∀ (fuel fuel' : Nat) (read : Text), fuel ≤ fuel' →
    ∀ {t t' name rest : Text}, Enclosed t t' →
      readEdgeName flags fuel read t = (name, '\x7d' :: rest) →
        ∃ rest', readEdgeName flags fuel' read t' = (name, '\x7d' :: rest') ∧ Enclosed rest rest'
  | 0, fuel', read, hle, t, t', name, rest, h, hread => by
    cases hread
    obtain ⟨u', rfl, hu⟩ := h.cons
    cases fuel' with
    | zero => exact ⟨u', rfl, hu⟩
    | succ fuel' => exact ⟨u', rfl, hu⟩
  | fuel + 1, fuel' + 1, read, hle, [], t', name, rest, h, hread => by cases hread
  | fuel + 1, fuel' + 1, read, hle, c :: t, t', name, rest, h, hread => by
    obtain ⟨u', rfl, hu⟩ := h.cons
    rw [readEdgeName] at hread ⊢
    split at hread
    · next hc =>
      rw [if_pos hc]
      exact readEdgeName_agree flags fuel fuel' _ (Nat.le_of_succ_le_succ hle) (hu.gap flags) hread
    · next hc =>
      rw [if_neg hc]
      cases hread
      exact ⟨u', rfl, hu⟩

theorem readWordEdge_agree (flags : Flags) : Agree (readWordEdge flags) (readWordEdge flags) := by
  intro t t' h a rest hread
  obtain ⟨u, u', rfl, rfl, hu⟩ | ⟨hplain, hplain'⟩ := h.starts '\x7b'
  · have hgap := hu.gap flags
    rw [readWordEdge] at hread ⊢
    generalize gap flags u = v at hread hgap
    generalize gap flags u' = v' at hgap ⊢
    cases v with
    | nil => cases hread
    | cons c v =>
      obtain ⟨v', rfl, hv⟩ := hgap.cons
      simp only [] at hread ⊢
      split at hread
      · next hc =>
        rw [if_pos hc]
        split at hread
        · next name after hname =>
          obtain ⟨after', hname', hafter⟩ := readEdgeName_agree flags _ (v'.length + 1) []
            (Nat.succ_le_succ hv.length_le) hgap hname
          obtain ⟨e, he, heq⟩ := Option.map_eq_some_iff.mp hread
          cases heq
          exact ⟨after', by simp [hname', he], hafter⟩
        · cases hread
      · next hc =>
        rw [if_neg hc]
        cases hread
        exact ⟨_, rfl, h⟩
  · simp only [readWordEdge] at hread ⊢
    cases hread
    exact ⟨t', rfl, h⟩

/-- The letters of the escapes that read on. -/
def readingLetters : List Char := ['x', 'u', 'U', 'p', 'P', 'b']

/-- An escape that reads nothing behind its letter leaves what comes behind as it is. -/
theorem readEscape_single {flags : Flags} {c : Char} (hc : c ∉ readingLetters) (rest : Text) :
    readEscape flags (c :: rest) = (readEscape flags [c]).map fun e => (e.1, rest) := by
  simp only [readingLetters, List.mem_cons, List.not_mem_nil, or_false, not_or] at hc
  simp only [readEscape]
  split <;> simp_all [Option.map_map, Function.comp_def]

/-- An escape either reads a code, a property or the edge of a word, or is its letter alone. -/
theorem readEscape_agree (flags : Flags) : Agree (readEscape flags) (readEscape flags) := by
  intro t t' h a rest hread
  cases t with
  | nil => cases hread
  | cons c u =>
    obtain ⟨u', rfl, hu⟩ := h.cons
    by_cases hc : c ∈ readingLetters
    · simp only [readingLetters, List.mem_cons, List.not_mem_nil, or_false] at hc
      obtain rfl | rfl | rfl | rfl | rfl | rfl := hc
      · exact readCode_agree flags 2 hu hread
      · exact readCode_agree flags 4 hu hread
      · exact readCode_agree flags 8 hu hread
      · exact readProperty_agree flags false hu hread
      · exact readProperty_agree flags true hu hread
      · exact readWordEdge_agree flags hu hread
    · rw [readEscape_single hc] at hread ⊢
      obtain ⟨e, he, heq⟩ := Option.map_eq_some_iff.mp hread
      cases heq
      exact ⟨u', by rw [he]; rfl, hu⟩

/-! ## Bracketed sets -/

theorem forall_bne_colon {t : Text} (h : ':' ∉ t) : ∀ c ∈ t, (c != ':') = true := by
  intro c hc
  rw [bne_iff_ne]
  rintro rfl
  exact h hc

theorem beforeColon_of_notMem {t : Text} (h : ':' ∉ t) : beforeColon t = (t, []) := by
  have hall := forall_bne_colon h
  rw [beforeColon, List.span_eq_takeWhile_dropWhile, List.takeWhile_eq_self_iff.mpr hall,
    List.dropWhile_eq_nil_iff.mpr hall]

/-- A name without a colon is cut off before the first colon. -/
theorem beforeColon_append {name rest : Text} (h : ':' ∉ name) :
    beforeColon (name ++ ':' :: rest) = (name, ':' :: rest) := by
  have hall := forall_bne_colon h
  rw [beforeColon, List.span_eq_takeWhile_dropWhile, List.takeWhile_append_of_pos hall,
    List.dropWhile_append_of_pos hall]
  simp

/-- The parenthesis stays behind what is left after the name of an ASCII set. -/
theorem readAsciiName?_paren (t : Text) :
    readAsciiName? (t ++ [')']) =
      (readAsciiName? t).map fun (s, rest) => (s, rest ++ [')']) := by
  by_cases h : ':' ∈ t
  · obtain ⟨name, rest, rfl, hname⟩ := List.eq_append_cons_of_mem h
    rw [List.append_assoc, List.cons_append, readAsciiName?, readAsciiName?,
      beforeColon_append hname, beforeColon_append hname]
    match rest with
    | [] => rfl
    | c :: rest =>
      by_cases hc : c = ']'
      · subst hc
        simp [Option.map_map, Function.comp_def]
      · simp [hc]
  · rw [readAsciiName?, readAsciiName?, beforeColon_of_notMem h,
      beforeColon_of_notMem (by simpa using h)]
    rfl

theorem readAsciiSet?_plain {t : Text} (h : ∀ u, t ≠ '^' :: u) :
    readAsciiSet? (':' :: t) = (readAsciiName? t).map fun (s, rest) => (false, s, rest) := by
  rw [readAsciiSet?]
  exact h

theorem readAsciiSet?_eq_none {t : Text} (h : ∀ u, t ≠ ':' :: u) : readAsciiSet? t = none := by
  unfold readAsciiSet?
  split
  · exact absurd rfl (h _)
  · exact absurd rfl (h _)
  · rfl

/-- The parenthesis stays behind what is left after a named ASCII set. -/
theorem readAsciiSet?_paren (t : Text) :
    readAsciiSet? (t ++ [')']) =
      (readAsciiSet? t).map fun (negated, s, rest) => (negated, s, rest ++ [')']) := by
  obtain ⟨u, u', rfl, hu', -⟩ | ⟨hplain, hplain'⟩ := (Enclosed.paren t).starts ':'
  · obtain ⟨v, v', rfl, hv', -⟩ | ⟨hplain, hplain'⟩ := (Enclosed.paren u).starts '^'
    · simp [readAsciiSet?, readAsciiName?_paren, Option.map_map, Function.comp_def]
    · rw [List.cons_append, readAsciiSet?_plain hplain, readAsciiSet?_plain hplain',
        readAsciiName?_paren]
      simp [Option.map_map, Function.comp_def]
  · rw [readAsciiSet?_eq_none hplain, readAsciiSet?_eq_none hplain']
    rfl

/-- The name of an ASCII class ends with its colon and bracket, before the parenthesis. -/
theorem readAsciiSet?_enclosed {t t' rest : Text} {negated : Bool} {s : CharSet}
    (h : Enclosed t t') (hread : readAsciiSet? t = some (negated, s, rest)) :
    ∃ rest', readAsciiSet? t' = some (negated, s, rest') ∧ Enclosed rest rest' := by
  cases h with
  | paren => exact ⟨rest ++ [')'], by rw [readAsciiSet?_paren, hread]; rfl, .paren rest⟩
  | spent => cases hread

theorem readAsciiSet?_none_enclosed {t t' : Text} (h : Enclosed t t')
    (hread : readAsciiSet? t = none) : readAsciiSet? t' = none := by
  cases h with
  | paren => rw [readAsciiSet?_paren, hread]; rfl
  | spent => exact hread

/-- An item of a bracket is an escape or one character. -/
theorem readSetItem_agree (flags : Flags) : Agree (readSetItem flags) (readSetItem flags) := by
  intro t t' h a rest hread
  cases t with
  | nil => cases hread
  | cons c u =>
    obtain ⟨u', rfl, hu⟩ := h.cons
    by_cases hc : c = '\\'
    · subst hc
      simp only [readSetItem] at hread ⊢
      cases he : readEscape flags u with
      | none => simp [he] at hread
      | some found =>
        obtain ⟨e, after⟩ := found
        obtain ⟨after', he', hafter⟩ := readEscape_agree flags hu he
        simp only [he, he'] at hread ⊢
        cases e with
        | char c | byte c =>
          obtain ⟨i, hi, heq⟩ := Option.map_eq_some_iff.mp hread
          cases heq
          exact ⟨after', by simp [hi], hafter⟩
        | set s =>
          cases hread
          exact ⟨after', rfl, hafter⟩
        | check a => cases hread
    · simp only [readSetItem] at hread ⊢
      obtain ⟨i, hi, heq⟩ := Option.map_eq_some_iff.mp hread
      cases heq
      exact ⟨u', by simp [hi], hu⟩

/-- Looking ahead finds the parenthesis, or a character that blanks and comments start with,
where nothing else is left. -/
theorem peek_paren {flags : Flags} {c d : Char} {t : Text} (hparen : d ≠ ')')
    (hblank : isBlank d = false) (hcomment : d ≠ '#') :
    peek flags (c :: (t ++ [')'])) = some d ↔ peek flags (c :: t) = some d := by
  -- The first character after the head is not `d` where only blanks or a comment follow.
  have hhead {u : Text} (hu : t.dropWhile isBlank = u) (hstart : u.head? ≠ some d) :
      t.head? ≠ some d := by
    rintro heq
    obtain ⟨v, rfl⟩ := List.head?_eq_some_iff.mp heq
    rw [List.dropWhile_cons_of_neg (by simp [hblank])] at hu
    exact hstart (hu ▸ rfl)
  simp only [peek, List.drop_succ_cons, List.drop_zero]
  split
  · cases t with
    | nil => simp [hparen.symm]
    | cons e t => rfl
  · have hclose : [')'].dropWhile isBlank = [')'] := by decide
    rw [List.dropWhile_append, hclose]
    cases ht : t.dropWhile isBlank with
    | nil => simp [hhead ht (by simp), hparen.symm]
    | cons e u =>
      by_cases he : e = '#'
      · subst he
        have hcomment := hhead ht (by simpa using hcomment.symm)
        simp only [List.isEmpty_cons, Bool.false_eq_true, if_false, List.cons_append,
          List.dropWhile_append, hclose]
        cases hu : u.dropWhile isBlank with
        | nil => simp [hcomment, hparen.symm]
        | cons e v => simp
      · simp

/-- A range has a hyphen between its ends; a hyphen before `]` or another hyphen makes none. -/
theorem readSetRange_agree (flags : Flags) : Agree (readSetRange flags) (readSetRange flags) := by
  intro t t' h s rest hread
  rw [readSetRange] at hread ⊢
  split at hread
  · cases hread
  · next item after hitem =>
    obtain ⟨after', hitem', hafter⟩ := readSetItem_agree flags h hitem
    simp only [hitem']
    have hgap := hafter.gap flags
    generalize gap flags after = u at hread hgap
    generalize gap flags after' = u' at hgap ⊢
    cases u with
    | nil => cases hread
    | cons c u =>
      obtain ⟨u', rfl, hu⟩ := hgap.cons
      by_cases hc : c = '-'
      · subst hc
        simp only [] at hread ⊢
        have hpeek {d : Char} (hparen : d ≠ ')') (hblank : isBlank d = false) (hcomment : d ≠ '#') :
            (peek flags ('-' :: u') == some d) = (peek flags ('-' :: u) == some d) := by
          generalize ht : '-' :: u' = t' at hgap ⊢
          cases hgap with
          | paren => exact Bool.eq_iff_iff.mpr (by simpa using peek_paren hparen hblank hcomment)
        rw [hpeek (by decide) (by decide) (by decide), hpeek (by decide) (by decide) (by decide)]
        split at hread
        · next hend =>
          cases hread
          exact ⟨_, by rw [if_pos hend], hgap⟩
        · next hend =>
          rw [if_neg hend]
          split at hread
          · next hi after hhi =>
            obtain ⟨after', hhi', hafter⟩ := readSetItem_agree flags (hu.gap flags) hhi
            simp only [hhi']
            cases item with
            | char lo =>
              simp only [] at hread ⊢
              split at hread
              · next hle =>
                cases hread
                exact ⟨after', by rw [if_pos hle], hafter⟩
              · cases hread
            | set s => cases hread
          · cases hread
      · simp only [List.cons.injEq, hc, false_and, imp_self, implies_true] at hread ⊢
        cases hread
        exact ⟨_, rfl, hgap⟩

theorem leadingHyphens_nil {flags : Flags} {fuel : Nat} {t' : Text} (h : Enclosed [] t') :
    leadingHyphens flags fuel t' = (0, t') := by
  cases h with
  | paren => cases fuel <;> rfl
  | spent => cases fuel <;> rfl

/-- With fuel for every character, all the hyphens are read on both sides. -/
theorem leadingHyphens_enclosed (flags : Flags) : ∀ (fuel fuel' : Nat) {t t' : Text},
    Enclosed t t' → t.length ≤ fuel → t'.length ≤ fuel' →
      ∃ rest', leadingHyphens flags fuel' t' = ((leadingHyphens flags fuel t).1, rest') ∧
        Enclosed (leadingHyphens flags fuel t).2 rest' := by
  intro fuel
  induction fuel with
  | zero =>
    intro fuel' t t' h hlen hlen'
    obtain rfl := List.eq_nil_of_length_eq_zero (Nat.le_zero.mp hlen)
    exact ⟨t', leadingHyphens_nil h, h⟩
  | succ fuel ih =>
    intro fuel' t t' h hlen hlen'
    cases t with
    | nil => exact ⟨t', leadingHyphens_nil h, h⟩
    | cons c u =>
      obtain ⟨u', rfl, hu⟩ := h.cons
      obtain ⟨fuel', rfl⟩ := Nat.exists_eq_add_one_of_ne_zero (Nat.ne_zero_of_lt hlen')
      by_cases hc : c = '-'
      · subst hc
        obtain ⟨rest', hrest', hrest⟩ := ih fuel' (hu.gap flags)
          ((gap_length_le flags u).trans (Nat.le_of_succ_le_succ hlen))
          ((gap_length_le flags u').trans (Nat.le_of_succ_le_succ hlen'))
        exact ⟨rest', by rw [leadingHyphens, hrest']; rfl, hrest⟩
      · simp only [leadingHyphens, List.cons.injEq, hc, false_and, imp_self, implies_true]
        exact ⟨_, rfl, h⟩

theorem openItems_agree (flags : Flags) : Agree (openItems flags) (openItems flags) := by
  intro t t' h items rest hopen
  obtain ⟨after', hyphens', hafter⟩ := leadingHyphens_enclosed flags _ _ h (Nat.le_refl _)
    (Nat.le_refl _)
  simp only [openItems, hyphens'] at hopen ⊢
  generalize leadingHyphens flags t.length t = found at hopen hafter ⊢
  obtain ⟨hyphens, after⟩ := found
  cases after with
  | nil => cases hyphens <;> cases hopen
  | cons c after =>
    obtain ⟨after', rfl, hrest⟩ := hafter.cons
    cases hyphens with
    | zero =>
      by_cases hc : c = ']'
      · subst hc
        cases hopen
        exact ⟨_, rfl, hrest.gap flags⟩
      · simp only [List.cons.injEq, hc, false_and, imp_self, implies_true] at hopen ⊢
        cases hopen
        exact ⟨_, rfl, hafter⟩
    | succ hyphens =>
      simp only [] at hopen ⊢
      cases hopen
      exact ⟨_, rfl, hafter⟩

theorem openBracket_plain {flags : Flags} {t : Text} (h : ∀ rest, gap flags t ≠ '^' :: rest) :
    openBracket flags t =
      (openItems flags (gap flags t)).map fun (items, rest) => (false, items, rest) := by
  rw [openBracket]
  split
  · next heq => exact absurd heq (h _)
  · rfl

theorem openBracket_enclosed {flags : Flags} {negated : Bool} {t t' rest : Text} {first : Items}
    (h : Enclosed t t') (hopen : openBracket flags t = some (negated, first, rest)) :
    ∃ rest', openBracket flags t' = some (negated, first, rest') ∧ Enclosed rest rest' := by
  have hgap := h.gap flags
  obtain ⟨v, v', hv, hv', hrest⟩ | ⟨hplain, hplain'⟩ := hgap.starts '^'
  · simp only [openBracket, hv, hv'] at hopen ⊢
    obtain ⟨⟨items, after⟩, hitems, heq⟩ := Option.map_eq_some_iff.mp hopen
    obtain ⟨after', hitems', hafter⟩ := openItems_agree flags (hrest.gap flags) hitems
    cases heq
    exact ⟨after', by rw [hitems']; rfl, hafter⟩
  · rw [openBracket_plain hplain] at hopen
    rw [openBracket_plain hplain']
    obtain ⟨⟨items, after⟩, hitems, heq⟩ := Option.map_eq_some_iff.mp hopen
    obtain ⟨after', hitems', hafter⟩ := openItems_agree flags hgap hitems
    cases heq
    exact ⟨after', by rw [hitems']; rfl, hafter⟩

/-- The items of a bracket are read alike up to its end, those of brackets inside it included. -/
theorem readSetItems_agree (flags : Flags) : ∀ (fuel fuel' : Nat), fuel ≤ fuel' →
    ∀ (left : Option (SetOp × Nested)) (items : Items),
      Agree (readSetItems flags fuel left items) (readSetItems flags fuel' left items) := by
  intro fuel
  induction fuel with
  | zero =>
    intro fuel' hle left items t t' h a rest hread
    cases hread
  | succ fuel ih =>
    intro fuel' hle left items t t' h a rest hread
    obtain ⟨fuel', rfl⟩ := Nat.exists_eq_add_one_of_ne_zero (Nat.ne_zero_of_lt hle)
    replace ih := ih fuel' (Nat.le_of_succ_le_succ hle)
    have hgap := h.gap flags
    rw [readSetItems] at hread ⊢
    generalize gap flags t = u at hread hgap
    generalize gap flags t' = u' at hgap ⊢
    simp only [] at hread ⊢
    -- In turn: the end of the text, `[`, `]`, the three operators, and an item.
    split at hread
    · cases hread
    · next u =>
      obtain ⟨u', rfl, hu⟩ := hgap.cons
      simp only [] at hread ⊢
      cases hset : readAsciiSet? u with
      | some found =>
        obtain ⟨negated, named, after⟩ := found
        obtain ⟨after', hset', hafter⟩ := readAsciiSet?_enclosed hu hset
        simp only [hset, hset'] at hread ⊢
        split at hread
        · cases hread
        · next named hclose =>
          exact ih _ _ hafter hread
      | none =>
        simp only [hset, readAsciiSet?_none_enclosed hu hset] at hread ⊢
        split at hread
        · cases hread
        · next negated first after hopen =>
          obtain ⟨after', hopen', hafter⟩ := openBracket_enclosed hu hopen
          simp only [hopen']
          split at hread
          · cases hread
          · next inner after hinner =>
            obtain ⟨after', hinner', hafter⟩ := ih _ _ hafter hinner
            simp only [hinner']
            split at hread
            · cases hread
            · next inner hclose =>
              exact ih _ _ hafter hread
    · next u =>
      obtain ⟨u', rfl, hu⟩ := hgap.cons
      cases hread
      exact ⟨u', rfl, hu⟩
    · next u =>
      obtain ⟨u', rfl, hu⟩ := hgap.cons
      obtain ⟨v', rfl, hv⟩ := hu.cons
      exact ih _ _ hv hread
    · next u =>
      obtain ⟨u', rfl, hu⟩ := hgap.cons
      obtain ⟨v', rfl, hv⟩ := hu.cons
      exact ih _ _ hv hread
    · next u =>
      obtain ⟨u', rfl, hu⟩ := hgap.cons
      obtain ⟨v', rfl, hv⟩ := hu.cons
      exact ih _ _ hv hread
    · next hne hbracket hclose hinter hdiff hsym =>
      split at hread
      · cases hread
      · next item after hitem =>
        obtain ⟨after', hitem', hafter⟩ := readSetRange_agree flags hgap hitem
        -- What starts otherwise before the parenthesis starts otherwise by itself.
        split
        · exact (hne hgap.eq_nil).elim
        · obtain ⟨v, rfl, -⟩ := hgap.of_cons
          exact (hbracket v rfl).elim
        · obtain ⟨v, rfl, -⟩ := hgap.of_cons
          exact (hclose v rfl).elim
        · obtain ⟨v, rfl, hv⟩ := hgap.of_cons
          obtain ⟨w, rfl, -⟩ := hv.of_cons
          exact (hinter w rfl).elim
        · obtain ⟨v, rfl, hv⟩ := hgap.of_cons
          obtain ⟨w, rfl, -⟩ := hv.of_cons
          exact (hdiff w rfl).elim
        · obtain ⟨v, rfl, hv⟩ := hgap.of_cons
          obtain ⟨w, rfl, -⟩ := hv.of_cons
          exact (hsym w rfl).elim
        · simp only [hitem']
          exact ih _ _ hafter hread

theorem readBracket_agree (flags : Flags) : Agree (readBracket flags) (readBracket flags) := by
  intro t t' h s rest hread
  rw [readBracket] at hread ⊢
  split at hread
  · cases hread
  · next negated first after hopen =>
    obtain ⟨after', hopen', hafter⟩ := openBracket_enclosed h hopen
    simp only [hopen']
    split at hread
    · cases hread
    · next items after hitems =>
      obtain ⟨after', hitems', hafter⟩ := readSetItems_agree flags _ _
        (Nat.succ_le_succ hafter.length_le) _ _ hafter hitems
      obtain ⟨r, hr, heq⟩ := Option.map_eq_some_iff.mp hread
      cases heq
      exact ⟨after', by simp [hitems', hr], hafter⟩

/-! ## Parts, repetitions and groups -/

/-- Every part that is no group and no sign of its own ends before the parenthesis. -/
theorem readPart_agree (flags : Flags) : Agree (readPart flags) (readPart flags) := by
  intro t t' h r rest hread
  cases t with
  | nil => cases hread
  | cons c u =>
    obtain ⟨u', rfl, hu⟩ := h.cons
    simp only [readPart] at hread ⊢
    split at hread
    · cases ‹_ :: _ = []›
    · next v heq =>
      cases heq
      obtain ⟨s, hs, heq⟩ := Option.map_eq_some_iff.mp hread
      obtain ⟨after', hs', hafter⟩ := readBracket_agree flags hu hs
      cases heq
      exact ⟨after', by simp [hs'], hafter⟩
    · next v heq =>
      cases heq
      obtain ⟨s, hs, heq⟩ := Option.map_eq_some_iff.mp hread
      cases heq
      exact ⟨u', by simp [hs], hu⟩
    · next v heq =>
      cases heq
      cases hread
      exact ⟨u', rfl, hu⟩
    · next v heq =>
      cases heq
      cases hread
      exact ⟨u', rfl, hu⟩
    · next v heq =>
      cases heq
      split at hread
      · cases hread
      · next e after he =>
        obtain ⟨after', he', hafter⟩ := readEscape_agree flags hu he
        obtain ⟨r, hr, heq⟩ := Option.map_eq_some_iff.mp hread
        cases heq
        exact ⟨after', by simp [he', hr], hafter⟩
    · next heq =>
      cases heq
      cases hread
      exact ⟨u', by simp_all, hu⟩

theorem Enclosed.dropBlanks {t t' : Text} (h : Enclosed t t') :
    Enclosed (t.dropWhile isBlank) (t'.dropWhile isBlank) := by
  cases h with
  | paren =>
    have hclose : [')'].dropWhile isBlank = [')'] := by decide
    rw [List.dropWhile_append, hclose]
    split
    · next hempty =>
      rw [List.isEmpty_iff.mp hempty]
      exact .paren []
    · exact .paren _
  | spent => exact .spent

theorem readDigits_nil {flags : Flags} {fuel : Nat} {read t' : Text} (h : Enclosed [] t') :
    readDigits flags fuel read t' = (read.reverse, t') := by
  cases h with
  | paren => cases fuel <;> rfl
  | spent => cases fuel <;> rfl

/-- With fuel for every character, all the digits are read on both sides. -/
theorem readDigits_enclosed (flags : Flags) : ∀ (fuel fuel' : Nat) (read : Text) {t t' : Text},
    Enclosed t t' → t.length ≤ fuel → t'.length ≤ fuel' →
      ∃ rest', readDigits flags fuel' read t' = ((readDigits flags fuel read t).1, rest') ∧
        Enclosed (readDigits flags fuel read t).2 rest' := by
  intro fuel
  induction fuel with
  | zero =>
    intro fuel' read t t' h hlen hlen'
    obtain rfl := List.eq_nil_of_length_eq_zero (Nat.le_zero.mp hlen)
    exact ⟨t', readDigits_nil h, h⟩
  | succ fuel ih =>
    intro fuel' read t t' h hlen hlen'
    cases t with
    | nil => exact ⟨t', readDigits_nil h, h⟩
    | cons c u =>
      obtain ⟨u', rfl, hu⟩ := h.cons
      obtain ⟨fuel', rfl⟩ := Nat.exists_eq_add_one_of_ne_zero (Nat.ne_zero_of_lt hlen')
      rw [readDigits, readDigits]
      split
      · exact ih fuel' (c :: read) (hu.gap flags)
          ((gap_length_le flags u).trans (Nat.le_of_succ_le_succ hlen))
          ((gap_length_le flags u').trans (Nat.le_of_succ_le_succ hlen'))
      · exact ⟨_, rfl, h⟩

theorem readBound_agree (flags : Flags) : Agree (readBound flags) (readBound flags) := by
  intro t t' h n rest hread
  obtain ⟨after', hdigits', hafter⟩ := readDigits_enclosed flags _ _ [] h.dropBlanks
    (Nat.le_succ _) (Nat.le_succ _)
  simp only [readBound, hdigits'] at hread ⊢
  generalize readDigits flags ((t.dropWhile isBlank).length + 1) [] (t.dropWhile isBlank) = found
    at hread hafter ⊢
  obtain ⟨digits, after⟩ := found
  cases digits with
  | nil => cases hread
  | cons d digits =>
    simp only [] at hread ⊢
    split at hread
    · next hle =>
      cases hread
      exact ⟨_, by rw [if_pos hle], hafter.dropBlanks.gap flags⟩
    · cases hread

/-- The bounds of a repetition end with their brace. -/
theorem readBounds_enclosed {flags : Flags} {t t' rest : Text} {min : Nat} {max : Option Nat}
    (h : Enclosed t t') (hread : readBounds flags t = some (min, max, rest)) :
    ∃ rest', readBounds flags t' = some (min, max, rest') ∧ Enclosed rest rest' := by
  rw [readBounds] at hread ⊢
  split at hread
  · cases hread
  · next low after hlow =>
    obtain ⟨after', hlow', hafter⟩ := readBound_agree flags (h.gap flags) hlow
    obtain ⟨u', rfl, hu⟩ := hafter.cons
    cases hread
    exact ⟨u', by simp only [hlow'], hu⟩
  · next low u hlow =>
    obtain ⟨after', hlow', hafter⟩ := readBound_agree flags (h.gap flags) hlow
    obtain ⟨u', rfl, hu⟩ := hafter.cons
    simp only [hlow']
    have hgap := hu.gap flags
    obtain ⟨v, v', hv, hv', hrest⟩ | ⟨hplain, hplain'⟩ :=
      hgap.starts '\x7d'
    · simp only [hv, hv'] at hread ⊢
      cases hread
      exact ⟨v', rfl, hrest⟩
    · simp only [] at hread ⊢
      split at hread
      · next high after hhigh =>
        obtain ⟨after', hhigh', hafter⟩ := readBound_agree flags hgap hhigh
        obtain ⟨w, rfl, hw⟩ := hafter.cons
        simp only [hhigh']
        split at hread
        · next hle =>
          cases hread
          exact ⟨w, by rw [if_pos hle], hw⟩
        · cases hread
      · cases hread
  · cases hread

theorem readLazy_enclosed {t t' : Text} (h : Enclosed t t') :
    ∃ rest', readLazy t' = ((readLazy t).1, rest') ∧ Enclosed (readLazy t).2 rest' := by
  obtain ⟨u, u', rfl, rfl, hu⟩ | ⟨hplain, hplain'⟩ := h.starts '?'
  · exact ⟨u', rfl, hu⟩
  · simp only [readLazy]
    exact ⟨t', rfl, h⟩

theorem readFlags_agree (flags : Flags) (seen : List Char) :
    Agree (readFlags flags seen) (readFlags flags seen) := by
  intro t
  induction t generalizing flags seen with
  | nil =>
    intro t' h inner rest hread
    cases hread
  | cons c u ih =>
    intro t' h inner rest hread
    obtain ⟨u', rfl, hu⟩ := h.cons
    rw [readFlags] at hread ⊢
    split at hread
    · next hend =>
      rw [if_pos hend]
      split at hread
      · cases hread
      · next hseen =>
        rw [if_neg hseen]
        cases hread
        exact ⟨_, rfl, h⟩
    · next hend =>
      rw [if_neg hend]
      split at hread
      · cases hread
      · next hseen =>
        rw [if_neg hseen]
        split at hread
        · next hhyphen =>
          rw [if_pos hhyphen]
          exact ih _ _ hu hread
        · next hhyphen =>
          rw [if_neg hhyphen]
          split at hread
          · cases hread
          · exact ih _ _ hu hread

theorem readName_agree (read : Text) : Agree (readName read) (readName read) := by
  intro t
  induction t generalizing read with
  | nil =>
    intro t' h name rest hread
    cases hread
  | cons c u ih =>
    intro t' h name rest hread
    obtain ⟨u', rfl, hu⟩ := h.cons
    rw [readName] at hread ⊢
    split at hread
    · next hend =>
      rw [if_pos hend]
      split at hread
      · cases hread
      · next hempty =>
        rw [if_neg hempty]
        cases hread
        exact ⟨u', rfl, hu⟩
    · next hend =>
      rw [if_neg hend]
      split at hread
      · next hchar =>
        rw [if_pos hchar]
        exact ih _ hu hread
      · cases hread

/-- The opening of a group ends with its name or its flags. -/
theorem readOpening_agree (flags : Flags) : Agree (readOpening flags) (readOpening flags) := by
  intro t t' h opening rest hread
  have hgap := h.gap flags
  rw [readOpening] at hread ⊢
  generalize gap flags t = u at hread hgap
  generalize gap flags t' = u' at hgap ⊢
  split at hread
  · next u =>
    obtain ⟨v, rfl, hv⟩ := hgap.cons
    obtain ⟨w, rfl, hw⟩ := hv.cons
    obtain ⟨x, rfl, hx⟩ := hw.cons
    obtain ⟨⟨name, after⟩, hname, heq⟩ := Option.map_eq_some_iff.mp hread
    obtain ⟨after', hname', hafter⟩ := readName_agree [] hx hname
    cases heq
    exact ⟨after', by simp [hname'], hafter⟩
  · cases hread
  · cases hread
  · next u hahead hbehind =>
    obtain ⟨v, rfl, hv⟩ := hgap.cons
    obtain ⟨w, rfl, hw⟩ := hv.cons
    obtain ⟨⟨name, after⟩, hname, heq⟩ := Option.map_eq_some_iff.mp hread
    obtain ⟨after', hname', hafter⟩ := readName_agree [] hw hname
    cases heq
    have hahead' : ∀ rest, w ≠ '=' :: rest := by
      rintro x rfl
      obtain ⟨y, rfl, -⟩ := hw.of_cons
      exact hahead y rfl
    have hbehind' : ∀ rest, w ≠ '!' :: rest := by
      rintro x rfl
      obtain ⟨y, rfl, -⟩ := hw.of_cons
      exact hbehind y rfl
    simp only [hname']
    exact ⟨after', rfl, hafter⟩
  · next u hnamed hahead hbehind hplain =>
    obtain ⟨v, rfl, hv⟩ := hgap.cons
    have hnamed' : ∀ rest, v ≠ 'P' :: '<' :: rest := by
      rintro x rfl
      obtain ⟨y, rfl, hy⟩ := hv.of_cons
      obtain ⟨z, rfl, -⟩ := hy.of_cons
      exact hnamed z rfl
    have hplain' : ∀ rest, v ≠ '<' :: rest := by
      rintro x rfl
      obtain ⟨y, rfl, -⟩ := hv.of_cons
      exact hplain y rfl
    have hahead' : ∀ rest, v ≠ '<' :: '=' :: rest := fun _ => hplain' _
    have hbehind' : ∀ rest, v ≠ '<' :: '!' :: rest := fun _ => hplain' _
    simp only [] at hread ⊢
    split at hread
    · next inner after hinner =>
      obtain ⟨after', hinner', hafter⟩ := readFlags_agree flags [] hv hinner
      obtain ⟨w, rfl, hw⟩ := hafter.cons
      cases hread
      exact ⟨w, by simp only [hinner'], hw⟩
    · next inner after hinner =>
      obtain ⟨after', hinner', hafter⟩ := readFlags_agree flags [] hv hinner
      obtain ⟨w, rfl, hw⟩ := hafter.cons
      simp only [hinner']
      split at hread
      · cases hread
      · next hhead =>
        cases hread
        cases u with
        | nil => cases hinner
        | cons c u =>
          obtain ⟨v, rfl, -⟩ := hv.cons
          exact ⟨w, if_neg hhead, hw⟩
    · cases hread
  · next hnamed hahead hbehind hplain hflags =>
    cases hread
    obtain ⟨u, u', rfl, rfl, hu⟩ | ⟨-, hplain'⟩ := hgap.starts '?'
    · exact (hflags u rfl).elim
    · split
      · exact absurd rfl (hplain' _)
      · exact absurd rfl (hplain' _)
      · exact absurd rfl (hplain' _)
      · exact absurd rfl (hplain' _)
      · exact absurd rfl (hplain' _)
      · exact ⟨_, rfl, hgap⟩

/-! ## Expressions -/

/-- With these amounts of fuel, the level that a text by itself ends is the one that the
parenthesis ends. -/
def LevelsAgree (fuel fuel' : Nat) : Prop :=
  ∀ (level : Level) ⦃t t' : Text⦄ {flags : Flags} {groups : Nat} {names : List Text} {r : Regex}
    {st : Reading}, Enclosed t t' →
      readLevel fuel level ⟨t, flags, groups, names⟩ = some (r, st) →
        ∃ rest', readLevel fuel' level ⟨t', flags, groups, names⟩ =
          some (r, { st with rest := rest' }) ∧ Enclosed st.rest rest'

/-- The body of a group, up to the parenthesis that closes it. -/
theorem LevelsAgree.body {fuel fuel' groups groups' : Nat} (h : LevelsAgree fuel fuel')
    {t t' after : Text} {inner flags : Flags} {names names' : List Text} {body : Regex}
    (ht : Enclosed t t')
    (hbody : readLevel fuel ⟨[], []⟩ ⟨t, inner, groups, names⟩ =
      some (body, ⟨')' :: after, flags, groups', names'⟩)) :
    ∃ after', readLevel fuel' ⟨[], []⟩ ⟨t', inner, groups, names⟩ =
      some (body, ⟨')' :: after', flags, groups', names'⟩) ∧ Enclosed after after' := by
  obtain ⟨rest', hbody', hrest⟩ := h ⟨[], []⟩ ht hbody
  obtain ⟨after', rfl, hafter⟩ := hrest.cons
  exact ⟨after', hbody', hafter⟩

/-- A level whose last part is repeated, after the sign or the bounds of the repetition. -/
theorem LevelsAgree.repeated {fuel fuel' groups : Nat} (h : LevelsAgree fuel fuel') {t t' : Text}
    {level level' : Level} {min : Nat} {max : Option Nat} {flags : Flags} {names : List Text}
    {r : Regex} {st : Reading} (ht : Enclosed t t')
    (hlevel : level.repeatLast? (repetition min max ((readLazy t).1 == flags.swapGreed)) =
      some level')
    (hlast : readLevel fuel level' ⟨(readLazy t).2, flags, groups, names⟩ = some (r, st)) :
    level.repeatLast? (repetition min max ((readLazy t').1 == flags.swapGreed)) = some level' ∧
      ∃ rest', readLevel fuel' level' ⟨(readLazy t').2, flags, groups, names⟩ =
        some (r, { st with rest := rest' }) ∧ Enclosed st.rest rest' := by
  obtain ⟨after', hlazy', hafter⟩ := readLazy_enclosed ht
  rw [hlazy']
  exact ⟨hlevel, h level' hafter hlast⟩

/-- A level is read alike by itself and before the parenthesis, by induction on the fuel: a part
or a sign is read alike, and a group is a level of its own. -/
theorem readLevel_enclosed : ∀ fuel fuel' : Nat, fuel ≤ fuel' → LevelsAgree fuel fuel' := by
  intro fuel
  induction fuel with
  | zero =>
    intro fuel' hle level t t' flags groups names r st h hread
    cases hread
  | succ fuel ih =>
    intro fuel' hle level t t' flags groups names r st h hread
    obtain ⟨fuel', rfl⟩ := Nat.exists_eq_add_one_of_ne_zero (Nat.ne_zero_of_lt hle)
    replace ih := ih fuel' (Nat.le_of_succ_le_succ hle)
    have hgap := h.gap flags
    rw [readLevel] at hread ⊢
    simp only [] at hread ⊢
    generalize gap flags t = u at hread hgap
    generalize gap flags t' = u' at hgap ⊢
    -- In turn: the end of the text, `)`, `|`, `(`, three signs of repetition, bounds, and a part.
    split at hread
    · cases hread
      cases hgap with
      | paren => exact ⟨[')'], rfl, .paren []⟩
      | spent => exact ⟨[], rfl, .spent⟩
    · obtain ⟨u', rfl, hu⟩ := hgap.cons
      cases hread
      exact ⟨_, rfl, hgap⟩
    · obtain ⟨u', rfl, hu⟩ := hgap.cons
      exact ih _ hu hread
    · next u =>
      obtain ⟨u', rfl, hu⟩ := hgap.cons
      simp only []
      split at hread
      · cases hread
      · next inner after hopen =>
        obtain ⟨after', hopen', hafter⟩ := readOpening_agree flags hu hopen
        simp only [hopen']
        exact ih _ hafter hread
      · next inner after hopen =>
        obtain ⟨after', hopen', hafter⟩ := readOpening_agree flags hu hopen
        simp only [hopen']
        split at hread
        · next hbody =>
          obtain ⟨after', hbody', hafter⟩ := ih.body hafter hbody
          simp only [hbody']
          exact ih _ hafter hread
        · cases hread
      · next after hopen =>
        obtain ⟨after', hopen', hafter⟩ := readOpening_agree flags hu hopen
        simp only [hopen']
        split at hread
        · next hbody =>
          obtain ⟨after', hbody', hafter⟩ := ih.body hafter hbody
          simp only [hbody']
          exact ih _ hafter hread
        · cases hread
      · next name after hopen =>
        obtain ⟨after', hopen', hafter⟩ := readOpening_agree flags hu hopen
        simp only [hopen']
        split at hread
        · cases hread
        · next hname =>
          rw [if_neg hname]
          split at hread
          · next hbody =>
            obtain ⟨after', hbody', hafter⟩ := ih.body hafter hbody
            simp only [hbody']
            exact ih _ hafter hread
          · cases hread
    · obtain ⟨u', rfl, hu⟩ := hgap.cons
      split at hread
      · cases hread
      · next level' hlevel =>
        obtain ⟨hlevel', hlast'⟩ := ih.repeated hu hlevel hread
        simpa only [hlevel'] using hlast'
    · obtain ⟨u', rfl, hu⟩ := hgap.cons
      split at hread
      · cases hread
      · next level' hlevel =>
        obtain ⟨hlevel', hlast'⟩ := ih.repeated hu hlevel hread
        simpa only [hlevel'] using hlast'
    · obtain ⟨u', rfl, hu⟩ := hgap.cons
      split at hread
      · cases hread
      · next level' hlevel =>
        obtain ⟨hlevel', hlast'⟩ := ih.repeated hu hlevel hread
        simpa only [hlevel'] using hlast'
    · next u =>
      obtain ⟨u', rfl, hu⟩ := hgap.cons
      simp only []
      split at hread
      · cases hread
      · next min max after hbounds =>
        obtain ⟨after', hbounds', hafter⟩ := readBounds_enclosed hu hbounds
        split at hread
        · cases hread
        · next level' hlevel =>
          obtain ⟨hlevel', hlast'⟩ := ih.repeated (hafter.gap flags) hlevel hread
          simpa only [hbounds', hlevel'] using hlast'
    · next hne hclose hbar hopen hopt hstar hplus hbrace =>
      split at hread
      · cases hread
      · next part after hpart =>
        obtain ⟨after', hpart', hafter⟩ := readPart_agree flags hgap hpart
        -- The enclosed text starts with the same character, which opens no other construct.
        cases u with
        | nil => exact (hne rfl).elim
        | cons c u =>
          obtain ⟨u', rfl, hu⟩ := hgap.cons
          split
          · cases ‹_ :: _ = []›
          · next heq => cases heq; exact (hclose _ rfl).elim
          · next heq => cases heq; exact (hbar _ rfl).elim
          · next heq => cases heq; exact (hopen _ rfl).elim
          · next heq => cases heq; exact (hopt _ rfl).elim
          · next heq => cases heq; exact (hstar _ rfl).elim
          · next heq => cases heq; exact (hplus _ rfl).elim
          · next heq => cases heq; exact (hbrace _ rfl).elim
          · simp only [hpart']
            exact ih _ hafter hread

end Highlighter.Regex
