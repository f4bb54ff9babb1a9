import Highlighter.Proofs.Grammar.Parts

/-!
# What the rules at line ends match

The rules that read blanks, comments, line ends and escapes have patterns that are
simple enough to say what they match: `find_run` for a character and a run after it,
`find_newline`, `find_escape` and `find_inLine`, and `matches_lineEnd` for the
lookahead.
-/

namespace Highlighter.Pattern

/-! ## Runs -/

/-- The first end of a run is behind all characters of the set. -/
theorem head?_runEnds (s : CharSet) : ∀ (t : Text) (a : Place) (shorter : List Place),
    a.rest = t → ∃ e, (runEnds s t a shorter).head? = some e ∧
      a.Reads (t.takeWhile s.holds) e ∧ e.rest = t.dropWhile s.holds ∧ e.captures = a.captures
  | [], a, shorter, h => ⟨a, rfl, .refl a, h, rfl⟩
  | c :: t, a, shorter, h => by
    rw [runEnds]
    by_cases hc : s.holds c = true
    · obtain ⟨e, he, hreads, hrest, hcaptures⟩ :=
        head?_runEnds s t (a.advance c t) (a :: shorter) rfl
      refine ⟨e, by rw [if_pos hc]; exact he, ?_, ?_, hcaptures⟩
      · rw [List.takeWhile_cons_of_pos hc]
        exact (Place.Reads.advance h).trans hreads
      · rw [List.dropWhile_cons_of_pos hc]
        exact hrest
    · refine ⟨a, by rw [if_neg hc]; rfl, ?_, ?_, rfl⟩
      · rw [List.takeWhile_cons_of_neg hc]
        exact .refl a
      · rw [List.dropWhile_cons_of_neg hc]
        exact h

/-- A character of one set and a run of characters of another. -/
theorem find_run (s s' : CharSet) (c : Char) (t : Text) :
    (seq (one s) (many true s')).tied.find (c :: t) =
      if s.holds c then
        some ⟨0, Text.size (c :: t.takeWhile s'.holds), [], t.dropWhile s'.holds⟩
      else none := by
  rw [find_tied, matchAt]
  by_cases hc : s.holds c = true
  · obtain ⟨e, he, hreads, hrest, hcaptures⟩ :=
      head?_runEnds s' t ((Place.start (c :: t)).advance c t) [] rfl
    have hrun : ((seq (one s) (many true s')).run (Place.start (c :: t))).head? = some e := by
      simp only [run, Place.start, if_pos hc, List.flatMap_cons, List.flatMap_nil, List.append_nil]
      exact he
    have hoffset : e.offset = Text.size (c :: t.takeWhile s'.holds) := by
      rw [hreads.offset]
      simp [Place.advance, Place.start]
    rw [hrun, if_pos hc, Option.map_some, hcaptures, hrest, hoffset]
    rfl
  · simp [run, Place.start, hc]

/-- Where a character and a run are found. -/
theorem find_run_eq_some {s s' : CharSet} {t : Text} {m : Match}
    (h : (seq (one s) (many true s')).tied.find t = some m) :
    ∃ c rest, t = c :: rest ∧ s.holds c = true ∧ m.rest = rest.dropWhile s'.holds := by
  cases t with
  | nil => cases h
  | cons c rest =>
    rw [find_run] at h
    split at h
    · next hc =>
      cases h
      exact ⟨c, rest, rfl, hc, rfl⟩
    · cases h

/-! ## Line ends and escapes -/

theorem find_newline_newline (t : Text) :
    newline.tied.find ('\n' :: t) = some ⟨0, 1, [], t⟩ := rfl

theorem find_newline_return (t : Text) :
    newline.tied.find ('\r' :: '\n' :: t) = some ⟨0, 2, [], t⟩ := rfl

/-- A line end starts with a line feed or a carriage return. -/
theorem find_newline_eq_none {c : Char} {t : Text} (hn : c ≠ '\n') (hr : c ≠ '\r') :
    newline.tied.find (c :: t) = none := by
  simp [find_tied, matchAt, newline, opt, run, Place.start, CharSet.holds, hn, hr]

theorem find_escape_newline (t : Text) :
    escape.tied.find ('\\' :: '\n' :: t) = some ⟨0, 2, [], t⟩ := rfl

theorem find_escape_return (t : Text) :
    escape.tied.find ('\\' :: '\r' :: '\n' :: t) = some ⟨0, 3, [], t⟩ := rfl

/-- An escaped character is taken with its backslash, if it is no line end. -/
theorem find_escape_char {c : Char} {t : Text} (hn : c ≠ '\n')
    (hr : c = '\r' → t.head? ≠ some '\n') :
    escape.tied.find ('\\' :: c :: t) = some ⟨0, Text.size ['\\', c], [], t⟩ := by
  have hnewline : newline.run ((Place.start ('\\' :: c :: t)).advance '\\' (c :: t)) = [] := by
    by_cases hc : c = '\r'
    · cases t with
      | nil => simp [newline, opt, run, Place.start, Place.advance, CharSet.holds, hc]
      | cons d t =>
        have hd : d ≠ '\n' := by simpa using hr hc
        simp [newline, opt, run, Place.start, Place.advance, CharSet.holds, hc, hd]
    · simp [newline, opt, run, Place.start, Place.advance, CharSet.holds, hc, hn]
  have hrun : escape.run (Place.start ('\\' :: c :: t)) =
      newline.run ((Place.start ('\\' :: c :: t)).advance '\\' (c :: t)) ++
        (one .inLine).run ((Place.start ('\\' :: c :: t)).advance '\\' (c :: t)) := by
    simp [escape, run, Place.start, CharSet.holds]
  rw [find_tied, matchAt, hrun, hnewline, List.nil_append]
  simp [run, Place.start, Place.advance, CharSet.inLine, CharSet.holds, hn]

theorem find_escape_singleton : escape.tied.find ['\\'] = none := rfl

theorem find_escape_eq_none {c : Char} {t : Text} (hc : c ≠ '\\') :
    escape.tied.find (c :: t) = none := by
  simp [find_tied, matchAt, escape, run, Place.start, CharSet.holds, hc]

/-- Any character but a line feed is one of the line. -/
theorem find_inLine (c : Char) (t : Text) :
    (one .inLine).tied.find (c :: t) =
      if c = '\n' then none else some ⟨0, c.utf8Size, [], t⟩ := by
  by_cases hc : c = '\n'
  · simp [find_tied, matchAt, run, Place.start, CharSet.inLine, CharSet.holds, hc]
  · simp [find_tied, matchAt, run, Place.start, CharSet.inLine, CharSet.holds, hc, Place.advance]

/-! ## The lookahead for the end of a line -/

/-- Every end of a run is behind all characters of the set or before one of them. -/
theorem rest_of_mem_runEnds (s : CharSet) : ∀ (t : Text) (a : Place) (shorter : List Place),
    a.rest = t → ∀ e ∈ runEnds s t a shorter, e ∈ shorter ∨ e.rest = t.dropWhile s.holds ∨
      ∃ c ∈ e.rest.head?, s.holds c = true
  | [], a, shorter, h, e, he => by
    rcases List.mem_cons.mp he with rfl | he
    · exact Or.inr (Or.inl h)
    · exact Or.inl he
  | c :: t, a, shorter, h, e, he => by
    rw [runEnds] at he
    by_cases hc : s.holds c = true
    · rw [if_pos hc] at he
      rw [List.dropWhile_cons_of_pos hc]
      rcases rest_of_mem_runEnds s t _ _ rfl e he with he | he | he
      · rcases List.mem_cons.mp he with rfl | he
        · exact Or.inr (Or.inr ⟨c, by simp [h], hc⟩)
        · exact Or.inl he
      · exact Or.inr (Or.inl he)
      · exact Or.inr (Or.inr he)
    · rw [if_neg hc] at he
      rw [List.dropWhile_cons_of_neg hc]
      rcases List.mem_cons.mp he with rfl | he
      · exact Or.inr (Or.inl h)
      · exact Or.inl he

/-- The characters before which a line counts as ended, and the end of the text. -/
def endsLine (o : Option Char) : Bool := o == none || o == some '\n' || o == some '#'

/-- The lookahead for the end of a line looks at the first character after blanks. -/
theorem matches_lineEnd (t : Text) :
    lineEnd.tied.matches t = endsLine (t.dropWhile CharSet.trailingBlank.holds).head? := by
  have hend : ∀ e : Place,
      ((alt (one (.only '#')) (check .lineEnd)).run e).isEmpty = !endsLine e.rest.head? := by
    intro e
    cases hrest : e.rest with
    | nil => simp [run, hrest, endsLine, Assertion.holds]
    | cons c u =>
      by_cases hhash : c = '#'
      · simp [run, hrest, endsLine, CharSet.holds, hhash]
      · by_cases hnewline : c = '\n'
        · simp [run, hrest, endsLine, Assertion.holds, hnewline]
        · simp [run, hrest, endsLine, CharSet.holds, Assertion.holds, hhash, hnewline]
  have hblank : ∀ c, CharSet.trailingBlank.holds c = true → endsLine (some c) = false := by
    intro c hc
    by_cases hhash : c = '#'
    · subst hhash
      exact absurd hc (by decide)
    · by_cases hnewline : c = '\n'
      · subst hnewline
        exact absurd hc (by decide)
      · simp [endsLine, hhash, hnewline]
  obtain ⟨full, hfull, -, hrest, -⟩ :=
    head?_runEnds .trailingBlank t (Place.start t) [] rfl
  rw [matches_tied, ← hrest, Bool.eq_iff_iff, Bool.not_eq_true', ← Bool.not_eq_true,
    List.isEmpty_iff]
  constructor
  · intro hne
    obtain ⟨e, he⟩ := List.exists_mem_of_ne_nil _ hne
    obtain ⟨b, hb, he⟩ := List.mem_flatMap.mp he
    have hb' : endsLine b.rest.head? = true := by
      have hisEmpty := hend b
      rw [List.isEmpty_eq_false_iff.mpr (List.ne_nil_of_mem he)] at hisEmpty
      simpa using hisEmpty
    rcases rest_of_mem_runEnds .trailingBlank t (Place.start t) [] rfl b hb with h | h | h
    · simp at h
    · rw [hrest, ← h]
      exact hb'
    · obtain ⟨c, hc, hholds⟩ := h
      rw [hc, hblank c hholds] at hb'
      exact Bool.noConfusion hb'
  · intro hends hnil
    have hisEmpty := hend full
    rw [hends] at hisEmpty
    have hne := List.isEmpty_eq_false_iff.mp hisEmpty
    obtain ⟨e, he⟩ := List.exists_mem_of_ne_nil _ hne
    have hmem : e ∈ lineEnd.run (Place.start t) :=
      List.mem_flatMap.mpr ⟨full, List.mem_of_head? hfull, he⟩
    rw [hnil] at hmem
    simp at hmem

end Highlighter.Pattern
