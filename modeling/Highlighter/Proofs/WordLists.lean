import Highlighter.Proofs.Grammar.Words

/-!
# The longest word of a list

`Regex.words` writes the choice between the words of a list.  A choice prefers its first
alternative that matches, whether or not a later one reads more, so the written order
decides.  The words are in the order of their sizes, and of two words that a text starts
with the longer one is the larger one.  So the match is the longest word of the list that
the text starts with (`Regex.words_longest`).

This holds for any words.  Characters with a meaning of their own are quoted, a word that
is there twice is written once, and the empty word is written last.  The text is always
read, as the same expression, so that only the limits of a compiler can refuse a list.
-/

namespace Highlighter

/-! ## The longest beginning among some words -/

/-- A word is the longest of a list that a text starts with. -/
structure LongestPrefix (list : List Text) (t w : Text) : Prop where
  mem : w ∈ list
  starts : w <+: t
  longest : ∀ v ∈ list, v <+: t → v.length ≤ w.length

namespace LongestPrefix

variable {list : List Text} {t v w : Text}

theorem unique (hv : LongestPrefix list t v) (hw : LongestPrefix list t w) : v = w :=
  (List.prefix_of_prefix_length_le hv.starts hw.starts (hw.longest v hv.mem hv.starts)).eq_of_length
    (Nat.le_antisymm (hw.longest v hv.mem hv.starts) (hv.longest w hw.mem hw.starts))

end LongestPrefix

/-- Of two words that a text starts with, the one with no more bytes is no longer. -/
theorem Text.length_le_of_size_le {t v w : Text} (hv : v <+: t) (hw : w <+: t)
    (h : v.size ≤ w.size) : v.length ≤ w.length := by
  rcases List.prefix_or_prefix_of_prefix hv hw with hle | ⟨u, rfl⟩
  · exact hle.length_le
  · cases u with
    | nil => simp
    | cons c u =>
      have := Text.size_pos (List.cons_ne_nil c u)
      rw [Text.size_append] at h
      omega

namespace Pattern

/-! ## What a word reads -/

section Words

variable {t : Text}

/-- Where a word stands it has one match, which reads it. -/
theorem exists_run_wordThen_eq : ∀ {w : Text} {a : Place}, a.rest = w ++ t →
    ∃ b, (wordThen false w .empty).run a = [b] ∧ a.Reads w b ∧ b.captures = a.captures
  | [], a, _ => ⟨a, rfl, .refl a, rfl⟩
  | c :: w, a, h => by
    obtain ⟨b, hb, hreads, hcaptures⟩ :=
      exists_run_wordThen_eq (w := w) (a := a.advance c (w ++ t)) rfl
    refine ⟨b, ?_, (Place.Reads.advance h).trans hreads, hcaptures⟩
    rw [wordThen] at hb
    simpa [wordThen, run, h, letter, CharSet.holds] using hb

/-- Elsewhere it has none. -/
theorem run_wordThen_eq_nil : ∀ {w : Text} {a : Place}, ¬ w <+: a.rest →
    (wordThen false w .empty).run a = []
  | [], _, h => absurd List.nil_prefix h
  | c :: w, a, h => by
    have hrun : (wordThen false (c :: w) .empty).run a =
        ((Pattern.one (letter false c)).run a).flatMap (wordThen false w .empty).run := rfl
    rw [hrun, List.flatMap_eq_nil_iff]
    intro b hb
    rw [run] at hb
    split at hb
    · simp at hb
    · next d rest hrest =>
      split at hb
      · next hd =>
        obtain rfl := List.mem_singleton.mp hb
        obtain rfl : d = c := by simpa [letter, CharSet.holds] using hd
        refine run_wordThen_eq_nil fun hstarts => h ?_
        rw [hrest]
        exact (List.prefix_cons_inj d).mpr hstarts
      · simp at hb

/-- A word matches at the start of a text that starts with it, and the match is the word. -/
theorem matchAt_word_eq_some_iff {w : Text} {m : Match} :
    (word false w).matchAt (Place.start t) = some m ↔
      ∃ rest, t = w ++ rest ∧ m = ⟨0, w.size, [], rest⟩ := by
  rw [matchAt, run_word]
  by_cases h : w <+: t
  · obtain ⟨rest, rfl⟩ := h
    obtain ⟨b, hb, hreads, hcaptures⟩ :=
      @exists_run_wordThen_eq rest w (Place.start (w ++ rest)) rfl
    have hoffset : b.offset = w.size := by
      rw [hreads.offset]
      exact Nat.zero_add _
    have hrest : b.rest = rest := hreads.leaves rfl
    rw [hb, List.head?_singleton, Option.map_some, hoffset, hcaptures, hrest, Option.some_inj]
    constructor
    · rintro rfl
      exact ⟨rest, rfl, rfl⟩
    · rintro ⟨rest', hsame, rfl⟩
      rw [← List.append_cancel_left hsame]
      rfl
  · rw [run_wordThen_eq_nil h]
    refine iff_of_false (by simp) ?_
    rintro ⟨rest, rfl, -⟩
    exact h ⟨rest, rfl⟩

theorem matchAt_word_eq_none_iff {w : Text} :
    (word false w).matchAt (Place.start t) = none ↔ ¬ w <+: t := by
  rw [Option.eq_none_iff_forall_ne_some]
  constructor
  · rintro h ⟨rest, rfl⟩
    exact h _ (matchAt_word_eq_some_iff.mpr ⟨rest, rfl, rfl⟩)
  · intro h m hm
    obtain ⟨rest, rfl, -⟩ := matchAt_word_eq_some_iff.mp hm
    exact h ⟨rest, rfl⟩

end Words

/-- The match of the choice between some words is that of the first one that has a match. -/
theorem find_choice_word {ws : List Text} (hne : ws ≠ []) (t : Text) :
    (choice (ws.map (word false))).tied.find t =
      ws.findSome? fun w => (word false w).matchAt (Place.start t) := by
  rw [find_tied, matchAt, run_choice (by simpa using hne), List.flatMap_map, List.head?_flatMap,
    List.map_findSome?]
  rfl

end Pattern

namespace Regex

/-! ## The choice between the words of a list -/

variable {list : List Text}

/-- Of the arranged words the first that a text starts with is the longest. -/
theorem longestPrefix_of_arrange {before after : List Text} {t w : Text}
    (harrange : arrange list = before ++ w :: after) (hbefore : ∀ v ∈ before, ¬ v <+: t)
    (hw : w <+: t) : LongestPrefix list t w where
  mem := mem_arrange.mp (by simp [harrange])
  starts := hw
  longest v hv hvt := by
    have hmem := mem_arrange.mpr hv
    rw [harrange, List.mem_append, List.mem_cons] at hmem
    rcases hmem with hmem | rfl | hmem
    · exact absurd hvt (hbefore v hmem)
    · exact Nat.le_refl _
    · have hpairs := pairwise_arrange list
      rw [harrange] at hpairs
      have hsize := (List.pairwise_cons.mp (List.pairwise_append.mp hpairs).2.1).1 v hmem
      exact Text.length_le_of_size_le hvt hw hsize

theorem exists_longestPrefix_of_findSome? {t : Text} {m : Match}
    (h : (arrange list).findSome? (fun w => (Pattern.word false w).matchAt (Place.start t)) =
      some m) :
    ∃ w rest, LongestPrefix list t w ∧ t = w ++ rest ∧ m = ⟨0, w.size, [], rest⟩ := by
  obtain ⟨before, w, after, harrange, hw, hbefore⟩ := List.findSome?_eq_some_iff.mp h
  obtain ⟨rest, rfl, rfl⟩ := Pattern.matchAt_word_eq_some_iff.mp hw
  have hnone : ∀ v ∈ before, ¬ v <+: w ++ rest := fun v hv =>
    Pattern.matchAt_word_eq_none_iff.mp (hbefore v hv)
  exact ⟨w, rest, longestPrefix_of_arrange harrange hnone ⟨rest, rfl⟩, rfl, rfl⟩

/-- A list with a word that a text starts with has a longest one, and that is the first one that
matches. -/
theorem findSome?_arrange_ne_none {t w : Text} (hw : w ∈ list) (ht : w <+: t) :
    (arrange list).findSome? (fun w => (Pattern.word false w).matchAt (Place.start t)) ≠ none :=
  fun hnone => Pattern.matchAt_word_eq_none_iff.mp
    (List.findSome?_eq_none_iff.mp hnone w (mem_arrange.mpr hw)) ht

/-- The match among the arranged words is the longest word that the text starts with. -/
theorem findSome?_arrange_eq_some_iff {t : Text} {m : Match} :
    (arrange list).findSome? (fun w => (Pattern.word false w).matchAt (Place.start t)) = some m ↔
      ∃ w rest, LongestPrefix list t w ∧ t = w ++ rest ∧ m = ⟨0, w.size, [], rest⟩ := by
  refine ⟨exists_longestPrefix_of_findSome?, ?_⟩
  rintro ⟨w, rest, hw, rfl, rfl⟩
  obtain ⟨m, hm⟩ := Option.ne_none_iff_exists'.mp (findSome?_arrange_ne_none hw.mem hw.starts)
  obtain ⟨v, rest', hv, hrest, rfl⟩ := exists_longestPrefix_of_findSome? hm
  obtain rfl := hv.unique hw
  rw [hm, ← List.append_cancel_left hrest]

/-- The text of a list of words is read as the choice between the arranged words, tied to the
start. -/
theorem read?_tiedText_words (hne : list ≠ []) :
    read? (ruleFlags false) (tiedText (words list)) = some (.seq (.check .textStart)
      (.scope (.scope (alternatives ((arrange list).map (word false)))))) :=
  read?_tiedText_of_reads (readsPart_words hne).reads rfl

/-- The pattern of that expression is the choice between the arranged words. -/
theorem toPattern_words (ws : List Text) :
    (seq (.check .textStart) (scope (scope (alternatives (ws.map (word false)))))).toPattern =
      (Pattern.choice (ws.map (Pattern.word false))).tied := by
  simp only [toPattern, unfold, unfold_alternatives_word]
  rfl

/-- Tied to the start, and in the case the words are written in, the choice between the words of a
list is read as one expression, and this is what is compiled within any limits that let it pass.  It
matches a text that starts with one of the words, and the match is the longest of these. -/
theorem words_longest (hne : list ≠ []) :
    ∃ r : Regex,
      read? (ruleFlags false) (tiedText (words list)) = some r ∧
      (∀ (limits : Limits) (s : Regex), (Compiler.within limits).tied false (words list) = .ok s ↔
        s = r ∧ limits false (tiedText (words list)) r = none) ∧
      ∀ t : Text,
        (r.toPattern.matches t = true ↔ ∃ w ∈ list, w <+: t) ∧
        ∀ m : Match, r.toPattern.find t = some m ↔
          ∃ w rest, LongestPrefix list t w ∧ t = w ++ rest ∧ m = ⟨0, w.size, [], rest⟩ := by
  have hread := read?_tiedText_words hne
  refine ⟨_, hread, fun limits s => ?_, fun t => ?_⟩
  · rw [Compiler.tied, Compiler.within_eq_ok_iff, hread, Option.some_inj, eq_comm]
    exact and_congr_right fun h => by rw [h]
  have hfind : ∀ m : Match, (Pattern.choice ((arrange list).map (Pattern.word false))).tied.find t =
      some m ↔ ∃ w rest, LongestPrefix list t w ∧ t = w ++ rest ∧ m = ⟨0, w.size, [], rest⟩ := by
    intro m
    rw [Pattern.find_choice_word (arrange_ne_nil hne)]
    exact findSome?_arrange_eq_some_iff
  rw [toPattern_words]
  refine ⟨?_, hfind⟩
  rw [Pattern.matches, Option.isSome_iff_exists]
  constructor
  · rintro ⟨m, hm⟩
    obtain ⟨w, -, hw, -⟩ := (hfind m).mp hm
    exact ⟨w, hw.mem, hw.starts⟩
  · rintro ⟨w, hw, ht⟩
    rw [Pattern.find_choice_word (arrange_ne_nil hne)]
    exact Option.ne_none_iff_exists'.mp (findSome?_arrange_ne_none hw ht)

/-- A word and its own beginning, one word twice, the empty word, and a word with a character that
has a meaning of its own.  `axb` starts with no word but the empty one. -/
theorem words_longest_vm :
    let list := ["vm".toList, "a.b".toList, "vm-start".toList, [], "vm".toList]
    ∃ r, Compiler.standard.tied false (words list) = .ok r ∧
      r.toPattern.find "vm-stop".toList = some ⟨0, 2, [], "-stop".toList⟩ ∧
      r.toPattern.find "vm-started".toList = some ⟨0, 8, [], "ed".toList⟩ ∧
      r.toPattern.find "a.b".toList = some ⟨0, 3, [], []⟩ ∧
      r.toPattern.find "axb".toList = some ⟨0, 0, [], "axb".toList⟩ := by
  intro list
  obtain ⟨r, hread, hcompiled, hmatch⟩ := @words_longest list (by simp [list])
  have hlimits : ∀ s, read? (ruleFlags false) (tiedText (words list)) = some s →
      Limits.standard false (tiedText (words list)) s = none := by
    rw [read?_tiedText_words (by simp [list])]
    rintro s ⟨⟩
    decide
  refine ⟨r, (hcompiled .standard r).mpr ⟨rfl, hlimits r hread⟩, ?_, ?_, ?_, ?_⟩
  · exact ((hmatch _).2 _).mpr ⟨"vm".toList, _, ⟨by decide, by decide, by decide⟩, rfl, rfl⟩
  · exact ((hmatch _).2 _).mpr ⟨"vm-start".toList, _, ⟨by decide, by decide, by decide⟩, rfl, rfl⟩
  · exact ((hmatch _).2 _).mpr ⟨"a.b".toList, _, ⟨by decide, by decide, by decide⟩, rfl, rfl⟩
  · exact ((hmatch _).2 _).mpr ⟨[], _, ⟨by decide, by decide, by decide⟩, rfl, rfl⟩

end Regex

end Highlighter
