import Highlighter.Regex.Compiler
import Highlighter.Proofs.Regex.WrittenOrder

/-!
# Reading a regular expression part by part

`Regex.readLevel` reads a text from left to right and spends fuel on the way.  Here
it is taken apart.  `Reads b k k' t f` says that reading `t`, with letter case
ignored or not as `b` says, turns a level into `f` of it and the number of groups
from `k` to `k'`, whatever text comes after and with fuel to spare.  `ReadsPart` is
the case of one part of a sequence.  The fuel is bounded by the length of the text,
so readings compose by `Reads.append`, and `Reads.group` and `Reads.scope` close a
level.

* A quoted text reads as the characters it stands for (`reads_quote`).
* A list of words reads as the choice between the arranged words (`readsPart_words`).
* `read?_tiedText_of_reads` ends a reading: it gives the regular expression of the
  pattern of a rule.
-/

namespace Highlighter.Regex

/-! ## One step of a reading -/

section Steps

variable {b : Bool} {fuel groups groups' : Nat} {level : Level} {names : List Text}
variable {r : Regex} {t rest : Text}

/-- What may come after a part that could still be extended: neither a sign of a lazy
repetition nor the brace of a named word edge. -/
def Settled (t : Text) : Prop := t.head? ≠ some '?' ∧ t.head? ≠ some '\x7b'

/-- The characters at which a part does not start. -/
def levelChars : List Char := [')', '|', '(', '?', '*', '+', '\x7b']

/-- A part is added to its level. -/
theorem readLevel_part {c : Char} (hc : c ∉ levelChars)
    (h : readPart (ruleFlags b) (c :: t) = some (r, rest)) :
    readLevel (fuel + 1) level ⟨c :: t, ruleFlags b, groups, names⟩ =
      readLevel fuel (level.add r) ⟨rest, ruleFlags b, groups, names⟩ := by
  simp only [levelChars, List.mem_cons, List.not_mem_nil, or_false, not_or] at hc
  rw [readLevel]
  simp only [gap, ruleFlags, Bool.false_eq_true, if_false]
  split <;> simp_all [ruleFlags]

/-- The level after a `|`. -/
def Level.bar (level : Level) : Level := ⟨[], level.current :: level.before⟩

/-- A bar ends the branch and starts the next one. -/
theorem readLevel_bar :
    readLevel (fuel + 1) level ⟨'|' :: rest, ruleFlags b, groups, names⟩ =
      readLevel fuel level.bar ⟨rest, ruleFlags b, groups, names⟩ := rfl

theorem readLevel_close :
    readLevel (fuel + 1) level ⟨')' :: rest, ruleFlags b, groups, names⟩ =
      some (level.close, ⟨')' :: rest, ruleFlags b, groups, names⟩) := rfl

theorem readLevel_nil :
    readLevel (fuel + 1) level ⟨[], ruleFlags b, groups, names⟩ =
      some (level.close, ⟨[], ruleFlags b, groups, names⟩) := rfl

/-- Where no `?` comes next, a repetition is greedy. -/
theorem readLazy_of_settled (h : Settled rest) : readLazy rest = (false, rest) := by
  obtain ⟨hlazy, -⟩ := h
  unfold readLazy
  split
  · simp at hlazy
  · rfl

/-- The signs of repetition that have one character, and their bounds. -/
def repeatSigns : List (Char × Nat × Option Nat) :=
  [('?', 0, some 1), ('*', 0, none), ('+', 1, none)]

/-- A sign of repetition repeats the part added last. -/
theorem readLevel_repeat {sign : Char} {min : Nat} {max : Option Nat}
    (hsign : (sign, min, max) ∈ repeatSigns) (h : Settled rest) :
    readLevel (fuel + 1) (level.add r) ⟨sign :: rest, ruleFlags b, groups, names⟩ =
      readLevel fuel (level.add (repetition min max true r))
        ⟨rest, ruleFlags b, groups, names⟩ := by
  simp only [repeatSigns, List.mem_cons, List.not_mem_nil, or_false, Prod.mk.injEq] at hsign
  rcases hsign with ⟨rfl, rfl, rfl⟩ | ⟨rfl, rfl, rfl⟩ | ⟨rfl, rfl, rfl⟩ <;>
    rw [readLevel] <;> simp only [gap, ruleFlags, Bool.false_eq_true, if_false,
      readLazy_of_settled h] <;> rfl

/-- A group is a level of its own, ended by its parenthesis and numbered where it opens. -/
theorem readLevel_group (h : t.head? ≠ some '?')
    (hbody : readLevel fuel ⟨[], []⟩ ⟨t, ruleFlags b, groups + 1, names⟩ =
      some (r, ⟨')' :: rest, ruleFlags b, groups', names⟩)) :
    readLevel (fuel + 1) level ⟨'(' :: t, ruleFlags b, groups, names⟩ =
      readLevel fuel (level.add (.group (groups + 1) r))
        ⟨rest, ruleFlags b, groups', names⟩ := by
  have hopen : readOpening (ruleFlags b) t = some (.capture, t) := by
    unfold readOpening
    simp only [gap, ruleFlags, Bool.false_eq_true, if_false]
    split <;> simp_all
  rw [readLevel]
  simp only [gap, ruleFlags, Bool.false_eq_true, if_false] at hopen ⊢
  simp only [hopen, Option.getD_some]
  rw [ruleFlags] at hbody
  simp only [hbody]

/-- A group without a number is a level of its own, too. -/
theorem readLevel_scope
    (hbody : readLevel fuel ⟨[], []⟩ ⟨t, ruleFlags b, groups, names⟩ =
      some (r, ⟨')' :: rest, ruleFlags b, groups', names⟩)) :
    readLevel (fuel + 1) level ⟨'(' :: '?' :: ':' :: t, ruleFlags b, groups, names⟩ =
      readLevel fuel (level.add (.scope r)) ⟨rest, ruleFlags b, groups', names⟩ := by
  have hopen : readOpening (ruleFlags b) ('?' :: ':' :: t) = some (.scope (ruleFlags b), t) := rfl
  rw [readLevel]
  simp only [gap, ruleFlags, Bool.false_eq_true, if_false] at hopen ⊢
  simp only [hopen, Option.getD_none]
  rw [ruleFlags] at hbody
  simp only [hbody]

end Steps

/-! ## Readings -/

/-- Reading `t` changes a level by `f` and the number of groups from `k` to `k'`. -/
def Reads (b : Bool) (k k' : Nat) (t : Text) (f : Level → Level) : Prop :=
  ∃ steps ≤ t.length, ∀ fuel, t.length < fuel + steps → ∀ level rest names, Settled rest →
    readLevel (fuel + steps) level ⟨t ++ rest, ruleFlags b, k, names⟩ =
      readLevel fuel (f level) ⟨rest, ruleFlags b, k', names⟩

/-- Reading `t` adds the part `r` to a level, whatever comes after. -/
def ReadsPart (b : Bool) (k k' : Nat) (t : Text) (r : Regex) : Prop :=
  ∃ steps ≤ t.length, ∀ fuel, t.length < fuel + steps → ∀ level rest names,
    readLevel (fuel + steps) level ⟨t ++ rest, ruleFlags b, k, names⟩ =
      readLevel fuel (level.add r) ⟨rest, ruleFlags b, k', names⟩

section Readings

variable {b : Bool} {k k' k'' : Nat} {t u : Text} {f f' : Level → Level} {r : Regex}

theorem ReadsPart.reads (h : ReadsPart b k k' t r) : Reads b k k' t (·.add r) := by
  obtain ⟨steps, hsteps, h⟩ := h
  exact ⟨steps, hsteps, fun fuel hfuel level rest names _ => h fuel hfuel level rest names⟩

theorem Reads.nil : Reads b k k [] id :=
  ⟨0, Nat.le_refl _, fun _ _ _ _ _ _ => rfl⟩

theorem Settled.append (ht : Settled t) (hu : Settled u) : Settled (t ++ u) := by
  cases t with
  | nil => exact hu
  | cons c t => exact ht

/-- Readings compose. -/
theorem Reads.append (ht : Reads b k k' t f) (hu : Reads b k' k'' u f') (hsettled : Settled u) :
    Reads b k k'' (t ++ u) (f' ∘ f) := by
  obtain ⟨m, hm, ht⟩ := ht
  obtain ⟨n, hn, hu⟩ := hu
  refine ⟨n + m, by rw [List.length_append]; omega, ?_⟩
  intro fuel hfuel level rest names hrest
  rw [List.length_append] at hfuel
  rw [← Nat.add_assoc, List.append_assoc,
    ht (fuel + n) (by omega) level (u ++ rest) names (hsettled.append hrest),
    hu fuel (by omega) (f level) rest names hrest]
  rfl

/-- A part and a sign of repetition. -/
theorem ReadsPart.repeats (h : ReadsPart b k k' t r) {sign : Char} {min : Nat} {max : Option Nat}
    (hsign : (sign, min, max) ∈ repeatSigns) :
    Reads b k k' (t ++ [sign]) (·.add (repetition min max true r)) := by
  obtain ⟨n, hn, h⟩ := h
  refine ⟨1 + n, by rw [List.length_append, List.length_singleton]; omega, ?_⟩
  intro fuel hfuel level rest names hrest
  rw [List.length_append, List.length_singleton] at hfuel
  rw [← Nat.add_assoc, List.append_assoc,
    h (fuel + 1) (by omega) level ([sign] ++ rest) names]
  exact readLevel_repeat hsign hrest

theorem Reads.bar : Reads b k k ['|'] Level.bar :=
  ⟨1, Nat.le_refl _, fun _ _ _ _ _ _ => readLevel_bar⟩

/-- What a whole level inside parentheses reads as. -/
theorem Reads.readLevel_eq_some (h : Reads b k k' t f) {fuel : Nat} (hfuel : t.length < fuel)
    (rest : Text) (names : List Text) :
    readLevel fuel ⟨[], []⟩ ⟨t ++ ')' :: rest, ruleFlags b, k, names⟩ =
      some ((f ⟨[], []⟩).close, ⟨')' :: rest, ruleFlags b, k', names⟩) := by
  obtain ⟨n, hn, h⟩ := h
  obtain ⟨m, rfl⟩ : ∃ m, fuel = m + 1 + n := ⟨fuel - n - 1, by omega⟩
  rw [h (m + 1) (by omega) ⟨[], []⟩ (')' :: rest) names ⟨by simp, by simp⟩]
  exact readLevel_close

/-- A captured group. -/
theorem Reads.group (h : Reads b (k + 1) k' t f) (ht : t.head? ≠ some '?') :
    ReadsPart b k k' ('(' :: t ++ [')']) (.group (k + 1) (f ⟨[], []⟩).close) := by
  refine ⟨1, by simp, ?_⟩
  intro fuel hfuel level rest names
  simp only [List.length_append, List.length_cons, List.length_nil] at hfuel
  rw [List.append_assoc, List.cons_append]
  refine readLevel_group ?_ (h.readLevel_eq_some (by omega) rest names)
  cases t with
  | nil => simp
  | cons c t => exact ht

/-- A group that is not captured. -/
theorem Reads.scope (h : Reads b k k' t f) :
    ReadsPart b k k' ("(?:".toList ++ t ++ [')']) (.scope (f ⟨[], []⟩).close) := by
  refine ⟨1, by simp, ?_⟩
  intro fuel hfuel level rest names
  simp only [List.length_append, String.reduceToList, List.length_cons, List.length_nil] at hfuel
  rw [List.append_assoc, List.append_assoc]
  exact readLevel_scope (h.readLevel_eq_some (by omega) rest names)

/-- A part that `readPart` reads. -/
theorem readsPart_of_readPart {c : Char} (hc : c ∉ levelChars)
    (h : ∀ rest, readPart (ruleFlags b) (c :: (t ++ rest)) = some (r, rest)) :
    ReadsPart b k k (c :: t) r :=
  ⟨1, by simp, fun _ _ _ rest _ => readLevel_part hc (h rest)⟩

/-- A bracketed set. -/
theorem readsPart_bracket {s : Nested}
    (h : ∀ rest, readBracket (ruleFlags b) (t ++ rest) = some (s, rest)) :
    ReadsPart b k k ('[' :: t) (.bracket s.set s.depth) :=
  readsPart_of_readPart (by decide) fun rest => by simp [readPart, h]

/-- An escape. -/
theorem readsPart_escape {e : Escaped} (hr : escaped? (ruleFlags b) e = some r)
    (h : ∀ rest, readEscape (ruleFlags b) (t ++ rest) = some (e, rest)) :
    ReadsPart b k k ('\\' :: t) r :=
  readsPart_of_readPart (by decide) fun rest => by simp [readPart, h, hr]

/-- The edge of a word. -/
theorem reads_wordEdge :
    Reads b k k ['\\', 'b'] (·.add (.check (.word .either .word))) := by
  refine ⟨1, by simp, ?_⟩
  rintro fuel - level rest names ⟨-, hbrace⟩
  refine readLevel_part (by decide) ?_
  have hedge : readWordEdge (ruleFlags b) rest =
      some (.check (wordCheck (ruleFlags b) .either), rest) := by
    unfold readWordEdge
    split
    · simp at hbrace
    · rfl
  simp only [List.append_eq, List.cons_append, List.nil_append, readPart, readEscape, hedge]
  rfl

end Readings

/-! ## Words -/

section Words

variable {b : Bool} {k k' : Nat}

/-- A level with some more parts. -/
def Level.adds (level : Level) (rs : List Regex) : Level := rs.foldl Level.add level

/-- A level with some more sequences, each an alternative of its own. -/
def Level.choices : List (List Regex) → Level → Level
  | [], level => level
  | [rs], level => level.adds rs
  | rs :: more, level => choices more (level.adds rs).bar

theorem Level.adds_eq (rs : List Regex) :
    ∀ level : Level, level.adds rs = ⟨(rs.map some).reverse ++ level.parts, level.before⟩ := by
  induction rs with
  | nil => exact fun _ => rfl
  | cons r rs ih =>
    intro level
    have h : level.adds (r :: rs) = (level.add r).adds rs := rfl
    rw [h, ih]
    simp [Level.add]

theorem Level.current_adds (rs : List Regex) (before : List Regex) :
    (Level.adds ⟨[], before⟩ rs).current = sequence rs := by
  rw [Level.adds_eq, Level.current]
  simp

/-- A level of several branches is closed to their alternation. -/
theorem Level.close_choices : ∀ (rss : List (List Regex)) (before : List Regex), rss ≠ [] →
    (Level.choices rss ⟨[], before⟩).close = alternatives (before.reverse ++ rss.map sequence)
  | [], _, h => absurd rfl h
  | [rs], before, _ => by
    rw [Level.choices, Level.close, Level.current_adds, Level.adds_eq]
    rfl
  | rs :: next :: more, before, _ => by
    have h : (Level.adds ⟨[], before⟩ rs).before = before := by rw [Level.adds_eq]
    rw [Level.choices, Level.bar, Level.current_adds, h,
      close_choices (next :: more) _ (List.cons_ne_nil _ _)]
    · simp
    · simp

/-- A quoted character reads as the character, whatever comes after. -/
theorem readsPart_quote_singleton (c : Char) :
    ReadsPart b k k (quote [c]) (literal (ruleFlags b) c) := by
  rw [quote]
  split
  · next h =>
    have hmem : c ∈ metaChars := List.contains_iff_mem.mp h
    refine readsPart_escape (e := .char c) rfl ?_
    intro rest
    simp only [metaChars, List.mem_cons, List.not_mem_nil, or_false] at hmem
    rcases hmem with rfl | rfl | rfl | rfl | rfl | rfl | rfl | rfl | rfl | rfl | rfl | rfl | rfl |
      rfl | rfl | rfl | rfl | rfl <;> rfl
  · next h =>
    have hmem : c ∉ metaChars := by simpa using h
    simp only [metaChars, List.mem_cons, List.not_mem_nil, or_false, not_or] at hmem
    refine readsPart_of_readPart (by simp [levelChars, hmem]) ?_
    intro rest
    rw [readPart] <;> simp_all [quote]

theorem quote_cons (c : Char) (t : Text) : quote (c :: t) = quote [c] ++ quote t := by
  rw [quote, quote]
  split <;> rfl

/-- A quoted text starts with neither `?` nor a brace. -/
theorem settled_quote (t : Text) : Settled (quote t) := by
  cases t with
  | nil => exact ⟨by simp [quote], by simp [quote]⟩
  | cons c t =>
    rw [quote]
    split
    · exact ⟨by simp, by simp⟩
    · next h =>
      refine ⟨?_, ?_⟩ <;> rintro heq <;> rw [List.head?_cons, Option.some.injEq] at heq <;>
        subst heq <;> exact h (by decide)

/-- A quoted text reads as its characters. -/
theorem reads_quote (t : Text) :
    Reads b k k (quote t) (·.adds (t.map (literal (ruleFlags b)))) := by
  induction t with
  | nil => exact Reads.nil
  | cons c t ih =>
    rw [quote_cons]
    exact (readsPart_quote_singleton c).reads.append ih (settled_quote t)

/-- Quoted words with bars between are read as one branch for each word. -/
theorem reads_join_quote : ∀ ws : List Text, ws ≠ [] →
    Reads b k k (Text.join ['|'] (ws.map quote))
      (Level.choices (ws.map fun w => w.map (literal (ruleFlags b))))
  | [], h => absurd rfl h
  | [w], _ => reads_quote w
  | w :: next :: more, _ => by
    have hmore := reads_join_quote (next :: more) (List.cons_ne_nil _ _)
    have hsettled : Settled (Text.join ['|'] ((next :: more).map quote)) := by
      cases more with
      | nil => exact settled_quote next
      | cons u more =>
        have h : Settled (['|'] ++ Text.join ['|'] ((u :: more).map quote)) :=
          ⟨by simp, by simp⟩
        simpa [Text.join] using (settled_quote next).append h
    have h : Reads b k k (quote w ++ ['|'] ++ Text.join ['|'] ((next :: more).map quote))
        (Level.choices ((w :: next :: more).map fun w => w.map (literal (ruleFlags b)))) :=
      ((reads_quote w).append Reads.bar ⟨by simp, by simp⟩).append hmore hsettled
    simpa [Text.join] using h

/-- A word as a regular expression. -/
def word (b : Bool) (w : Text) : Regex := sequence (w.map (literal (ruleFlags b)))

/-- A list of words reads as the choice between them in written order. -/
theorem readsPart_words {list : List Text} (h : list ≠ []) :
    ReadsPart b k k (words list) (.scope (alternatives ((arrange list).map (word b)))) := by
  have hne := arrange_ne_nil h
  have hclose := Level.close_choices ((arrange list).map fun w => w.map (literal (ruleFlags b)))
    [] (by simpa using hne)
  have hreads := (reads_join_quote (b := b) (k := k) (arrange list) hne).scope
  rw [hclose, List.map_map] at hreads
  exact hreads

end Words

/-! ## Whole patterns -/

section Whole

variable {b : Bool} {k : Nat} {t : Text} {f : Level → Level} {r : Regex}

/-- A text that is read to its end is read as what the level closes to. -/
theorem read?_of_reads (h : Reads b 0 k t f) (hr : (f ⟨[], []⟩).close = r) :
    read? (ruleFlags b) t = some r := by
  obtain ⟨n, hn, h⟩ := h
  obtain ⟨m, hm⟩ : ∃ m, t.length + 1 = m + 1 + n := ⟨t.length - n, by omega⟩
  have hread : readLevel (t.length + 1) ⟨[], []⟩ ⟨t, ruleFlags b, 0, []⟩ =
      some (r, ⟨[], ruleFlags b, k, []⟩) := by
    have := h (m + 1) (by omega) ⟨[], []⟩ [] [] ⟨by simp, by simp⟩
    rw [List.append_nil, readLevel_nil, hr] at this
    rw [hm, this]
  simp [read?, hread]

/-- Tied to the start it is read as the same expression behind the tie. -/
theorem read?_tiedText_of_reads (h : Reads b 0 k t f) (hr : (f ⟨[], []⟩).close = r) :
    read? (ruleFlags b) (tiedText t) = some (.seq (.check .textStart) (.scope r)) := by
  have hstart : ReadsPart b 0 0 "\\A".toList (.check .textStart) :=
    readsPart_escape (e := .check .textStart) rfl fun rest => rfl
  have hwhole := hstart.reads.append h.scope.reads ⟨by simp, by simp⟩
  rw [hr] at hwhole
  have htext : tiedText t = "\\A".toList ++ ("(?:".toList ++ t ++ [')']) := by
    simp [tiedText]
  rw [htext]
  exact read?_of_reads hwhole rfl

end Whole

end Highlighter.Regex
