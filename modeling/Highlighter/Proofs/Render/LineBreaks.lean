import Highlighter.Proofs.Render.Display
import Highlighter.Proofs.SubStates

/-!
# Line breaks in the colored output

No control sequence has a line end in it, so every line break of the output is one of the
text of a token (`BreakOf`).  It is bare if the category of the token has no style, and
otherwise it stands between the sequences of the style.

In the tokens of a source the line ends are among blanks, which are written bare, but for
one case: a backslash in a command and the line end it escapes are one constant, and
constants have a color.  So the sequences stay off the line breaks exactly where no line
end is escaped.
-/

namespace Highlighter

/-- A character of two texts belongs to one of them. -/
theorem Text.append_eq_append_cons {s t before after : Text} {c : Char}
    (h : s ++ t = before ++ c :: after) :
    (∃ rest, s = before ++ c :: rest ∧ after = rest ++ t) ∨
      ∃ shown, before = s ++ shown ∧ t = shown ++ c :: after := by
  rcases List.append_eq_append_iff.mp h with ⟨shown, hbefore, ht⟩ | ⟨rest, hs, hrest⟩
  · exact Or.inr ⟨shown, hbefore, ht⟩
  · cases rest with
    | nil => exact Or.inr ⟨[], by simpa using hs.symm, hrest.symm⟩
    | cons d rest =>
      obtain ⟨rfl, hafter⟩ := List.cons.inj hrest
      exact Or.inl ⟨rest, hs, hafter⟩

namespace Terminal

/-- The output has a line break of the token between two texts. -/
def BreakOf (tokens : List Token) (t : Token) (before after : Text) : Prop :=
  ∃ earlier later shown rest, tokens = earlier ++ t :: later ∧ t.text = shown ++ '\n' :: rest ∧
    before = render earlier ++ opening t.category ++ shown ∧
    after = rest ++ closing t.category ++ render later

/-- The line break between two texts is behind the sequences that set a style and before the one
that resets it. -/
def Enclosed (tokens : List Token) (before after : Text) : Prop :=
  ∃ t, BreakOf tokens t before after ∧ style? t.category ≠ none

variable {tokens : List Token} {t : Token} {before after : Text}

/-! ## Where line breaks come from -/

theorem newline_not_mem_opening (c : Category) : '\n' ∉ opening c := by
  cases c <;> decide

theorem newline_not_mem_closing (c : Category) : '\n' ∉ closing c := by
  cases c <;> decide

/-- A line break of a token as it is written is one of its text. -/
theorem exists_break_of_token (h : token t = before ++ '\n' :: after) :
    ∃ shown rest, t.text = shown ++ '\n' :: rest ∧ before = opening t.category ++ shown ∧
      after = rest ++ closing t.category := by
  rw [token_eq] at h
  rcases Text.append_eq_append_cons h with ⟨rest, hfront, hafter⟩ | ⟨shown, -, hclosing⟩
  · rcases Text.append_eq_append_cons hfront with ⟨more, hopening, -⟩ | ⟨shown, hbefore, htext⟩
    · have hmem : '\n' ∈ opening t.category := by simp [hopening]
      exact absurd hmem (newline_not_mem_opening _)
    · exact ⟨shown, rest, htext, hbefore, hafter⟩
  · have hmem : '\n' ∈ closing t.category := by simp [hclosing]
    exact absurd hmem (newline_not_mem_closing _)

theorem BreakOf.cons (h : BreakOf tokens t before after) (first : Token) :
    BreakOf (first :: tokens) t (token first ++ before) after := by
  obtain ⟨earlier, later, shown, rest, rfl, htext, rfl, hafter⟩ := h
  exact ⟨first :: earlier, later, shown, rest, rfl, htext, by simp [render], hafter⟩

/-- Every line break of the output is one of a token. -/
theorem exists_breakOf (h : render tokens = before ++ '\n' :: after) :
    ∃ t, BreakOf tokens t before after := by
  induction tokens generalizing before with
  | nil => simp [render] at h
  | cons first tokens ih =>
    rw [render, List.flatMap_cons] at h
    rcases Text.append_eq_append_cons h with ⟨rest, htoken, rfl⟩ | ⟨shown, rfl, hrest⟩
    · obtain ⟨shown, rest, htext, hbefore, rfl⟩ := exists_break_of_token htoken
      exact ⟨first, [], tokens, shown, rest, rfl, htext, hbefore, rfl⟩
    · obtain ⟨t, hbreak⟩ := ih hrest
      exact ⟨t, hbreak.cons first⟩

/-- Every line end in a token is a line break of the output. -/
theorem exists_break_of_mem (ht : t ∈ tokens) (hmem : '\n' ∈ t.text) :
    ∃ before after, render tokens = before ++ '\n' :: after ∧ BreakOf tokens t before after := by
  obtain ⟨earlier, later, rfl⟩ := List.append_of_mem ht
  obtain ⟨shown, rest, htext⟩ := List.append_of_mem hmem
  refine ⟨_, _, ?_, earlier, later, shown, rest, rfl, htext, rfl, rfl⟩
  have hlater : render (t :: later) = token t ++ render later := List.flatMap_cons
  rw [render_append, hlater, token_eq, htext]
  simp

theorem BreakOf.mem (h : BreakOf tokens t before after) : t ∈ tokens ∧ '\n' ∈ t.text := by
  obtain ⟨earlier, later, shown, rest, rfl, htext, -⟩ := h
  exact ⟨by simp, by simp [htext]⟩

/-! ## The screen at a line break -/

/-- On both sides of a line break the screen has the look of its token. -/
theorem BreakOf.screen (h : BreakOf tokens t before after)
    (hplain : ∀ t ∈ tokens, '\x1b' ∉ t.text) :
    ∃ cells, Screen.write {} before = ⟨.ground, look t.category, cells⟩ ∧
      Screen.write {} (before ++ ['\n']) =
        ⟨.ground, look t.category, cells ++ [('\n', look t.category)]⟩ := by
  obtain ⟨earlier, later, shown, rest, rfl, htext, rfl, -⟩ := h
  have hearlier : ∀ t ∈ earlier, '\x1b' ∉ t.text := fun t ht =>
    hplain t (List.mem_append_left _ ht)
  have hshown : '\x1b' ∉ shown := fun hmem =>
    hplain t (by simp) (htext ▸ List.mem_append_left _ hmem)
  have hbefore : Screen.write {} (render earlier ++ opening t.category ++ shown) =
      ⟨.ground, look t.category,
        earlier.flatMap display ++ shownAs (look t.category) shown⟩ := by
    rw [Screen.write_append, Screen.write_append, write_render hearlier, write_opening,
      write_shown hshown, List.nil_append]
  exact ⟨_, hbefore, by rw [Screen.write_append, hbefore]; rfl⟩

/-- The screen is at rest at the bare line breaks. -/
theorem BreakOf.atRest_iff (h : BreakOf tokens t before after)
    (hplain : ∀ t ∈ tokens, '\x1b' ∉ t.text) :
    (Screen.write {} before).AtRest ∧ (Screen.write {} (before ++ ['\n'])).AtRest ↔
      style? t.category = none := by
  obtain ⟨cells, hbefore, hbehind⟩ := h.screen hplain
  rw [hbefore, hbehind, ← look_eq_iff]
  exact ⟨fun hrest => hrest.1.2, fun hlook => ⟨⟨rfl, hlook⟩, rfl, hlook⟩⟩

/-! ## All line breaks -/

/-- No line break is enclosed if and only if all line ends are in tokens that are written bare. -/
theorem not_enclosed_iff :
    (∀ before after, render tokens = before ++ '\n' :: after → ¬ Enclosed tokens before after) ↔
      ∀ t ∈ tokens, '\n' ∈ t.text → style? t.category = none := by
  constructor
  · intro hfree t ht hmem
    obtain ⟨before, after, hbreak, hof⟩ := exists_break_of_mem ht hmem
    by_contra hstyle
    exact hfree before after hbreak ⟨t, hof, hstyle⟩
  · rintro hbare before after - ⟨t, hof, hstyle⟩
    exact hstyle (hbare t hof.mem.1 hof.mem.2)

/-- The screen is at rest at all line breaks if and only if all line ends are in tokens that are
written bare. -/
theorem atRest_iff (hplain : ∀ t ∈ tokens, '\x1b' ∉ t.text) :
    (∀ before after, render tokens = before ++ '\n' :: after →
        (Screen.write {} before).AtRest ∧ (Screen.write {} (before ++ ['\n'])).AtRest) ↔
      ∀ t ∈ tokens, '\n' ∈ t.text → style? t.category = none := by
  constructor
  · intro hrest t ht hmem
    obtain ⟨before, after, hbreak, hof⟩ := exists_break_of_mem ht hmem
    exact (hof.atRest_iff hplain).mp (hrest before after hbreak)
  · intro hbare before after hbreak
    obtain ⟨t, hof⟩ := exists_breakOf hbreak
    exact (hof.atRest_iff hplain).mpr (hbare t hof.mem.1 hof.mem.2)

end Terminal

/-! ## The tokens of a source -/

theorem Token.EscapesLineEnd.mem {t : Token} (h : t.EscapesLineEnd) : '\n' ∈ t.text := by
  rcases h.2 with htext | htext
  · simp [htext]
  · simp [htext]

namespace Language

open Terminal

/-- A line end in a token of a source is among blanks or escaped. -/
theorem lineEnd_of_mem_tokenize (l : Language) {source : Text} {t : Token}
    (ht : t ∈ tokenize l.grammar source) (hmem : '\n' ∈ t.text) :
    t.category = .whitespace ∨ t.EscapesLineEnd := by
  obtain ⟨lx, hscans, -⟩ := scans_tokenize l.grammar source
  obtain ⟨before, middle, hbefore, hrest, hpending⟩ := hscans.exists_step_of_mem t ht
  have hidle : middle.pending = [] := hbefore.idle_right
  have hhanding : l.Handing middle :=
    { levels := hbefore.onLevels l.twoLevel .entry
      left := by simp [hidle]
      lineEnd := by simp [hidle] }
  exact (hhanding.step hidle hrest).lineEnd t hpending hmem

/-- The line ends that are shown in a style are the escaped ones. -/
theorem style?_eq_none_iff (l : Language) {source : Text} {t : Token}
    (ht : t ∈ tokenize l.grammar source) (hmem : '\n' ∈ t.text) :
    style? t.category = none ↔ ¬ t.EscapesLineEnd := by
  rcases l.lineEnd_of_mem_tokenize ht hmem with hblank | hescape
  · refine iff_of_true (by rw [hblank]; rfl) fun hescape => ?_
    cases hblank.symm.trans hescape.1
  · refine iff_of_false ?_ (not_not_intro hescape)
    rw [hescape.1]
    exact Option.some_ne_none _

theorem lineEnds_bare_iff (l : Language) (source : Text) :
    (∀ t ∈ tokenize l.grammar source, '\n' ∈ t.text → style? t.category = none) ↔
      ∀ t ∈ tokenize l.grammar source, ¬ t.EscapesLineEnd := by
  constructor
  · intro hbare t ht hescape
    exact (l.style?_eq_none_iff ht hescape.mem).mp (hbare t ht hescape.mem) hescape
  · exact fun hnone t ht hmem => (l.style?_eq_none_iff ht hmem).mpr (hnone t ht)

/-- Every line break of the colored output of a source is of blanks or of an escaped line end.
No line break stands between the sequences of a style, and the screen is at rest at the start and
at the end of every line, if and only if no line end is escaped. -/
theorem line_breaks_bare_iff (l : Language) (source : Text) :
    (∀ before after, render (tokenize l.grammar source) = before ++ '\n' :: after →
      ∃ t, BreakOf (tokenize l.grammar source) t before after ∧
        (t.category = .whitespace ∨ t.EscapesLineEnd)) ∧
    ((∀ before after, render (tokenize l.grammar source) = before ++ '\n' :: after →
        ¬ Enclosed (tokenize l.grammar source) before after) ↔
      ∀ t ∈ tokenize l.grammar source, ¬ t.EscapesLineEnd) ∧
    ('\x1b' ∉ source →
      (Screen.write {} (render (tokenize l.grammar source))).AtRest ∧
      ((∀ before after, render (tokenize l.grammar source) = before ++ '\n' :: after →
          (Screen.write {} before).AtRest ∧ (Screen.write {} (before ++ ['\n'])).AtRest) ↔
        ∀ t ∈ tokenize l.grammar source, ¬ t.EscapesLineEnd)) := by
  refine ⟨fun before after hbreak => ?_, ?_, fun hsource => ?_⟩
  · obtain ⟨t, hof⟩ := exists_breakOf hbreak
    exact ⟨t, hof, l.lineEnd_of_mem_tokenize hof.mem.1 hof.mem.2⟩
  · rw [not_enclosed_iff, l.lineEnds_bare_iff]
  · have hplain : ∀ t ∈ tokenize l.grammar source, '\x1b' ∉ t.text := fun t ht hmem =>
      hsource ((tiles_tokenize l.grammar source).subset t ht _ hmem)
    refine ⟨?_, by rw [atRest_iff hplain, l.lineEnds_bare_iff]⟩
    rw [write_render hplain]
    exact ⟨rfl, rfl⟩

/-- The color of an escape is in force at the line end it escapes. -/
theorem exists_enclosed_line_break :
    ∃ before after, render (tokenize pdfile.grammar "RUN a\\\nb".toList) = before ++ '\n' :: after ∧
      Enclosed (tokenize pdfile.grammar "RUN a\\\nb".toList) before after ∧
      (Screen.write {} before).look = { color := .palette 11 } ∧
      (Screen.write {} (before ++ ['\n'])).look = { color := .palette 11 } := by
  have hgrammar : pdfile.grammar = Pdfile.table := pdfileGrammar_eq
  have htokens : tokenize pdfile.grammar "RUN a\\\nb".toList =
      [⟨.keyword, 0, 3, "RUN".toList⟩, ⟨.whitespace, 3, 4, " ".toList⟩,
        ⟨.string, 4, 5, "a".toList⟩] ++
        ⟨.constant, 5, 7, "\\\n".toList⟩ :: [⟨.string, 7, 8, "b".toList⟩] := by
    rw [hgrammar]
    decide +kernel
  rw [htokens]
  refine ⟨_, _, ?_, ⟨_, ⟨_, _, ['\\'], [], rfl, rfl, rfl, rfl⟩, by decide⟩, ?_⟩
  · rfl
  · exact ⟨rfl, rfl⟩

end Language

end Highlighter
