import Highlighter.Proofs.Render.Screen

/-!
# What the colors show

A style is written before and behind a text.  On a screen at rest the sequences before it
set the look that the style stands for, and the ones behind it set the screen at rest
again, whichever of the two resets is used.  So a token leaves the screen as it found it
but for its own characters, and a text without a style, which is written bare, is shown in
the look of the terminal because the token before it has put back everything it had set.
-/

namespace Highlighter.Terminal

variable {cells : List (Char × Look)}

/-! ## Styles -/

/-- The look that a style asks for. -/
def Style.look (s : Style) : Look where
  color := .palette s.color.number
  bold := s.emphasis == some .bold
  italic := s.emphasis == some .italic
  underlined := s.emphasis == some .underlined

/-- What is written before a text in a style. -/
def Style.opening (s : Style) : Text :=
  match s.emphasis with
  | none => setColor s.color
  | some a => setColor s.color ++ setEmphasis a

/-- What is written behind a text in a style. -/
def Style.closing (s : Style) : Text :=
  match s.emphasis with
  | none => sequence "39".toList
  | some _ => sequence "0".toList

theorem styled_eq (s : Style) (t : Text) : styled s t = s.opening ++ t ++ s.closing := by
  rw [styled, Style.opening, Style.closing]
  cases s.emphasis with
  | none => rfl
  | some a => rfl

theorem Style.write_opening (s : Style) :
    (⟨.ground, {}, cells⟩ : Screen).write s.opening = ⟨.ground, s.look, cells⟩ := by
  obtain ⟨color, emphasis⟩ := s
  cases emphasis with
  | none => exact write_setColor color
  | some a =>
    rw [Style.opening, Screen.write_append, write_setColor, setEmphasis, write_number]
    cases a <;> rfl

theorem Style.write_closing (s : Style) :
    (⟨.ground, s.look, cells⟩ : Screen).write s.closing = ⟨.ground, {}, cells⟩ := by
  obtain ⟨color, emphasis⟩ := s
  cases emphasis with
  | none => exact write_number 39
  | some a => exact write_number 0

theorem Style.look_ne (s : Style) : s.look ≠ {} := by
  intro h
  cases congrArg Look.color h

/-! ## Categories -/

/-- The look of the tokens of a category. -/
def look (c : Category) : Look := (style? c).elim {} Style.look

/-- What is written before the text of a token. -/
def opening (c : Category) : Text := (style? c).elim [] Style.opening

/-- What is written behind the text of a token. -/
def closing (c : Category) : Text := (style? c).elim [] Style.closing

theorem token_eq (t : Token) : token t = opening t.category ++ t.text ++ closing t.category := by
  rw [token, opening, closing]
  cases style? t.category with
  | none => simp
  | some s => exact styled_eq s t.text

theorem write_opening (c : Category) :
    (⟨.ground, {}, cells⟩ : Screen).write (opening c) = ⟨.ground, look c, cells⟩ := by
  rw [opening, look]
  cases style? c with
  | none => rfl
  | some s => exact s.write_opening

theorem write_closing (c : Category) :
    (⟨.ground, look c, cells⟩ : Screen).write (closing c) = ⟨.ground, {}, cells⟩ := by
  rw [closing, look]
  cases style? c with
  | none => rfl
  | some s => exact s.write_closing

/-- Only what is written bare is shown in the look of the terminal. -/
theorem look_eq_iff {c : Category} : look c = {} ↔ style? c = none := by
  rw [look]
  cases style? c with
  | none => exact iff_of_true rfl rfl
  | some s => exact iff_of_false s.look_ne (by simp)

/-! ## Tokens -/

/-- The characters of a token in the look of its category. -/
def display (t : Token) : List (Char × Look) := shownAs (look t.category) t.text

/-- A token adds its characters, and the screen is at rest again. -/
theorem write_token {t : Token} (ht : '\x1b' ∉ t.text) :
    (⟨.ground, {}, cells⟩ : Screen).write (token t) = ⟨.ground, {}, cells ++ display t⟩ := by
  rw [token_eq, Screen.write_append, Screen.write_append, write_opening, write_shown ht,
    write_closing, display]

/-- So do tokens one after the other. -/
theorem write_render {tokens : List Token} (h : ∀ t ∈ tokens, '\x1b' ∉ t.text) :
    (⟨.ground, {}, cells⟩ : Screen).write (render tokens) =
      ⟨.ground, {}, cells ++ tokens.flatMap display⟩ := by
  induction tokens generalizing cells with
  | nil => simp [render]
  | cons t tokens ih =>
    rw [List.forall_mem_cons] at h
    rw [render, List.flatMap_cons, Screen.write_append, write_token h.1, ← render, ih h.2,
      List.flatMap_cons, List.append_assoc]

theorem display_map_fst (tokens : List Token) :
    (tokens.flatMap display).map Prod.fst = detokenize tokens := by
  simp only [List.map_flatMap, detokenize, display, shownAs_map_fst]

theorem render_append (before after : List Token) :
    render (before ++ after) = render before ++ render after := List.flatMap_append

/-- A terminal shows the characters of the tokens, each in the look of its category, and it
waits with its own look behind every token. -/
theorem screen_shows_tokens {tokens : List Token} (h : ∀ t ∈ tokens, '\x1b' ∉ t.text) :
    (Screen.write {} (render tokens)).cells = tokens.flatMap display ∧
      (Screen.write {} (render tokens)).cells.map Prod.fst = detokenize tokens ∧
      (Screen.write {} (render tokens)).AtRest ∧
      ∀ before after, tokens = before ++ after →
        render tokens = render before ++ render after ∧
          (Screen.write {} (render before)).AtRest := by
  have hshown : (Screen.write {} (render tokens)) = ⟨.ground, {}, tokens.flatMap display⟩ :=
    write_render h
  refine ⟨by rw [hshown], by rw [hshown, display_map_fst], by rw [hshown]; exact ⟨rfl, rfl⟩, ?_⟩
  rintro before after rfl
  have hbefore : (Screen.write {} (render before)) = ⟨.ground, {}, before.flatMap display⟩ :=
    write_render fun t ht => h t (List.mem_append_left after ht)
  exact ⟨render_append before after, by rw [hbefore]; exact ⟨rfl, rfl⟩⟩

/-- The tokens of a directive with a comment. -/
def commented : List Token :=
  [⟨.keyword, 0, 3, "RUN".toList⟩, ⟨.whitespace, 3, 4, " ".toList⟩, ⟨.comment, 4, 6, "#a".toList⟩]

/-- A heavy word, a bare blank and a slanted comment. -/
theorem screen_shows_commented :
    (∀ t ∈ commented, '\x1b' ∉ t.text) ∧
      (Screen.write {} (render commented)).cells =
        shownAs { color := .palette 13, bold := true } "RUN".toList ++ shownAs {} " ".toList ++
          shownAs { color := .palette 8, italic := true } "#a".toList ∧
      (Screen.write {} (render commented)).AtRest := by
  have hplain : ∀ t ∈ commented, '\x1b' ∉ t.text := by decide
  obtain ⟨hcells, -, hrest, -⟩ := screen_shows_tokens hplain
  exact ⟨hplain, hcells.trans rfl, hrest⟩

end Highlighter.Terminal
