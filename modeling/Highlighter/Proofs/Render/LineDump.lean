import Highlighter.Proofs.Render.QuotedTexts
import Highlighter.Proofs.Separators
import Highlighter.Render.Lines

/-!
# The line dump read back

A line is read from its start: the name of the category up to the first blank, the blanks
it is padded with, the two positions with two dots between them, and the text in quotes.
None of these parts has a line end in it, so the dump is cut into its lines at the line
ends, and as each line is read as its token, the dump is read as the tokens it was written
for.
-/

namespace Highlighter

theorem Category.ofName?_name (c : Category) : ofName? c.name = some c := by
  cases c <;> rfl

namespace Lines

/-! ## The reader -/

/-- The two positions at the start of a text, and what stands behind the blank after them. -/
def readSpan? (t : Text) : Option (Nat × Nat × Text) :=
  match t.dropWhile (Digits.isDigit 10) with
  | '.' :: '.' :: behind =>
    match behind.dropWhile (Digits.isDigit 10) with
    | ' ' :: rest => do
      let start ← Digits.read? 10 (t.takeWhile (Digits.isDigit 10))
      let stop ← Digits.read? 10 (behind.takeWhile (Digits.isDigit 10))
      return (start, stop, rest)
    | _ => none
  | _ => none

/-- The token of a line. -/
def readLine? (line : Text) : Option Token := do
  let category ← Category.ofName? (String.ofList (line.takeWhile (· != ' ')))
  let (start, stop, quoted) ← readSpan? ((line.dropWhile (· != ' ')).dropWhile (· == ' '))
  let text ← Quoted.read? quoted
  return ⟨category, start, stop, text⟩

/-- The tokens of a dump.  Every line is ended, so nothing is left behind the last line end. -/
def read? (dump : Text) : Option (List Token) :=
  let lines := Text.splitAt '\n' dump
  if lines.getLast? = some [] then lines.dropLast.mapM readLine? else none

/-! ## Lines -/

/-- The line of a token without its end. -/
def body (t : Token) : Text :=
  Text.padRight 12 t.category.name.toList ++ ' ' :: Text.ofNat t.start ++ ['.', '.'] ++
    Text.ofNat t.stop ++ ' ' :: Quoted.quote t.text

theorem line_eq (t : Token) : line t = body t ++ ['\n'] := by
  simp [line, body]

theorem render_eq (tokens : List Token) :
    render tokens = (tokens.map body).flatMap (· ++ ['\n']) := by
  rw [render, List.flatMap_map, funext line_eq]

theorem blank_not_mem_name (c : Category) : ' ' ∉ c.name.toList := by
  cases c <;> decide

theorem newline_not_mem_name (c : Category) : '\n' ∉ c.name.toList := by
  cases c <;> decide

/-- A line has no line end within. -/
theorem newline_not_mem_body (t : Token) : '\n' ∉ body t := by
  have hdigits (n : Nat) : '\n' ∉ Text.ofNat n := Digits.not_mem_ofNat (by decide) n
  simp [body, Text.padRight, newline_not_mem_name, hdigits, Quoted.newline_not_mem_quote]

/-- The digits of a number end at the first other character. -/
theorem takeWhile_ofNat (n : Nat) {c : Char} (hc : Digits.isDigit 10 c = false) (rest : Text) :
    (Text.ofNat n ++ c :: rest).takeWhile (Digits.isDigit 10) = Text.ofNat n := by
  rw [List.takeWhile_append_of_pos (Digits.isDigit_of_mem_ofNat n),
    List.takeWhile_cons_of_neg (by simp [hc]), List.append_nil]

theorem dropWhile_ofNat (n : Nat) {c : Char} (hc : Digits.isDigit 10 c = false) (rest : Text) :
    (Text.ofNat n ++ c :: rest).dropWhile (Digits.isDigit 10) = c :: rest := by
  rw [List.dropWhile_append_of_pos (Digits.isDigit_of_mem_ofNat n),
    List.dropWhile_cons_of_neg (by simp [hc])]

/-- Two positions are read, up to the blank behind them. -/
theorem readSpan?_append (start stop : Nat) (rest : Text) :
    readSpan? (Text.ofNat start ++ '.' :: '.' :: (Text.ofNat stop ++ ' ' :: rest)) =
      some (start, stop, rest) := by
  have hdot : Digits.isDigit 10 '.' = false := by decide
  have hblank : Digits.isDigit 10 ' ' = false := by decide
  simp only [readSpan?, dropWhile_ofNat _ hdot, dropWhile_ofNat _ hblank, takeWhile_ofNat _ hdot,
    takeWhile_ofNat _ hblank, Digits.read?_ofNat]
  rfl

/-- The blanks before a number end where it begins. -/
theorem dropWhile_blanks (k n : Nat) (rest : Text) :
    (List.replicate k ' ' ++ (Text.ofNat n ++ rest)).dropWhile (· == ' ') =
      Text.ofNat n ++ rest := by
  obtain ⟨d, digits, hdigits⟩ : ∃ d digits, Text.ofNat n = d :: digits :=
    List.exists_cons_of_ne_nil Nat.toDigits_ne_nil
  have hd : d ≠ ' ' := by
    rintro rfl
    exact Digits.not_mem_ofNat (by decide) n (hdigits ▸ List.mem_cons_self ..)
  rw [List.dropWhile_append_of_pos (by simp), hdigits, List.cons_append,
    List.dropWhile_cons_of_neg (by simpa using hd)]

/-- A line is read as its token. -/
theorem readLine?_body (t : Token) : readLine? (body t) = some t := by
  let span := Text.ofNat t.start ++ '.' :: '.' :: (Text.ofNat t.stop ++ ' ' :: Quoted.quote t.text)
  let width := 12 - t.category.name.toList.length
  have hbody : body t = t.category.name.toList ++ ' ' :: (List.replicate width ' ' ++ span) := by
    have hblanks (rest : Text) : List.replicate width ' ' ++ ' ' :: rest =
        ' ' :: (List.replicate width ' ' ++ rest) := by
      rw [List.append_cons, ← List.replicate_succ', List.replicate_succ, List.cons_append]
    simp [body, Text.padRight, ← hblanks, span, width]
  have hname : ∀ c ∈ t.category.name.toList, (c != ' ') = true := by
    intro c hc
    rw [bne_iff_ne]
    rintro rfl
    exact blank_not_mem_name t.category hc
  have htake : (body t).takeWhile (· != ' ') = t.category.name.toList := by
    rw [hbody, List.takeWhile_append_of_pos hname, List.takeWhile_cons_of_neg (by simp),
      List.append_nil]
  have hdrop : ((body t).dropWhile (· != ' ')).dropWhile (· == ' ') = span := by
    rw [hbody, List.dropWhile_append_of_pos hname, List.dropWhile_cons_of_neg (by simp),
      List.dropWhile_cons_of_pos (by simp), dropWhile_blanks]
  rw [readLine?, htake, hdrop, String.ofList_toList, Category.ofName?_name, readSpan?_append]
  simp [Quoted.read?_quote]

/-! ## Dumps -/

/-- A dump is read as the tokens it was written for. -/
theorem read?_render (tokens : List Token) : read? (render tokens) = some tokens := by
  have hlines : Text.splitAt '\n' (render tokens) = tokens.map body ++ [[]] := by
    have hparts : ∀ line ∈ tokens.map body, '\n' ∉ line := by
      simpa using fun t _ => newline_not_mem_body t
    have hcut := Text.splitAt_flatMap hparts List.not_mem_nil
    rwa [List.append_nil, ← render_eq] at hcut
  rw [read?, hlines, List.getLast?_concat, List.dropLast_concat]
  exact Text.mapM_map_eq_some fun t _ => readLine?_body t

theorem count_newline_line (t : Token) : (line t).count '\n' = 1 := by
  rw [line_eq, List.count_append, List.count_eq_zero.mpr (newline_not_mem_body t)]
  rfl

/-- There are as many line ends as tokens. -/
theorem count_newline_render (tokens : List Token) :
    (render tokens).count '\n' = tokens.length := by
  induction tokens with
  | nil => rfl
  | cons t tokens ih =>
    rw [render, List.flatMap_cons, List.count_append, count_newline_line, ← render, ih,
      List.length_cons, Nat.add_comm]

/-- The dump has one line for each token, which ends with the only line end in it and is read as
the token.  So the tokens are read back from the dump, and no two lists of tokens have one dump. -/
theorem render_lossless (tokens : List Token) :
    render tokens = tokens.flatMap (fun t => body t ++ ['\n']) ∧
      (∀ t ∈ tokens, '\n' ∉ body t ∧ readLine? (body t) = some t) ∧
      (render tokens).count '\n' = tokens.length ∧
      read? (render tokens) = some tokens ∧
      ∀ others, render others = render tokens → others = tokens := by
  refine ⟨?_, fun t _ => ⟨newline_not_mem_body t, readLine?_body t⟩, count_newline_render tokens,
    read?_render tokens, fun others h => ?_⟩
  · rw [render, funext line_eq]
  · have hread : some others = some tokens := by
      rw [← read?_render others, h, read?_render]
    exact Option.some.inj hread

end Lines

end Highlighter
