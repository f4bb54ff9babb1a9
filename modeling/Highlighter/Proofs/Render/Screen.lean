import Highlighter.Proofs.Digits
import Highlighter.Proofs.Separators
import Highlighter.Render.Terminal

/-!
# A terminal that follows control sequences

The screen is what a terminal makes of the characters it is sent.  `ESC [`, some
parameters and a final character are a control sequence, which shows nothing; the one that
ends in `m` changes how the characters behind it look.  Any other character is shown the
way that is in force where it arrives.  Where it comes to stand is left out, so a line
break is shown like the rest.

A sequence that the colors or the emphases are written with reaches its end with the mode
it found, the characters shown so far, and one change of the look.
-/

namespace Highlighter.Terminal

/-! ## Looks -/

/-- A color on the screen. -/
inductive Ink where
  /-- The color of the terminal itself. -/
  | standard
  /-- A color of the palette. -/
  | palette (number : Nat)
  /-- A color by its parts. -/
  | mixed (red green blue : Nat)
  deriving DecidableEq, Repr

/-- The way a character is shown. -/
structure Look where
  /-- The color of its strokes. -/
  color : Ink := .standard
  /-- The color behind it. -/
  background : Ink := .standard
  /-- Whether its strokes are heavy. -/
  bold : Bool := false
  /-- Whether its strokes are light. -/
  faint : Bool := false
  /-- Whether it is slanted. -/
  italic : Bool := false
  /-- Whether a line is under it. -/
  underlined : Bool := false
  /-- Whether it blinks. -/
  blinking : Bool := false
  /-- Whether its two colors are exchanged. -/
  inverted : Bool := false
  /-- Whether it is left blank. -/
  hidden : Bool := false
  /-- Whether a line goes through it. -/
  struck : Bool := false
  deriving DecidableEq, Repr

/-- The change that one number makes. -/
def Look.set (look : Look) : Nat → Look
  | 0 => {}
  | 1 => { look with bold := true }
  | 2 => { look with faint := true }
  | 3 => { look with italic := true }
  | 4 => { look with underlined := true }
  | 5 | 6 => { look with blinking := true }
  | 7 => { look with inverted := true }
  | 8 => { look with hidden := true }
  | 9 => { look with struck := true }
  | 22 => { look with bold := false, faint := false }
  | 23 => { look with italic := false }
  | 24 => { look with underlined := false }
  | 25 => { look with blinking := false }
  | 27 => { look with inverted := false }
  | 28 => { look with hidden := false }
  | 29 => { look with struck := false }
  | 39 => { look with color := .standard }
  | 49 => { look with background := .standard }
  | n =>
    if 30 ≤ n ∧ n ≤ 37 then { look with color := .palette (n - 30) }
    else if 40 ≤ n ∧ n ≤ 47 then { look with background := .palette (n - 40) }
    else if 90 ≤ n ∧ n ≤ 97 then { look with color := .palette (n - 82) }
    else if 100 ≤ n ∧ n ≤ 107 then { look with background := .palette (n - 92) }
    else look

/-- The changes that numbers make one after the other.  A color that is given by more than
one number takes them all. -/
def Look.apply (look : Look) : List Nat → Look
  | [] => look
  | 38 :: 5 :: n :: rest => Look.apply { look with color := .palette n } rest
  | 38 :: 2 :: r :: g :: b :: rest => Look.apply { look with color := .mixed r g b } rest
  | 48 :: 5 :: n :: rest => Look.apply { look with background := .palette n } rest
  | 48 :: 2 :: r :: g :: b :: rest => Look.apply { look with background := .mixed r g b } rest
  | n :: rest => Look.apply (look.set n) rest

/-- The numbers of a control sequence.  One that is left out is zero. -/
def parameters (t : Text) : List Nat :=
  (Text.splitAt ';' t).map fun part => (Digits.read? 10 part).getD 0

/-! ## The screen -/

/-- What the terminal is in the middle of. -/
inductive Mode where
  /-- Nothing. -/
  | ground
  /-- An escape. -/
  | escape
  /-- A control sequence that has begun with some parameters. -/
  | control (parameters : Text)
  deriving DecidableEq, Repr

/-- The state of the terminal. -/
structure Screen where
  /-- What it is in the middle of. -/
  mode : Mode := .ground
  /-- The way the next character is shown. -/
  look : Look := {}
  /-- The characters shown, and how. -/
  cells : List (Char × Look) := []
  deriving DecidableEq, Repr

/-- Whether a character ends a control sequence. -/
def isFinal (c : Char) : Bool := '@' ≤ c && c ≤ '~'

/-- A character arrives. -/
def Screen.put (s : Screen) (c : Char) : Screen :=
  match s.mode with
  | .ground =>
    if c = '\x1b' then { s with mode := .escape }
    else { s with cells := s.cells ++ [(c, s.look)] }
  | .escape =>
    if c = '[' then { s with mode := .control [] }
    else { s with mode := .ground }
  | .control read =>
    if isFinal c then
      { s with
        mode := .ground
        look := if c = 'm' then s.look.apply (parameters read) else s.look }
    else { s with mode := .control (read ++ [c]) }

/-- A text arrives. -/
def Screen.write (s : Screen) (t : Text) : Screen := t.foldl put s

/-- Whether the terminal waits with its own look, ready for a character. -/
def Screen.AtRest (s : Screen) : Prop := s.mode = .ground ∧ s.look = {}

/-- The characters of a text, all shown alike. -/
def shownAs (look : Look) (t : Text) : List (Char × Look) := t.map (·, look)

variable {look : Look} {cells : List (Char × Look)}

@[simp]
theorem Screen.write_nil (s : Screen) : s.write [] = s := rfl

theorem Screen.write_cons (s : Screen) (c : Char) (t : Text) :
    s.write (c :: t) = (s.put c).write t := rfl

theorem Screen.write_append (s : Screen) (t u : Text) :
    s.write (t ++ u) = (s.write t).write u := List.foldl_append

@[simp]
theorem shownAs_nil (look : Look) : shownAs look [] = [] := rfl

theorem shownAs_map_fst (look : Look) (t : Text) : (shownAs look t).map Prod.fst = t := by
  simp [shownAs, Function.comp_def]

/-- A text without an escape is shown. -/
theorem write_shown {t : Text} (ht : '\x1b' ∉ t) :
    (⟨.ground, look, cells⟩ : Screen).write t = ⟨.ground, look, cells ++ shownAs look t⟩ := by
  induction t generalizing cells with
  | nil => simp
  | cons c t ih =>
    rw [List.mem_cons, not_or] at ht
    have hput : (⟨.ground, look, cells⟩ : Screen).put c = ⟨.ground, look, cells ++ [(c, look)]⟩ :=
      if_neg (Ne.symm ht.1)
    rw [Screen.write_cons, hput, ih ht.2, List.append_assoc]
    rfl

/-! ## Control sequences -/

/-- Numbers as parameters. -/
def numbers (n : Nat) (others : List Nat) : Text :=
  Text.ofNat n ++ (others.map Text.ofNat).flatMap (';' :: ·)

/-- Parameters are read as the numbers they were written for. -/
theorem parameters_numbers (n : Nat) (others : List Nat) :
    parameters (numbers n others) = n :: others := by
  have hsep (m : Nat) : ';' ∉ Text.ofNat m := Digits.not_mem_ofNat (by decide) m
  have hread (m : Nat) : (Digits.read? 10 (Text.ofNat m)).getD 0 = m := by
    rw [Digits.read?_ofNat, Option.getD_some]
  rw [parameters, numbers,
    Text.splitAt_append_flatMap (hsep n) (by simpa using fun m _ => hsep m)]
  simp [hread, Function.comp_def]

theorem isFinal_eq_false_of_mem_ofNat {n : Nat} {c : Char} (hc : c ∈ Text.ofNat n) :
    isFinal c = false := by
  have hle : c ≤ '9' := Digits.le_nine_of_isDigit (Digits.isDigit_of_mem_ofNat n c hc)
  have hlt : ¬ '@' ≤ c := fun h => absurd (Char.le_trans h hle) (by decide)
  simp [isFinal, hlt]

/-- Parameters have no end of a control sequence in them. -/
theorem isFinal_eq_false_of_mem_numbers {n : Nat} {others : List Nat} {c : Char}
    (hc : c ∈ numbers n others) : isFinal c = false := by
  simp only [numbers, List.mem_append, List.mem_flatMap, List.mem_map, List.mem_cons] at hc
  rcases hc with hc | ⟨_, ⟨m, -, rfl⟩, rfl | hc⟩
  · exact isFinal_eq_false_of_mem_ofNat hc
  · rfl
  · exact isFinal_eq_false_of_mem_ofNat hc

/-- The parameters are gathered up to the end of the sequence. -/
theorem write_parameters {t : Text} (ht : ∀ c ∈ t, isFinal c = false) (read : Text) :
    (⟨.control read, look, cells⟩ : Screen).write t = ⟨.control (read ++ t), look, cells⟩ := by
  induction t generalizing read with
  | nil => simp
  | cons c t ih =>
    rw [List.forall_mem_cons] at ht
    have hput : (⟨.control read, look, cells⟩ : Screen).put c =
        ⟨.control (read ++ [c]), look, cells⟩ := by
      simp [Screen.put, ht.1]
    rw [Screen.write_cons, hput, ih ht.2, List.append_assoc, List.singleton_append]

/-- A sequence changes the look by its numbers and nothing besides. -/
theorem write_numbers (n : Nat) (others : List Nat) :
    (⟨.ground, look, cells⟩ : Screen).write (sequence (numbers n others)) =
      ⟨.ground, look.apply (n :: others), cells⟩ := by
  calc (⟨.ground, look, cells⟩ : Screen).write (sequence (numbers n others))
    _ = ((⟨.control [], look, cells⟩ : Screen).write (numbers n others)).write ['m'] := by
        rw [← Screen.write_append]; rfl
    _ = (⟨.control (numbers n others), look, cells⟩ : Screen).write ['m'] := by
        rw [write_parameters fun _ => isFinal_eq_false_of_mem_numbers, List.nil_append]
    _ = ⟨.ground, look.apply (parameters (numbers n others)), cells⟩ := rfl
    _ = ⟨.ground, look.apply (n :: others), cells⟩ := by rw [parameters_numbers]

/-- The color is set to the one of the palette. -/
theorem write_setColor (c : Color) :
    (⟨.ground, look, cells⟩ : Screen).write (setColor c) =
      ⟨.ground, { look with color := .palette c.number }, cells⟩ := by
  have hnumbers : "38;5;".toList ++ Text.ofNat c.number = numbers 38 [5, c.number] := by
    simp [numbers, List.flatMap_cons, show Text.ofNat 38 = ['3', '8'] from rfl,
      show Text.ofNat 5 = ['5'] from rfl]
  rw [setColor, hnumbers, write_numbers]
  rfl

/-- A sequence of one number. -/
theorem write_number (n : Nat) :
    (⟨.ground, look, cells⟩ : Screen).write (sequence (Text.ofNat n)) =
      ⟨.ground, look.apply [n], cells⟩ := by
  simpa [numbers] using write_numbers n []

end Highlighter.Terminal
