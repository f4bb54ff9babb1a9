import Highlighter.Proofs.Digits
import Highlighter.Text.Quoted

/-!
# Quoted texts read back

The reader of quoted texts goes through the characters once.  Behind a backslash it is in
the middle of an escape, and behind `\u` in the middle of a code, until the brace that
ends it (`Mode`).  An escape of any of the three forms starts with a backslash, and no
other character of a quoted text is one, so the reader is never in doubt where an escape
begins; the letter behind the backslash tells the form.  One lemma says how the reader goes
past a character as it is written, and the reading of the whole follows by induction.
-/

namespace Highlighter

theorem Text.charOf?_toNat (c : Char) : charOf? c.toNat = some c := by
  rw [charOf?, Char.ofNat_toNat]
  exact if_pos c.valid

namespace Quoted

/-! ## The reader -/

/-- What the reader is in the middle of. -/
inductive Mode where
  /-- The text. -/
  | plain
  /-- An escape. -/
  | escape
  /-- A code before its opening brace. -/
  | opening
  /-- A code that has begun with some digits. -/
  | code (digits : Text)

/-- The character that a letter behind a backslash stands for. -/
def unescape? : Char → Option Char
  | '0' => some '\x00'
  | 't' => some '\t'
  | 'r' => some '\r'
  | 'n' => some '\n'
  | '"' => some '"'
  | '\\' => some '\\'
  | _ => none

/-- The character that the digits of a code stand for. -/
def decode? (digits : Text) : Option Char := (Digits.read? 16 digits).bind Text.charOf?

/-- The text up to the closing quote, which has to be the end. -/
def readFrom? : Mode → Text → Option Text
  | _, [] => none
  | .plain, c :: rest =>
    if c = '"' then if rest = [] then some [] else none
    else if c = '\\' then readFrom? .escape rest
    else (readFrom? .plain rest).map (c :: ·)
  | .escape, c :: rest =>
    if c = 'u' then readFrom? .opening rest
    else (unescape? c).bind fun d => (readFrom? .plain rest).map (d :: ·)
  | .opening, c :: rest => if c = '\x7b' then readFrom? (.code []) rest else none
  | .code digits, c :: rest =>
    if c = '\x7d' then (decode? digits).bind fun d => (readFrom? .plain rest).map (d :: ·)
    else readFrom? (.code (digits ++ [c])) rest

/-- The text that stands in quotes. -/
def read? : Text → Option Text
  | '"' :: rest => readFrom? .plain rest
  | _ => none

/-! ## Codes -/

theorem decode?_toDigits (c : Char) : decode? (Nat.toDigits 16 c.toNat) = some c := by
  rw [decode?, Digits.read?_toDigits (by decide) (by decide), Option.bind_some, Text.charOf?_toNat]

/-- A character that is no digit does not occur in a code. -/
theorem not_mem_code {d : Char} (hd : Digits.isDigit 16 d = false) (c : Char) :
    d ∉ Nat.toDigits 16 c.toNat :=
  Digits.not_mem_toDigits (by decide) (by decide) hd c.toNat

/-- The digits of a code are gathered up to the closing brace. -/
theorem readFrom?_code {more : Text} (hmore : '\x7d' ∉ more) (digits rest : Text) :
    readFrom? (.code digits) (more ++ '\x7d' :: rest) =
      (decode? (digits ++ more)).bind fun d => (readFrom? .plain rest).map (d :: ·) := by
  induction more generalizing digits with
  | nil => rw [List.nil_append, readFrom?, if_pos rfl, List.append_nil]
  | cons c more ih =>
    rw [List.mem_cons, not_or] at hmore
    rw [List.cons_append, readFrom?, if_neg (Ne.symm hmore.1), ih hmore.2, List.append_assoc,
      List.singleton_append]

/-! ## Characters as they are written -/

/-- The ways a character is written. -/
theorem escape_cases (c : Char) :
    (∃ d, d ≠ 'u' ∧ unescape? d = some c ∧ escape c = ['\\', d]) ∨
      escape c = ['\\', 'u', '\x7b'] ++ Nat.toDigits 16 c.toNat ++ ['\x7d'] ∨
      c ≠ '\n' ∧ c ≠ '"' ∧ c ≠ '\\' ∧ escape c = [c] := by
  rw [escape]
  simp only [beq_iff_eq]
  split
  · next h => exact Or.inl ⟨'0', by decide, congrArg some h.symm, rfl⟩
  split
  · next h => exact Or.inl ⟨'t', by decide, congrArg some h.symm, rfl⟩
  split
  · next h => exact Or.inl ⟨'r', by decide, congrArg some h.symm, rfl⟩
  split
  · next h => exact Or.inl ⟨'n', by decide, congrArg some h.symm, rfl⟩
  split
  · next h => exact Or.inl ⟨'"', by decide, congrArg some h.symm, rfl⟩
  split
  · next h => exact Or.inl ⟨'\\', by decide, congrArg some h.symm, rfl⟩
  split
  · exact Or.inr (Or.inl rfl)
  · next hnewline hquote hbackslash _ => exact Or.inr (Or.inr ⟨hnewline, hquote, hbackslash, rfl⟩)

/-- The reader goes past a character as it is written, and has read the character. -/
theorem readFrom?_escape (c : Char) (rest : Text) :
    readFrom? .plain (escape c ++ rest) = (readFrom? .plain rest).map (c :: ·) := by
  rcases escape_cases c with ⟨d, hd, hletter, hescape⟩ | hescape | ⟨-, hquote, hbackslash, hescape⟩
  · rw [hescape]
    simp [readFrom?, hd, hletter]
  · have hbrace : '\x7d' ∉ Nat.toDigits 16 c.toNat := not_mem_code (by decide) c
    calc readFrom? .plain (escape c ++ rest)
      _ = readFrom? (.code []) (Nat.toDigits 16 c.toNat ++ '\x7d' :: rest) := by
          rw [hescape]
          simp [readFrom?]
      _ = (readFrom? .plain rest).map (c :: ·) := by
          rw [readFrom?_code hbrace, List.nil_append, decode?_toDigits, Option.bind_some]
  · rw [hescape]
    simp [readFrom?, hquote, hbackslash]

theorem readFrom?_flatMap (t : Text) : readFrom? .plain (t.flatMap escape ++ ['"']) = some t := by
  induction t with
  | nil => rfl
  | cons c t ih =>
    rw [List.flatMap_cons, List.append_assoc, readFrom?_escape, ih, Option.map_some]

/-- A text in quotes is read back. -/
theorem read?_quote (t : Text) : read? (quote t) = some t := readFrom?_flatMap t

theorem newline_not_mem_escape (c : Char) : '\n' ∉ escape c := by
  rcases escape_cases c with ⟨d, -, hletter, hescape⟩ | hescape | ⟨hnewline, -, -, hescape⟩
  · have hd : '\n' ≠ d := by
      rintro rfl
      cases hletter
    simp [hescape, hd]
  · simp [hescape, not_mem_code (show Digits.isDigit 16 '\n' = false by decide) c]
  · simp [hescape, Ne.symm hnewline]

/-- A text in quotes stays within its line. -/
theorem newline_not_mem_quote (t : Text) : '\n' ∉ quote t := by
  simp [quote, newline_not_mem_escape]

end Quoted

end Highlighter
