/-!
# Text

A text is a list of characters. Positions in a text are counted in bytes of its
UTF-8 form, so a position may fall inside a character. The cutting operations
come in two kinds. `takeBytes` and `dropBytes` are total and stop at the last
character boundary that fits. `slice?` is exact and refuses a range that is
reversed, out of bounds or not on character boundaries.

`takeBytes_append_dropBytes` says a cut loses nothing, and `join_splitAt` says the
same of cutting a text at a separator.
-/

namespace Highlighter

/-- A text, as its characters. -/
abbrev Text := List Char

namespace Text

/-- The text of some bytes, if they are the UTF-8 form of one. -/
def ofBytes? (bytes : ByteArray) : Option Text := (String.fromUTF8? bytes).map String.toList

/-! ## Size and cuts -/

/-- The number of bytes of the UTF-8 form. -/
def size : Text → Nat
  | [] => 0
  | c :: rest => c.utf8Size + size rest

/-- The characters that lie wholly in the first `n` bytes. -/
def takeBytes : Nat → Text → Text
  | _, [] => []
  | n, c :: rest => if c.utf8Size ≤ n then c :: takeBytes (n - c.utf8Size) rest else []

/-- What `takeBytes` leaves. -/
def dropBytes : Nat → Text → Text
  | _, [] => []
  | n, c :: rest => if c.utf8Size ≤ n then dropBytes (n - c.utf8Size) rest else c :: rest

/-- The characters of the first `n` bytes, if `n` is a character boundary. -/
def takeExact? : Nat → Text → Option Text
  | 0, _ => some []
  | _ + 1, [] => none
  | n + 1, c :: rest =>
      if c.utf8Size ≤ n + 1 then (takeExact? (n + 1 - c.utf8Size) rest).map (c :: ·) else none

/-- The text after the first `n` bytes, if `n` is a character boundary. -/
def dropExact? : Nat → Text → Option Text
  | 0, t => some t
  | _ + 1, [] => none
  | n + 1, c :: rest => if c.utf8Size ≤ n + 1 then dropExact? (n + 1 - c.utf8Size) rest else none

/-- The text between two byte positions, if they are ordered character boundaries. -/
def slice? (start stop : Nat) (t : Text) : Option Text :=
  if stop < start then none else (dropExact? start t).bind (takeExact? (stop - start))

theorem takeBytes_append_dropBytes (n : Nat) (t : Text) : takeBytes n t ++ dropBytes n t = t := by
  induction t generalizing n with
  | nil => rfl
  | cons c rest ih =>
    by_cases h : c.utf8Size ≤ n
    · simp [takeBytes, dropBytes, h, ih]
    · simp [takeBytes, dropBytes, h]

theorem size_append (s t : Text) : size (s ++ t) = size s + size t := by
  induction s with
  | nil => simp [size]
  | cons c rest ih => simp only [List.cons_append, size, ih]; omega

/-! ## Letter case -/

/-- Equality up to the case of ASCII letters. -/
def eqIgnoreCase (s t : Text) : Bool := s.map Char.toLower == t.map Char.toLower

/-- The text with ASCII letters in lower case. -/
def asciiLower (t : Text) : Text := t.map Char.toLower

/-! ## Searching and splitting -/

/-- The text after a given beginning, if the text has it. -/
def stripStart? : Text → Text → Option Text
  | [], t => some t
  | _ :: _, [] => none
  | c :: start, d :: t => if c == d then stripStart? start t else none

/-- The text cut at every occurrence of a character, which is dropped. -/
def splitAt (sep : Char) : Text → List Text
  | [] => [[]]
  | c :: rest =>
    match splitAt sep rest with
    | [] => [[c]]
    | first :: others => if c == sep then [] :: first :: others else (c :: first) :: others

/-- The parts with a separator between neighbours. -/
def join (sep : Text) : List Text → Text
  | [] => []
  | [t] => t
  | t :: rest => t ++ sep ++ join sep rest

theorem stripStart?_eq_some_iff {start t rest : Text} :
    stripStart? start t = some rest ↔ t = start ++ rest := by
  induction start generalizing t with
  | nil => simp [stripStart?]
  | cons c start ih =>
    cases t with
    | nil => simp [stripStart?]
    | cons d t =>
      by_cases h : c = d
      · simp [stripStart?, h, ih]
      · simp [stripStart?, h, Ne.symm h]

theorem splitAt_ne_nil (sep : Char) (t : Text) : splitAt sep t ≠ [] := by
  cases t with
  | nil => simp [splitAt]
  | cons c rest =>
    rw [splitAt]
    split
    · simp
    · split <;> simp

theorem join_cons_of_ne_nil (sep t : Text) {parts : List Text} (h : parts ≠ []) :
    join sep (t :: parts) = t ++ sep ++ join sep parts := by
  cases parts with
  | nil => exact absurd rfl h
  | cons u rest => rfl

/-- Cutting a text and joining its parts gives the text back. -/
theorem join_splitAt (sep : Char) (t : Text) : join [sep] (splitAt sep t) = t := by
  induction t with
  | nil => rfl
  | cons c rest ih =>
    rw [splitAt]
    split
    · next h => exact absurd h (splitAt_ne_nil sep rest)
    · next first others h =>
      rw [h] at ih
      by_cases hc : c = sep
      · subst hc
        simp only [beq_self_eq_true, if_true]
        rw [join_cons_of_ne_nil _ _ (by simp), ih]
        rfl
      · simp only [beq_iff_eq, hc, if_false]
        cases others with
        | nil => simp only [join] at ih ⊢; rw [ih]
        | cons u more =>
          rw [join_cons_of_ne_nil _ _ (by simp)] at ih ⊢
          simp only [List.cons_append]
          rw [ih]

/-- The text with spaces added at the end up to a width in characters. -/
def padRight (width : Nat) (t : Text) : Text := t ++ List.replicate (width - t.length) ' '

/-- The character with a code, if there is one. -/
def charOf? (code : Nat) : Option Char := if code.isValidChar then some (Char.ofNat code) else none

/-- The decimal digits of a number. -/
def ofNat (n : Nat) : Text := Nat.toDigits 10 n

/-- The decimal digits of an integer, after a minus if it is negative. -/
def ofInt (n : Int) : Text := if n < 0 then '-' :: ofNat n.natAbs else ofNat n.natAbs

/-- The word for a truth value. -/
def ofBool (b : Bool) : Text := if b then "true".toList else "false".toList

end Text

end Highlighter
