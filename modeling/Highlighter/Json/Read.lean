import Highlighter.Number.Decimal

/-!
# Reading JSON

The parts of a JSON document, each read from the front of a text: blanks, quoted
strings with their escapes, words and numbers. A reader gives what it read and the
rest of the text, and gives nothing if the text does not start as it should.
-/

namespace Highlighter.Json

/-- Whether a character may stand between the parts of a document. -/
def isBlank (c : Char) : Bool := c == ' ' || c == '\n' || c == '\t' || c == '\r'

/-- A text without blanks at its start. -/
def skipBlanks (t : Text) : Text := t.dropWhile isBlank

/-! ## Strings -/

/-- The character of an escape of one letter. -/
def shortEscape? (c : Char) : Option Char :=
  [('"', '"'), ('\\', '\\'), ('/', '/'), ('b', '\x08'), ('f', '\x0c'), ('n', '\n'), ('r', '\r'),
    ('t', '\t')].lookup c

/-- Whether a code unit is the first of a pair. -/
def isLeading (unit : Nat) : Bool := decide (0xd800 ≤ unit ∧ unit < 0xdc00)

/-- Whether a code unit is the second of a pair. -/
def isTrailing (unit : Nat) : Bool := decide (0xdc00 ≤ unit ∧ unit < 0xe000)

/-- The character of a pair of code units. -/
def pair? (leading trailing : Nat) : Option Char :=
  if isTrailing trailing then
    Text.charOf? (0x10000 + (leading - 0xd800) * 0x400 + (trailing - 0xdc00))
  else none

/-- A string after its opening quote, and the text after its closing quote. -/
def readString : Text → Option (Text × Text)
  | [] => none
  | '"' :: rest => some ([], rest)
  | '\\' :: 'u' :: a :: b :: c :: d :: rest =>
    match Digits.read? 16 [a, b, c, d] with
    | none => none
    | some unit =>
      if isLeading unit then
        match rest with
        | '\\' :: 'u' :: e :: f :: g :: h :: rest =>
          match (Digits.read? 16 [e, f, g, h]).bind (pair? unit) with
          | none => none
          | some char => (readString rest).map fun (t, rest) => (char :: t, rest)
        | _ => none
      else
        match Text.charOf? unit with
        | none => none
        | some char => (readString rest).map fun (t, rest) => (char :: t, rest)
  | '\\' :: letter :: rest =>
    match shortEscape? letter with
    | none => none
    | some char => (readString rest).map fun (t, rest) => (char :: t, rest)
  | char :: rest =>
    if char.toNat < 32 || char == '\\' then none
    else (readString rest).map fun (t, rest) => (char :: t, rest)

/-! ## Numbers -/

/-- A number as it is kept: an integer of 64 bits, or else a double. -/
inductive Number where
  /-- An integer. -/
  | integer (n : Int)
  /-- A double. -/
  | double (d : Double)
  deriving DecidableEq, Repr

/-- The text that a mark introduces, with at least one digit, and the rest; nothing without the
mark. -/
def readFraction? : Text → Option (Text × Text)
  | '.' :: rest =>
    let (digits, rest) := rest.span (Digits.isDigit 10)
    if digits.isEmpty then none else some (digits, rest)
  | t => some ([], t)

/-- An exponent, and the rest; nothing is the exponent zero. -/
def readExponent? : Text → Option (Option Int × Text)
  | [] => some (none, [])
  | c :: rest =>
    if c == 'e' || c == 'E' then
      let (negative, rest) := Decimal.sign rest
      let (digits, rest) := rest.span (Digits.isDigit 10)
      (Digits.read? 10 digits).map fun n => (some (if negative then -(n : Int) else n), rest)
    else some (none, c :: rest)

/-- The number with a sign, digits before and after the point, and an exponent. It is an integer
if it is written as one and fits. -/
def number? (negative : Bool) (whole part : Text) (exponent : Option Int) : Option Number :=
  let n := Digits.extend 10 0 whole
  let fits :=
    if negative then n != 0 && Digits.fitsSigned 64 true n else Digits.fitsUnsigned 64 n
  if part.isEmpty && exponent.isNone && fits then
    some (.integer (if negative then -(n : Int) else n))
  else
    let d : Decimal :=
      ⟨negative, Digits.extend 10 0 (whole ++ part), exponent.getD 0 - part.length⟩
    if d.toDouble.isFinite then some (.double d.toDouble) else none

/-- A number, and the rest. -/
def readNumber? (t : Text) : Option (Number × Text) :=
  let (negative, t) :=
    match t with
    | '-' :: rest => (true, rest)
    | _ => (false, t)
  let (whole, t) := t.span (Digits.isDigit 10)
  if whole.isEmpty || (whole.head? == some '0' && whole.length ≠ 1) then none
  else do
    let (part, t) ← readFraction? t
    let (exponent, t) ← readExponent? t
    let n ← number? negative whole part exponent
    return (n, t)

end Highlighter.Json
