import Highlighter.Number.Decimal
import Highlighter.Toml.Reader
import Highlighter.Toml.Value

/-!
# TOML texts, numbers and dates

The values without parts. A text is in one or three quotes of either kind; in double
quotes a backslash starts an escape. Digits may be grouped by single underscores.
A date or a time must exist, and is kept in one form: a `T` between date and time,
no zeros at the end of a fraction, and nine digits of it at most.
-/

namespace Highlighter.Toml

open Reader

/-! ## Texts -/

/-- A number of hexadecimal digits that is the code of a character. -/
def readCode (width : Nat) : Reader Char := fun t =>
  let digits := t.take width
  if digits.length = width then do
    let n ← orStop t (Digits.read? 16 digits)
    let c ← orStop t (Text.charOf? n)
    return (c, t.drop width)
  else stop t

/-- The character of an escape of one letter. -/
def shortEscape? (c : Char) : Option Char :=
  [('b', '\x08'), ('t', '\t'), ('n', '\n'), ('f', '\x0c'), ('r', '\r'), ('"', '"'),
    ('\\', '\\')].lookup c

/-- An escape after its backslash. -/
def readEscape : Reader Char
  | 'u' :: rest => readCode 4 rest
  | 'U' :: rest => readCode 8 rest
  | letter :: rest =>
    match shortEscape? letter with
    | some c => .ok (c, rest)
    | none => stop (letter :: rest)
  | [] => stop []

/-- A text on one line, after its opening quote. -/
def readLine (quote : Char) (escapes : Bool) : Nat → Reader Text
  | 0, t => stop t
  | fuel + 1, t =>
    match t with
    | [] => stop []
    | c :: rest =>
      if c == quote then .ok ([], rest)
      else if escapes && c == '\\' then do
        let (c, rest) ← readEscape rest
        let (s, rest) ← readLine quote escapes fuel rest
        return (c :: s, rest)
      else if isPrintable c then do
        let (s, rest) ← readLine quote escapes fuel rest
        return (c :: s, rest)
      else stop t

/-- A text without blanks and line ends at its start. -/
def skipSpace : Text → Text
  | '\r' :: '\n' :: rest => skipSpace rest
  | c :: rest => if isBlank c || c == '\n' then skipSpace rest else c :: rest
  | [] => []

/-- The text after a backslash at the end of a line, and after the blanks and line ends that
follow it; nothing if the line goes on. -/
def continued? (t : Text) : Option Text := (lineEnd? (skipBlanks t)).map skipSpace

/-- A text on several lines, after its three opening quotes. Before the three quotes that close it
stand up to two that belong to it. -/
def readBlock (quote : Char) (escapes : Bool) : Nat → Reader Text
  | 0, t => stop t
  | fuel + 1, t =>
    match t with
    | [] => stop []
    | c :: rest =>
      if c == quote then
        let run := (t.takeWhile (· == quote)).length
        if 3 ≤ run then .ok (List.replicate (min run 5 - 3) quote, t.drop (min run 5))
        else do
          let (s, rest) ← readBlock quote escapes fuel rest
          return (c :: s, rest)
      else if escapes && c == '\\' then
        match continued? rest with
        | some rest => readBlock quote escapes fuel rest
        | none => do
          let (c, rest) ← readEscape rest
          let (s, rest) ← readBlock quote escapes fuel rest
          return (c :: s, rest)
      else if isPrintable c then do
        let (s, rest) ← readBlock quote escapes fuel rest
        return (c :: s, rest)
      else do
        let rest ← orStop t (lineEnd? t)
        let (s, rest) ← readBlock quote escapes fuel rest
        return ('\n' :: s, rest)

/-- A text in quotes, after its first quote. -/
def readText (quote : Char) (t : Text) : Except Text (Text × Text) :=
  let escapes := quote == '"'
  match Text.stripStart? [quote, quote] t with
  | some rest =>
    let rest := (lineEnd? rest).getD rest
    readBlock quote escapes (rest.length + 1) rest
  | none => readLine quote escapes (t.length + 1) t

/-! ## Numbers -/

/-- Digits in a base, with single underscores between them that are dropped, and the rest. Nothing
if there is no digit, or none after an underscore. -/
def readDigits (base : Nat) : Reader Text
  | [] => stop []
  | [c] => if Digits.isDigit base c then .ok ([c], []) else stop [c]
  | c :: d :: rest =>
    if !Digits.isDigit base c then stop (c :: d :: rest)
    else if d == '_' then do
      let (ds, rest) ← readDigits base rest
      return (c :: ds, rest)
    else if Digits.isDigit base d then do
      let (ds, rest) ← readDigits base (d :: rest)
      return (c :: ds, rest)
    else .ok ([c], d :: rest)

/-- The digits of an integer without a zero in front, except for zero itself. -/
def readWhole : Reader Text
  | '0' :: rest => .ok (['0'], rest)
  | t => readDigits 10 t

/-- A fraction, if there is one. -/
def readFraction : Reader (Option Text)
  | '.' :: rest => do
    let (ds, rest) ← readDigits 10 rest
    return (some ds, rest)
  | t => .ok (none, t)

/-- An exponent, if there is one. -/
def readExponent : Reader (Option Int)
  | [] => .ok (none, [])
  | c :: rest =>
    if c == 'e' || c == 'E' then do
      let (negative, rest) := Decimal.sign rest
      let (ds, rest) ← readDigits 10 rest
      let n : Int := Digits.extend 10 0 ds
      return (some (if negative then -n else n), rest)
    else .ok (none, c :: rest)

/-- An integer of 64 bits. -/
def integer? (negative : Bool) (base : Nat) (digits : Text) : Option Value :=
  let n := Digits.extend base 0 digits
  if Digits.fitsSigned 64 negative n then
    some (.integer (if negative then -(n : Int) else n))
  else none

/-- A double, if it is not above all of them. -/
def float? (d : Decimal) : Option Value :=
  if d.toDouble == .infinite false then none else some (.float d.toDouble)

/-- A number after its sign. -/
def readUnsigned (negative : Bool) : Reader Value := fun t =>
  match Text.stripStart? "inf".toList t, Text.stripStart? "nan".toList t with
  | some rest, _ => .ok (.float (.infinite negative), rest)
  | _, some rest => .ok (.float .nan, rest)
  | none, none => do
    let (whole, rest) ← readWhole t
    let (part, rest) ← readFraction rest
    let (exponent, rest) ← readExponent rest
    let v ←
      if part.isNone && exponent.isNone then orStop t (integer? negative 10 whole)
      else
        let part := part.getD []
        orStop t (float? ⟨negative, Digits.extend 10 0 (whole ++ part),
          exponent.getD 0 - part.length⟩)
    return (v, rest)

/-- The base of a number that tells it, and its digits. -/
def basedDigits? : Text → Option (Nat × Text)
  | '0' :: 'x' :: rest => some (16, rest)
  | '0' :: 'o' :: rest => some (8, rest)
  | '0' :: 'b' :: rest => some (2, rest)
  | _ => none

/-- A number. -/
def readNumber : Reader Value := fun t =>
  match basedDigits? t with
  | some (base, rest) => do
    let (ds, rest) ← readDigits base rest
    let v ← orStop t (integer? false base ds)
    return (v, rest)
  | none =>
    let (negative, rest) := Decimal.sign t
    readUnsigned negative rest

/-! ## Dates and times -/

/-- A number of a fixed count of digits within bounds, and the rest. -/
def fixed? (count low high : Nat) (t : Text) : Option (Nat × Text) := do
  let digits := t.take count
  if digits.length = count then
    let n ← Digits.read? 10 digits
    if low ≤ n ∧ n ≤ high then some (n, t.drop count) else none
  else none

/-- The text after a character, if a text starts with it. -/
def after? (c : Char) (t : Text) : Option Text := Text.stripStart? [c] t

/-- The number of days of a month. -/
def daysIn (year month : Nat) : Nat :=
  if month = 2 then
    if year % 4 = 0 ∧ (year % 100 ≠ 0 ∨ year % 400 = 0) then 29 else 28
  else if month = 4 ∨ month = 6 ∨ month = 9 ∨ month = 11 then 30
  else 31

/-- A number with zeros in front up to a width. -/
def padded (width n : Nat) : Text :=
  let ds := Text.ofNat n
  List.replicate (width - ds.length) '0' ++ ds

/-- A date, and the rest. -/
def date? (t : Text) : Option (Text × Text) := do
  let (year, t) ← fixed? 4 0 9999 t
  let t ← after? '-' t
  let (month, t) ← fixed? 2 1 12 t
  let t ← after? '-' t
  let (day, t) ← fixed? 2 1 (daysIn year month) t
  return (padded 4 year ++ '-' :: padded 2 month ++ '-' :: padded 2 day, t)

/-- The fraction of a second, and the rest. Of the digits nine count, and zeros at the end do
not. -/
def secondPart? (t : Text) : Option (Text × Text) :=
  match t with
  | '.' :: rest =>
    let (digits, rest) := rest.span (Digits.isDigit 10)
    let kept := ((digits.take 9).reverse.dropWhile (· == '0')).reverse
    if digits.isEmpty then none else some (if kept.isEmpty then [] else '.' :: kept, rest)
  | _ => some ([], t)

/-- A time of day, and the rest. -/
def time? (t : Text) : Option (Text × Text) := do
  let (hour, t) ← fixed? 2 0 23 t
  let t ← after? ':' t
  let (minute, t) ← fixed? 2 0 59 t
  let t ← after? ':' t
  let (second, t) ← fixed? 2 0 60 t
  let (part, t) ← secondPart? t
  return (padded 2 hour ++ ':' :: padded 2 minute ++ ':' :: padded 2 second ++ part, t)

/-- The distance from universal time, and the rest. It may be missing. -/
def offset? (t : Text) : Option (Text × Text) :=
  match t with
  | [] => some ([], [])
  | c :: rest =>
    if c == 'Z' || c == 'z' then some (['Z'], rest)
    else if c == '+' || c == '-' then do
      let (hour, rest) ← fixed? 2 0 23 rest
      let rest ← after? ':' rest
      let (minute, rest) ← fixed? 2 0 59 rest
      let sign := if hour = 0 ∧ minute = 0 then '+' else c
      return (sign :: padded 2 hour ++ ':' :: padded 2 minute, rest)
    else some ([], t)

/-- What follows a date: a time, and the distance from universal time. -/
def timeOfDate? (t : Text) : Option (Text × Text) :=
  match t with
  | [] => none
  | c :: rest =>
    if c == 'T' || c == 't' || c == ' ' then do
      let (time, rest) ← time? rest
      let (offset, rest) ← offset? rest
      return ('T' :: time ++ offset, rest)
    else none

/-- A date, a time, or both, and the rest. -/
def datetime? (t : Text) : Option (Value × Text) :=
  match date? t with
  | some (date, rest) =>
    match timeOfDate? rest with
    | some (time, rest) => some (.datetime (date ++ time), rest)
    | none => some (.datetime date, rest)
  | none => (time? t).map fun (time, rest) => (.datetime time, rest)

/-- A date, a time or a number. -/
def readQuantity : Reader Value := fun t =>
  match datetime? t with
  | some (v, rest) => .ok (v, rest)
  | none => readNumber t

end Highlighter.Toml
