import Highlighter.Number.Decimal

/-!
# YAML scalars

How a text is written as the value of a field. A text with line feeds is written as
a literal block. Another text is written as it is, unless it would then be read as
something else, and in single quotes otherwise. What neither style can hold is
written in double quotes with escapes.
-/

namespace Highlighter.Yaml

/-! ## Characters -/

/-- Whether a character may stand in a document without an escape. -/
def isPrintable (c : Char) : Bool :=
  c == '\n' || (' ' ≤ c && c ≤ '~') ||
    ('\xa0' ≤ c && c ≤ '\ufffd' && c != '\ufeff') || '\ufffd' < c && c.toNat > 0xffff

/-- Whether a character ends a line. -/
def isBreak (c : Char) : Bool :=
  c == '\n' || c == '\r' || c == '\x85' || c == '\u2028' || c == '\u2029'

/-- Whether a character ends a word. -/
def endsWord (c : Char) : Bool := c == ' ' || c == '\t' || c == '\x00' || isBreak c

/-! ## What a plain text is read as -/

/-- The words for the absent value and the truth values. -/
def words : List String := ["", "~", "null", "Null", "NULL", "true", "True", "TRUE",
  "false", "False", "FALSE"]

/-- A text without a sign at its start. -/
def unsigned (t : Text) : Text := (Decimal.sign t).2

/-- Whether a text has a sign at its start. -/
def isSigned (t : Text) : Bool := t.head?.any fun c => c == '+' || c == '-'

/-- A text without a plus at its start, unless another sign follows. -/
def dropPlus? : Text → Option Text
  | '+' :: rest => if isSigned rest then none else some rest
  | t => some t

/-- The base that the beginning of a number tells, and its digits. -/
def basedDigits? : Text → Option (Nat × Text)
  | '0' :: 'x' :: rest => some (16, rest)
  | '0' :: 'o' :: rest => some (8, rest)
  | '0' :: 'b' :: rest => some (2, rest)
  | _ => none

/-- Whether a text of digits in a base is a number of a sign that 128 bits can hold. -/
def fits (negative : Bool) (base : Nat) (digits : Text) : Bool :=
  (Digits.read? base digits).any fun n =>
    if negative then Digits.fitsSigned 128 true n else Digits.fitsUnsigned 128 n

/-- Whether a text has several digits, of which the first is zero. -/
def hasLeadingZero (t : Text) : Bool :=
  match unsigned t with
  | '0' :: c :: rest => (c :: rest).all (Digits.isDigit 10)
  | _ => false

/-- Whether a text is an integer of a sign, without the sign. -/
def isMagnitude (negative : Bool) (t : Text) : Bool :=
  (basedDigits? t).any (fun (base, digits) => fits negative base digits) || fits negative 10 t

/-- Whether a text is read as an integer. -/
def isInteger (t : Text) : Bool :=
  match t with
  | '-' :: rest => isMagnitude true rest
  | _ => (dropPlus? t).any fun rest => !isSigned rest && isMagnitude false rest

/-- The words for an infinity, without a sign. -/
def infinities : List String := [".inf", ".Inf", ".INF"]

/-- The words for what is no number. -/
def notNumbers : List String := [".nan", ".NaN", ".NAN"]

/-- Whether a text is read as a number with a fraction or an exponent. -/
def isFloat (t : Text) : Bool :=
  (dropPlus? t).any fun rest =>
    infinities.any (·.toList == unsigned t) || notNumbers.any (·.toList == t) ||
      (Decimal.read? rest).any fun d => d.toDouble.isFinite

/-- Whether a text without quotes is read as something other than a text, or looks like it. -/
def readsOtherwise (t : Text) : Bool :=
  words.any (·.toList == t) || hasLeadingZero t || isInteger t || isFloat t

/-! ## What the styles can hold -/

/-- Whether two neighbours in a text have a property. -/
def anyNeighbours (p : Char → Char → Bool) : Text → Bool
  | c :: d :: rest => p c d || anyNeighbours p (d :: rest)
  | _ => false

/-- Whether a text starts like something other than a plain text. -/
def startsOtherwise : Text → Bool
  | [] => false
  | c :: rest =>
    "#,[]\x7b\x7d&*!|>'\"%@`".toList.contains c ||
      ("-?:".toList.contains c && rest.head?.all endsWord) ||
      "---".toList.isPrefixOf (c :: rest) || "...".toList.isPrefixOf (c :: rest)

/-- Whether a text holds what ends a plain text: a colon at the end of a word, or a number sign
at the start of one. -/
def holdsIndicator (t : Text) : Bool :=
  t.getLast? == some ':' || anyNeighbours (fun c d => (c == ':' && endsWord d) ||
    (endsWord c && d == '#')) t

/-- Whether a space stands before the end of a line. -/
def spaceBeforeBreak (t : Text) : Bool := anyNeighbours (fun c d => c == ' ' && isBreak d) t

/-- Whether a space stands after the end of a line. -/
def spaceAfterBreak (t : Text) : Bool := anyNeighbours (fun c d => isBreak c && d == ' ') t

/-- Whether a text can be written as it is. -/
def plainHolds (t : Text) : Bool :=
  t.head? != some ' ' && t.getLast? != some ' ' && !t.any isBreak && t.all isPrintable &&
    !startsOtherwise t && !holdsIndicator t

/-- Whether a text can be written in single quotes. -/
def singleHolds (t : Text) : Bool :=
  t.all isPrintable && !spaceBeforeBreak t && !spaceAfterBreak t

/-- Whether a text can be written as a literal block. -/
def literalHolds (t : Text) : Bool :=
  t.all isPrintable && !spaceBeforeBreak t && t.getLast? != some ' '

/-- The ways to write a text. -/
inductive Style where
  /-- As it is. -/
  | plain
  /-- In single quotes. -/
  | single
  /-- In double quotes. -/
  | double
  /-- As a block of lines. -/
  | literal
  deriving DecidableEq, Repr

/-- The way a text is written. -/
def style (t : Text) : Style :=
  if t.contains '\n' then (if literalHolds t then .literal else .double)
  else if plainHolds t && !readsOtherwise t then .plain
  else if singleHolds t then .single
  else .double

/-! ## The styles -/

/-- The indentation of the lines of a text. -/
def indent : Text := List.replicate 4 ' '

/-- A text with its lines indented. An empty line has no indentation. -/
def indentLines (lineStart : Bool) : Text → Text
  | [] => []
  | c :: rest =>
    if isBreak c then c :: indentLines true rest
    else (if lineStart then indent else []) ++ c :: indentLines false rest

/-- Whether the last character of a text ends a line. -/
def endsLine (t : Text) : Bool := t.getLast?.any isBreak

/-- A text in single quotes. -/
def single (t : Text) : Text :=
  let quoted := t.flatMap fun c => if c == '\'' then [c, c] else [c]
  '\'' :: indentLines false quoted ++ (if endsLine t then indent else []) ++ ['\'']

/-- The hexadecimal digits of a number, in upper case and as many as are asked for. -/
def hex (width n : Nat) : Text :=
  let ds := (Nat.toDigits 16 n).map Char.toUpper
  List.replicate (width - ds.length) '0' ++ ds

/-- The letters of the short escapes. -/
def shortEscapes : List (Char × Char) := [
  ('\x00', '0'), ('\x07', 'a'), ('\x08', 'b'), ('\t', 't'), ('\n', 'n'), ('\x0b', 'v'),
  ('\x0c', 'f'), ('\r', 'r'), ('\x1b', 'e'), ('"', '"'), ('\\', '\\'), ('\x85', 'N'),
  ('\u2028', 'L'), ('\u2029', 'P')]

/-- A character in double quotes. -/
def escape (c : Char) : Text :=
  match shortEscapes.lookup c with
  | some letter => ['\\', letter]
  | none =>
    if isPrintable c then [c]
    else if c.toNat ≤ 0xff then '\\' :: 'x' :: hex 2 c.toNat
    else if c.toNat ≤ 0xffff then '\\' :: 'u' :: hex 4 c.toNat
    else '\\' :: 'U' :: hex 8 c.toNat

/-- A text in double quotes. -/
def double (t : Text) : Text := '"' :: t.flatMap escape ++ ['"']

/-- What tells how the lines at the end of a block count: a minus if the text does not end a
line, and a plus if it ends in an empty line. -/
def endMark (t : Text) : Text :=
  match t.reverse with
  | [] => ['-']
  | c :: before =>
    if !isBreak c then ['-']
    else if before.head?.all isBreak then ['+'] else []

/-- The indentation of a block, where its first line does not show it. -/
def indentMark (t : Text) : Text :=
  if t.head?.any fun c => c == ' ' || isBreak c then ['2'] else []

/-- A text as a literal block, up to the end of its last line. -/
def literal (t : Text) : Text :=
  '|' :: indentMark t ++ endMark t ++ '\n' :: indentLines true t ++
    (if endsLine t then [] else ['\n'])

/-- A text as the value of a field, up to the end of its last line. -/
def scalar (t : Text) : Text :=
  match style t with
  | .plain => t ++ ['\n']
  | .single => single t ++ ['\n']
  | .double => double t ++ ['\n']
  | .literal => literal t

end Highlighter.Yaml
