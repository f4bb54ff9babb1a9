import Highlighter.Number.Digits
import Highlighter.Regex.Basic
import Highlighter.Regex.PropertyValue

/-!
# Escapes

What a backslash starts: a character by itself or by its code, a set of
characters, or a test of the place. Where blanks are ignored they may stand
between the parts of an escape.
-/

namespace Highlighter

/-- The flags in force at a point of a regular expression. -/
structure Flags where
  /-- Letters match in either case. -/
  ignoreCase : Bool := false
  /-- `^` and `$` match at lines. -/
  multiLine : Bool := true
  /-- `.` matches the line end. -/
  dotAll : Bool := false
  /-- Greedy and lazy repetitions change places. -/
  swapGreed : Bool := false
  /-- Sets and word edges go beyond ASCII. -/
  unicode : Bool := true
  /-- Lines end with `\r`, `\n` or both. -/
  anyLineEnd : Bool := false
  /-- Blanks and comments are ignored. -/
  extended : Bool := false
  deriving DecidableEq, Repr

namespace Regex

/-! ## Blanks -/

/-- The text after blanks and comments, starting inside a comment or not. -/
def skipBlanks : (inComment : Bool) → Text → Text
  | _, [] => []
  | true, c :: rest => skipBlanks (c != '\n') rest
  | false, c :: rest =>
      if isBlank c then skipBlanks false rest
      else if c == '#' then skipBlanks true rest
      else c :: rest

/-- The text after what the flags let one ignore. -/
def gap (flags : Flags) (t : Text) : Text := if flags.extended then skipBlanks false t else t

/-! ## Numbers -/

/-- A given number of hexadecimal digits. -/
def readHexDigits (flags : Flags) : Nat → Nat → Text → Option (Nat × Text)
  | 0, value, t => some (value, t)
  | _ + 1, _, [] => none
  | n + 1, value, c :: rest =>
    match Digits.hexValue? c with
    | none => none
    | some d => readHexDigits flags n (value * 16 + d) (gap flags rest)

/-- The text up to a closing brace, without what may be ignored, and the text after the brace. -/
def readBraced (flags : Flags) : Nat → Text → Text → Option (Text × Text)
  | 0, _, _ => none
  | fuel + 1, read, t =>
    match gap flags t with
    | [] => none
    | '}' :: rest => some (read.reverse, rest)
    | c :: rest => readBraced flags fuel (c :: read) rest

/-! ## Escapes -/

/-- What an escape stands for. -/
inductive Escaped where
  /-- A character. -/
  | char (c : Char)
  /-- A character by a code of two digits. -/
  | byte (c : Char)
  /-- A set of characters. -/
  | set (s : CharSet)
  /-- A test of the place. -/
  | check (a : Assertion)
  deriving DecidableEq, Repr

/-- The characters with a meaning of their own in a regular expression. -/
def metaChars : List Char :=
  ['\\', '.', '+', '*', '?', '(', ')', '|', '[', ']', '\x7b', '\x7d', '^', '$', '#', '&', '-', '~']

/-- Whether a backslash before a character only takes its meaning away. -/
def escapable (c : Char) : Bool :=
  metaChars.contains c || (c.toNat < 128 && !(c.isAlphanum || c == '<' || c == '>'))

/-- A character by its code, after the letter of the escape. -/
def readCode (flags : Flags) (digits : Nat) (t : Text) : Option (Escaped × Text) :=
  match gap flags t with
  | [] => none
  | '\x7b' :: rest =>
    match readBraced flags (rest.length + 1) [] rest with
    | none => none
    | some (code, rest) =>
      ((Digits.read? 16 code).bind Text.charOf?).map fun c => (.char c, gap flags rest)
  | t =>
    match readHexDigits flags digits 0 t with
    | none => none
    | some (n, rest) =>
      (Text.charOf? n).map fun c => (if digits = 2 then .byte c else .char c, rest)

/-- The parts of a text before and after the first place where another text stands. -/
def cutAt? (mark : Text) : Text → Option (Text × Text)
  | [] => if mark.isEmpty then some ([], []) else none
  | c :: rest =>
    match Text.stripStart? mark (c :: rest) with
    | some after => some ([], after)
    | none => (cutAt? mark rest).map fun (before, after) => (c :: before, after)

/-- The set that the text in the braces of a property escape names, and whether its
complement is meant. -/
def namedSet? (name : Text) : Option (Bool × CharSet) :=
  match cutAt? "!=".toList name with
  | some (property, value) => (Property.findValue? property value).map (true, ·)
  | none =>
    match cutAt? [':'] name with
    | some (property, value) => (Property.findValue? property value).map (false, ·)
    | none =>
      match cutAt? ['='] name with
      | some (property, value) => (Property.findValue? property value).map (false, ·)
      | none => (Property.find? name).map (false, ·)

/-- The set closed under the case rule that the flags ask for. -/
def foldCase (flags : Flags) (s : CharSet) : CharSet :=
  if flags.ignoreCase then (if flags.unicode then .anyCase s else .anyAsciiCase s) else s

/-- The complement of a set, if asked for. -/
def complementIf (negated : Bool) (s : CharSet) : CharSet := if negated then .complement s else s

/-- A property escape, after its letter. Case is folded before the complement is taken. -/
def readProperty (flags : Flags) (negated : Bool) (t : Text) : Option (Escaped × Text) :=
  if !flags.unicode then none
  else
    match gap flags t with
    | [] => none
    | '\x7b' :: rest =>
      match readBraced flags (rest.length + 1) [] rest with
      | none => none
      | some (name, rest) =>
        (namedSet? name).map fun (other, s) =>
          (.set (complementIf (negated != other) (foldCase flags s)), rest)
    | c :: rest =>
      if c == '\\' then none
      else
        (Property.find? [c]).map fun s =>
          (.set (complementIf negated (foldCase flags s)), gap flags rest)

/-- The test of a word edge under some flags. -/
def wordCheck (flags : Flags) (edge : WordEdge) : Assertion :=
  .word edge (if flags.unicode then .word else .asciiWord)

/-- The letters and hyphens at the start of a text, without what may be ignored. -/
def readEdgeName (flags : Flags) : Nat → Text → Text → Text × Text
  | 0, read, t => (read.reverse, t)
  | fuel + 1, read, t =>
    match t with
    | c :: rest =>
      if c.isAlpha || c == '-' then readEdgeName flags fuel (c :: read) (gap flags rest)
      else (read.reverse, t)
    | [] => (read.reverse, [])

/-- The edge of a word with a name. -/
def wordEdge? (name : Text) : Option WordEdge :=
  if name == "start".toList then some .start
  else if name == "end".toList then some .stop
  else if name == "start-half".toList then some .halfStart
  else if name == "end-half".toList then some .halfStop
  else none

/-- The word edge that `\b` starts. A brace after it that no letter follows is left alone. -/
def readWordEdge (flags : Flags) (t : Text) : Option (Escaped × Text) :=
  let plain := some (.check (wordCheck flags .either), t)
  match t with
  | '\x7b' :: rest =>
    match gap flags rest with
    | [] => none
    | c :: more =>
      if c.isAlpha || c == '-' then
        match readEdgeName flags (more.length + 1) [] (c :: more) with
        | (name, '\x7d' :: rest) => (wordEdge? name).map fun e => (.check (wordCheck flags e), rest)
        | _ => none
      else plain
  | _ => plain

/-- A set of ASCII characters or its counterpart beyond, negated or not. A negated set of
bytes would hold parts of characters, so it is refused. -/
def shorthand (flags : Flags) (negated : Bool) (wide narrow : CharSet) : Option Escaped :=
  if flags.unicode then some (.set (complementIf negated wide))
  else if negated then none
  else some (.set narrow)

/-- An escape, after the backslash. -/
def readEscape (flags : Flags) : Text → Option (Escaped × Text)
  | [] => none
  | c :: rest =>
    let set (negated : Bool) (wide narrow : CharSet) : Option (Escaped × Text) :=
      (shorthand flags negated wide narrow).map fun e => (e, rest)
    match c with
    | 'x' => readCode flags 2 rest
    | 'u' => readCode flags 4 rest
    | 'U' => readCode flags 8 rest
    | 'p' => readProperty flags false rest
    | 'P' => readProperty flags true rest
    | 'd' => set false .digit .asciiDigit
    | 'D' => set true .digit .asciiDigit
    | 's' => set false .space .asciiSpace
    | 'S' => set true .space .asciiSpace
    | 'w' => set false .word .asciiWord
    | 'W' => set true .word .asciiWord
    | 'a' => some (.char '\x07', rest)
    | 'f' => some (.char '\x0c', rest)
    | 't' => some (.char '\t', rest)
    | 'n' => some (.char '\n', rest)
    | 'r' => some (.char '\r', rest)
    | 'v' => some (.char '\x0b', rest)
    | 'A' => some (.check .textStart, rest)
    | 'z' => some (.check .textEnd, rest)
    | 'b' => readWordEdge flags rest
    | 'B' => some (.check (wordCheck flags .neither), rest)
    | '<' => some (.check (wordCheck flags .start), rest)
    | '>' => some (.check (wordCheck flags .stop), rest)
    | c => if escapable c then some (.char c, rest) else none

end Regex

end Highlighter
