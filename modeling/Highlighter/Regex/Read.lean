import Highlighter.Regex.Bracket

/-!
# Reading regular expressions

`Regex.read?` reads a whole text as a regular expression. Flags set inside a group
hold up to the end of that group, beyond any `|`. Groups are numbered in the order
of their opening parentheses.

What is read keeps the form of the text: each construct that can be nested has a
constructor of its own, and flags are a part that matches the empty text.
-/

namespace Highlighter.Regex

/-! ## Flags -/

/-- One flag set to a value, by its letter. -/
def setFlag? (flags : Flags) (value : Bool) (letter : Char) : Option Flags :=
  match letter with
  | 'i' => some { flags with ignoreCase := value }
  | 'm' => some { flags with multiLine := value }
  | 's' => some { flags with dotAll := value }
  | 'U' => some { flags with swapGreed := value }
  | 'u' => some { flags with unicode := value }
  | 'R' => some { flags with anyLineEnd := value }
  | 'x' => some { flags with extended := value }
  | _ => none

/-- The flags of a group up to its `:` or `)`, each letter and the hyphen at most once, the
hyphen not last. -/
def readFlags (flags : Flags) (seen : List Char) : Text → Option (Flags × Text)
  | [] => none
  | c :: rest =>
      if c == ':' || c == ')' then
        if seen.head? == some '-' then none else some (flags, c :: rest)
      else if seen.contains c then none
      else if c == '-' then readFlags flags (c :: seen) rest
      else
        match setFlag? flags (!seen.contains '-') c with
        | none => none
        | some flags => readFlags flags (c :: seen) rest

/-! ## Repetitions -/

/-- A repetition of an expression. What never consumes is repeated at most once. -/
def repetition (min : Nat) (max : Option Nat) (greedy : Bool) (r : Regex) : Regex :=
  if r.neverConsumes then
    .times (if min = 0 then 0 else 1) (if max = some 0 then some 0 else some 1) greedy r
  else .times min max greedy r

/-- The greatest number a bound may be. -/
def maxBound : Nat := 4294967295

/-- The digits at the start of a text, without what may be ignored between them. -/
def readDigits (flags : Flags) : Nat → Text → Text → Text × Text
  | 0, read, t => (read.reverse, t)
  | _ + 1, read, [] => (read.reverse, [])
  | fuel + 1, read, c :: rest =>
      if c.isDigit then readDigits flags fuel (c :: read) (gap flags rest)
      else (read.reverse, c :: rest)

/-- A bound of a repetition. Blanks around it are ignored. -/
def readBound (flags : Flags) (t : Text) : Option (Nat × Text) :=
  let t := t.dropWhile isBlank
  match readDigits flags (t.length + 1) [] t with
  | ([], _) => none
  | (digits, rest) =>
    let n := digits.foldl (fun n c => 10 * n + (c.toNat - '0'.toNat)) 0
    if n ≤ maxBound then some (n, gap flags (rest.dropWhile isBlank)) else none

/-- The bounds of a repetition, after its opening brace and up to the text after the
closing one. -/
def readBounds (flags : Flags) (t : Text) : Option (Nat × Option Nat × Text) :=
  match readBound flags (gap flags t) with
  | none => none
  | some (min, '\x7d' :: rest) => some (min, some min, rest)
  | some (min, ',' :: rest) =>
    match gap flags rest with
    | '\x7d' :: rest => some (min, none, rest)
    | rest =>
      match readBound flags rest with
      | some (max, '\x7d' :: rest) => if min ≤ max then some (min, some max, rest) else none
      | _ => none
  | _ => none

/-- Whether a repetition is lazy, and the text after what says so. -/
def readLazy : Text → Bool × Text
  | '?' :: rest => (true, rest)
  | t => (false, t)

/-! ## Groups -/

/-- Whether a character may stand in the name of a group. -/
def nameChar (first : Bool) (c : Char) : Bool :=
  let alphabetic := Property.alphabetic.holds c
  if first then c == '_' || alphabetic
  else
    c == '_' || c == '.' || c == '[' || c == ']' || alphabetic ||
      (Property.unionOf [Unicode.Category.decimalNumber, Unicode.Category.letterNumber,
        Unicode.Category.otherNumber]).holds c

/-- The name of a group and the text after its `>`. -/
def readName (read : Text) : Text → Option (Text × Text)
  | [] => none
  | c :: rest =>
      if c == '>' then (if read.isEmpty then none else some (read.reverse, rest))
      else if nameChar read.isEmpty c then readName (c :: read) rest
      else none

/-- How a group opens. -/
inductive Opening where
  /-- A captured group. -/
  | capture
  /-- A captured group with a name. -/
  | named (name : Text)
  /-- A group that is not captured, with the flags inside it. -/
  | scope (flags : Flags)
  /-- No group, but flags for the rest of the enclosing one. -/
  | flags (flags : Flags)
  deriving DecidableEq, Repr

/-- The opening of a group, after its `(`. -/
def readOpening (flags : Flags) (t : Text) : Option (Opening × Text) :=
  match gap flags t with
  | '?' :: 'P' :: '<' :: rest => (readName [] rest).map fun (name, rest) => (.named name, rest)
  | '?' :: '<' :: '=' :: _ => none
  | '?' :: '<' :: '!' :: _ => none
  | '?' :: '<' :: rest => (readName [] rest).map fun (name, rest) => (.named name, rest)
  | '?' :: rest =>
    match readFlags flags [] rest with
    | some (inner, ':' :: after) => some (.scope inner, after)
    | some (inner, ')' :: after) =>
        if rest.head? == some ')' then none else some (.flags inner, after)
    | _ => none
  | t => some (.capture, t)

/-! ## Expressions -/

/-- The state of the reading: what is left, the flags in force, and the groups so far. -/
structure Reading where
  /-- The text that is left. -/
  rest : Text
  /-- The flags in force. -/
  flags : Flags
  /-- The number of groups opened so far. -/
  groups : Nat
  /-- The names of groups so far. -/
  names : List Text
  deriving DecidableEq, Repr

/-- The parts read so far at one level: those of the current sequence, latest first, where
flags are nothing, and the finished alternatives, latest first. -/
structure Level where
  /-- The parts of the current sequence. -/
  parts : List (Option Regex)
  /-- The alternatives before it. -/
  before : List Regex
  deriving DecidableEq, Repr

/-- The sequence of some parts. -/
def sequence : List Regex → Regex
  | [] => .empty
  | [r] => r
  | r :: rest => .seq r (sequence rest)

/-- The choice between some expressions. -/
def alternatives : List Regex → Regex
  | [] => .empty
  | [r] => r
  | r :: rest => .alt r (alternatives rest)

/-- The sequence read last. -/
def Level.current (level : Level) : Regex := sequence (level.parts.reverse.map (·.getD .empty))

/-- The expression of a level. -/
def Level.close (level : Level) : Regex := alternatives (level.before.reverse ++ [level.current])

/-- The level with one more part. -/
def Level.add (level : Level) (r : Regex) : Level :=
  { level with parts := some r :: level.parts }

/-- The level with its last part repeated, unless it has none or flags stand there. -/
def Level.repeatLast? (level : Level) (f : Regex → Regex) : Option Level :=
  match level.parts with
  | some r :: rest => some { level with parts := some (f r) :: rest }
  | _ => none

/-- A character as an expression. -/
def literal (flags : Flags) (c : Char) : Regex :=
  if flags.ignoreCase then
    if flags.unicode then
      if (Unicode.caseVariants c).length ≤ 1 then .one (.only c) else .one (.anyCase (.only c))
    else if c.isAlpha then .one (.anyAsciiCase (.only c))
    else .one (.only c)
  else .one (.only c)

/-- What `.` stands for. Without Unicode it would hold parts of characters. -/
def anyChar? (flags : Flags) : Option Regex :=
  if !flags.unicode then none
  else if flags.dotAll then some (.one .all)
  else if flags.anyLineEnd then
    some (.one (.complement (.union (.only '\r') (.only '\n'))))
  else some (.one (.complement (.only '\n')))

/-- What `^` stands for. -/
def lineStart (flags : Flags) : Regex :=
  .check (if !flags.multiLine then .textStart
    else if flags.anyLineEnd then .anyLineStart else .lineStart)

/-- What `$` stands for. -/
def lineEnd (flags : Flags) : Regex :=
  .check (if !flags.multiLine then .textEnd
    else if flags.anyLineEnd then .anyLineEnd else .lineEnd)

/-- An escape as an expression. A code above that of ASCII is no byte of a character. -/
def escaped? (flags : Flags) : Escaped → Option Regex
  | .char c => some (literal flags c)
  | .byte c => if flags.unicode || c.toNat < 128 then some (literal flags c) else none
  | .set s => some (.one s)
  | .check a => some (.check a)

/-- One part of a sequence that is no group, at a character that is none of `()|?*+` and no
opening brace. -/
def readPart (flags : Flags) : Text → Option (Regex × Text)
  | [] => none
  | '[' :: rest => (readBracket flags rest).map fun (s, rest) => (.bracket s.set s.depth, rest)
  | '.' :: rest => (anyChar? flags).map (·, rest)
  | '^' :: rest => some (lineStart flags, rest)
  | '$' :: rest => some (lineEnd flags, rest)
  | '\\' :: rest =>
    match readEscape flags rest with
    | none => none
    | some (e, rest) => (escaped? flags e).map (·, rest)
  | c :: rest => some (literal flags c, rest)

/-- The expression up to the end of the text or to a `)` that closes no group of it. -/
def readLevel : Nat → Level → Reading → Option (Regex × Reading)
  | 0, _, _ => none
  | fuel + 1, level, st =>
    let flags := st.flags
    let repeatLast (min : Nat) (max : Option Nat) (rest : Text) : Option (Regex × Reading) :=
      let (isLazy, rest) := readLazy rest
      match level.repeatLast? (repetition min max (isLazy == flags.swapGreed)) with
      | none => none
      | some level => readLevel fuel level { st with rest }
    let group (index : Option Nat) (inner : Flags) (names : List Text) (rest : Text) :
        Option (Regex × Reading) :=
      let groups := index.getD st.groups
      match readLevel fuel ⟨[], []⟩ { rest, flags := inner, groups, names } with
      | some (body, { rest := ')' :: rest, groups, names, .. }) =>
        let r := match index with
          | some i => .group i body
          | none => .scope body
        readLevel fuel (level.add r) { rest, flags, groups, names }
      | _ => none
    match gap flags st.rest with
    | [] => some (level.close, { st with rest := [] })
    | ')' :: rest => some (level.close, { st with rest := ')' :: rest })
    | '|' :: rest =>
        readLevel fuel ⟨[], level.current :: level.before⟩ { st with rest }
    | '(' :: rest =>
      match readOpening flags rest with
      | none => none
      | some (.flags inner, rest) =>
          readLevel fuel { level with parts := none :: level.parts }
            { st with rest, flags := inner }
      | some (.scope inner, rest) => group none inner st.names rest
      | some (.capture, rest) => group (some (st.groups + 1)) flags st.names rest
      | some (.named name, rest) =>
          if st.names.contains name then none
          else group (some (st.groups + 1)) flags (name :: st.names) rest
    | '?' :: rest => repeatLast 0 (some 1) rest
    | '*' :: rest => repeatLast 0 none rest
    | '+' :: rest => repeatLast 1 none rest
    | '\x7b' :: rest =>
      match readBounds flags rest with
      | none => none
      | some (min, max, rest) => repeatLast min max (gap flags rest)
    | t =>
      match readPart flags t with
      | none => none
      | some (r, rest) => readLevel fuel (level.add r) { st with rest }

/-- A whole text as a regular expression. -/
def read? (flags : Flags) (t : Text) : Option Regex :=
  match readLevel (t.length + 1) ⟨[], []⟩ ⟨t, flags, 0, []⟩ with
  | some (r, { rest := [], .. }) => some r
  | _ => none

/-- The flags a rule starts with: Unicode, lines, and letter case as the rule says. -/
def ruleFlags (ignoreCase : Bool) : Flags := { ignoreCase }

end Highlighter.Regex
