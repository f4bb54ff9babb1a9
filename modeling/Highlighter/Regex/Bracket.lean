import Highlighter.Regex.Escape

/-!
# Bracketed sets

What stands between `[` and `]`: characters, ranges, escapes, named ASCII sets such
as `[:alpha:]`, further bracketed sets, and the operators `&&`, `--` and `~~`, which
associate to the left and bind weaker than the listing of items.

A `]` or a `-` right after the opening stands for itself. Case is folded in each
operand and in each bracket before a complement is taken. With the characters goes
the depth to which brackets, operators and lists of items are nested.
-/

namespace Highlighter.Regex

/-- An operator between two parts of a bracketed set. -/
inductive SetOp where
  /-- The characters of both. -/
  | inter
  /-- The characters of the left one only. -/
  | diff
  /-- The characters of exactly one. -/
  | symDiff
  deriving DecidableEq, Repr

/-- The set of an operator. -/
def SetOp.apply : SetOp → CharSet → CharSet → CharSet
  | inter, s, t => .inter s t
  | diff, s, t => s.diff t
  | symDiff, s, t => .union (s.diff t) (t.diff s)

/-- The ASCII sets that have a name between `[:` and `:]`. -/
def asciiSets : List (String × CharSet) := [
  ("alnum", .union .asciiLetter .asciiDigit),
  ("alpha", .asciiLetter),
  ("ascii", .ascii),
  ("blank", .union (.only '\t') (.only ' ')),
  ("cntrl", .union (.between '\x00' '\x1f') (.only '\x7f')),
  ("digit", .asciiDigit),
  ("graph", .between '!' '~'),
  ("lower", .between 'a' 'z'),
  ("print", .between ' ' '~'),
  ("punct", .union (.between '!' '/') (.union (.between ':' '@')
    (.union (.between '[' '\x60') (.between '\x7b' '~')))),
  ("space", .asciiSpace),
  ("upper", .between 'A' 'Z'),
  ("word", .asciiWord),
  ("xdigit", .union .asciiDigit (.union (.between 'A' 'F') (.between 'a' 'f')))]

/-- The part of a text before the first `:`, and the text from there on. -/
def beforeColon (t : Text) : Text × Text := t.span (· != ':')

/-- A named ASCII set, after its colon and the sign that negates it, and the text after it. -/
def readAsciiName? (t : Text) : Option (CharSet × Text) :=
  match beforeColon t with
  | (name, ':' :: ']' :: rest) =>
    (asciiSets.find? fun entry => entry.1.toList == name).map fun entry => (entry.2, rest)
  | _ => none

/-- A named ASCII set, after its `[`: whether it is negated, the set and the text after it. -/
def readAsciiSet? : Text → Option (Bool × CharSet × Text)
  | ':' :: '^' :: rest => (readAsciiName? rest).map fun (s, rest) => (true, s, rest)
  | ':' :: rest => (readAsciiName? rest).map fun (s, rest) => (false, s, rest)
  | _ => none

/-- An item of a bracketed set: one character, or an escape that stands for a set. -/
inductive SetItem where
  /-- One character. -/
  | char (c : Char)
  /-- A set. -/
  | set (s : CharSet)
  deriving DecidableEq, Repr

/-- A character as an item. Where sets are sets of bytes it has to be an ASCII character. -/
def charItem? (flags : Flags) (c : Char) : Option SetItem :=
  if flags.unicode || c.toNat < 128 then some (.char c) else none

/-- An item of a bracketed set. -/
def readSetItem (flags : Flags) : Text → Option (SetItem × Text)
  | [] => none
  | '\\' :: rest =>
    match readEscape flags rest with
    | some (.char c, rest) => (charItem? flags c).map (·, rest)
    | some (.byte c, rest) => (charItem? flags c).map (·, rest)
    | some (.set s, rest) => some (.set s, rest)
    | _ => none
  | c :: rest => (charItem? flags c).map (·, rest)

/-- The next character after the one at the head of a text, when what may be ignored is
skipped. A comment does not end here. -/
def peek (flags : Flags) (t : Text) : Option Char :=
  let after := t.drop 1
  if !flags.extended then after.head?
  else
    match after.dropWhile isBlank with
    | '#' :: rest =>
      match rest.dropWhile isBlank with
      | [] => after.head?
      | c :: _ => some c
    | [] => after.head?
    | c :: _ => some c

/-- An item, or a range of characters. -/
def readSetRange (flags : Flags) (t : Text) : Option (CharSet × Text) :=
  match readSetItem flags t with
  | none => none
  | some (item, rest) =>
    let alone : CharSet :=
      match item with
      | .char c => .only c
      | .set s => s
    match gap flags rest with
    | [] => none
    | '-' :: more =>
      if peek flags ('-' :: more) == some ']' || peek flags ('-' :: more) == some '-' then
        some (alone, '-' :: more)
      else
        match readSetItem flags (gap flags more) with
        | some (.char hi, rest) =>
          match item with
          | .char lo => if lo ≤ hi then some (.between lo hi, rest) else none
          | .set _ => none
        | _ => none
    | rest => some (alone, rest)

/-- The hyphens at the start of a bracketed set, and the text after them. -/
def leadingHyphens (flags : Flags) : Nat → Text → Nat × Text
  | 0, t => (0, t)
  | fuel + 1, '-' :: rest =>
    let (n, t) := leadingHyphens flags fuel (gap flags rest)
    (n + 1, t)
  | _ + 1, t => (0, t)

/-- A part of a bracketed set, and how deeply brackets, operators and lists of items are nested
in it. -/
structure Nested where
  /-- The characters of the part. -/
  set : CharSet
  /-- How deeply it is nested. -/
  depth : Nat
  deriving DecidableEq, Repr

/-- The items listed so far in a part of a bracketed set. -/
structure Items where
  /-- The characters of the items. -/
  set : CharSet := .none
  /-- The number of items. -/
  count : Nat := 0
  /-- How deeply the items are nested. -/
  depth : Nat := 0
  deriving DecidableEq, Repr

namespace Items

/-- One more set beside those already listed. -/
def addSet : CharSet → CharSet → CharSet
  | .none, t => t
  | s, t => .union s t

/-- The items and one more. -/
def add (items : Items) (s : CharSet) (depth : Nat) : Items :=
  ⟨addSet items.set s, items.count + 1, max items.depth depth⟩

/-- The part that some items make up. Only two items or more are a list. -/
def close (items : Items) : Nested :=
  ⟨items.set, if items.count ≤ 1 then items.depth else items.depth + 1⟩

end Items

/-- The items that stand for themselves where a bracketed set starts, after the sign that negates
it, and the text after them. -/
def openItems (flags : Flags) (t : Text) : Option (Items × Text) :=
  match leadingHyphens flags t.length t with
  | (_, []) => none
  | (0, ']' :: rest) => some ({ set := .only ']', count := 1 }, gap flags rest)
  | (0, t) => some ({}, t)
  | (n + 1, t) => some ({ set := .only '-', count := n + 1 }, t)

/-- The opening of a bracketed set, after its `[`: whether it is negated, the items that
stand for themselves there, and the text after them. -/
def openBracket (flags : Flags) (t : Text) : Option (Bool × Items × Text) :=
  match gap flags t with
  | '^' :: rest => (openItems flags (gap flags rest)).map fun (items, rest) => (true, items, rest)
  | t => (openItems flags t).map fun (items, rest) => (false, items, rest)

/-- The set of a closed bracket. A negated set of bytes is refused. -/
def closeBracket (flags : Flags) (negated : Bool) (s : CharSet) : Option CharSet :=
  if negated && !flags.unicode then none
  else some (complementIf negated (foldCase flags s))

/-- The part of the items since an operator, joined to the part on its left. -/
def combine (flags : Flags) (left : Option (SetOp × Nested)) (items : Items) : Nested :=
  let right := items.close
  match left with
  | none => right
  | some (op, l) =>
    ⟨op.apply (foldCase flags l.set) (foldCase flags right.set), max l.depth right.depth + 1⟩

/-- The items of a bracketed set up to its `]`. -/
def readSetItems (flags : Flags) :
    Nat → Option (SetOp × Nested) → Items → Text → Option (Nested × Text)
  | 0, _, _, _ => none
  | fuel + 1, left, items, t =>
    let operator (op : SetOp) (rest : Text) :=
      readSetItems flags fuel (some (op, combine flags left items)) {} rest
    match gap flags t with
    | [] => none
    | '[' :: rest =>
      match readAsciiSet? rest with
      | some (negated, named, rest) =>
        match closeBracket flags negated named with
        | none => none
        | some named => readSetItems flags fuel left (items.add named 0) rest
      | none =>
        match openBracket flags rest with
        | none => none
        | some (negated, first, rest) =>
          match readSetItems flags fuel none first rest with
          | none => none
          | some (inner, rest) =>
            match closeBracket flags negated inner.set with
            | none => none
            | some s => readSetItems flags fuel left (items.add s (inner.depth + 1)) rest
    | ']' :: rest => some (combine flags left items, rest)
    | '&' :: '&' :: rest => operator .inter rest
    | '-' :: '-' :: rest => operator .diff rest
    | '~' :: '~' :: rest => operator .symDiff rest
    | t =>
      match readSetRange flags t with
      | none => none
      | some (item, rest) => readSetItems flags fuel left (items.add item 0) rest

/-- A bracketed set, after its `[`. -/
def readBracket (flags : Flags) (t : Text) : Option (Nested × Text) :=
  match openBracket flags t with
  | none => none
  | some (negated, first, rest) =>
    match readSetItems flags (rest.length + 1) none first rest with
    | none => none
    | some (inner, rest) =>
      (closeBracket flags negated inner.set).map fun s => (⟨s, inner.depth + 1⟩, rest)

end Highlighter.Regex
