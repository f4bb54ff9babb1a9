import Highlighter.Number.Digits

/-!
# Keys of settings

A key names a place among the settings: a field, then fields inside it after dots
and items of lists in brackets. A negative index counts from the end of a list. The
names are compared in lower case, so a key is kept in lower case.
-/

namespace Highlighter.Config

/-- A step from a value to a part of it. -/
inductive Step where
  /-- To a field. -/
  | field (name : Text)
  /-- To an item of a list. -/
  | item (index : Int)
  deriving DecidableEq, Repr

/-- A place among the settings. -/
structure Key where
  /-- The field of the whole. -/
  first : Text
  /-- The steps from that field on. -/
  steps : List Step
  deriving DecidableEq, Repr

/-- What is wrong with the text of a key. -/
inductive KeyError where
  /-- It does not start with a name. -/
  | noName
  /-- A character, or a name after a dot, is missing or out of place. -/
  | misplaced
  /-- There is no digit where an index starts. -/
  | noDigit
  /-- An index is out of range. -/
  | outOfRange
  deriving DecidableEq, Repr

/-- The word that reports a defect of a key. -/
def KeyError.message : KeyError → String
  | noName => "IsA"
  | misplaced => "Char"
  | noDigit => "Digit"
  | outOfRange => "Map on Result"

namespace Key

/-- Whether a character may stand in a name. -/
def isNameChar (c : Char) : Bool := c.isAlphanum || c == ' ' || c == '_' || c == '-'

/-- A name in lower case, and the rest. -/
def readName? (t : Text) : Option (Text × Text) :=
  let (name, rest) := t.span isNameChar
  if name.isEmpty then none else some (Text.asciiLower name, rest)

/-- A text without blanks at its start. -/
def skipBlanks (t : Text) : Text := t.dropWhile fun c => c == ' ' || c == '\t'

/-- An index after its opening bracket, and the text after its closing bracket. -/
def readIndex (t : Text) : Except KeyError (Int × Text) :=
  let (negative, t) :=
    match skipBlanks t with
    | '-' :: rest => (true, rest)
    | t => (false, t)
  let (digits, rest) := t.span (Digits.isDigit 10)
  let n := Digits.extend 10 0 digits
  if digits.isEmpty then .error .noDigit
  else if !Digits.fitsSigned 64 negative n then .error .outOfRange
  else
    match skipBlanks rest with
    | ']' :: rest => .ok (if negative then -(n : Int) else n, rest)
    | _ => .error .misplaced

/-- The steps in the rest of a key, with fuel for their number. -/
def readSteps : Nat → Text → Except KeyError (List Step)
  | _, [] => .ok []
  | 0, _ => .error .misplaced
  | fuel + 1, '.' :: rest =>
    match readName? rest with
    | none => .error .misplaced
    | some (name, rest) => (readSteps fuel rest).map (.field name :: ·)
  | fuel + 1, '[' :: rest => do
    let (index, rest) ← readIndex rest
    let steps ← readSteps fuel rest
    return .item index :: steps
  | _ + 1, _ => .error .misplaced

/-- The key in a text. -/
def read (t : Text) : Except KeyError Key :=
  match readName? t with
  | none => .error .noName
  | some (first, rest) => (readSteps rest.length rest).map (⟨first, ·⟩)

end Key

end Highlighter.Config
