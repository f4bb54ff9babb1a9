import Highlighter.Json.Read
import Highlighter.Text.Quoted

/-!
# Names in JSON

Reads a document that holds one name of a closed list. The name is a string, or the
only key of an object whose value is `null`. A document of the right form with
another name, or with another value in the object, is refused with what was found
and where. All else is malformed.
-/

namespace Highlighter.Json

/-- What a document has at a place where something else is expected. -/
inductive Found where
  /-- The absent value. -/
  | null
  /-- A truth value. -/
  | boolean (b : Bool)
  /-- A number. -/
  | number (n : Number)
  /-- A string. -/
  | string (t : Text)
  /-- The start of an array. -/
  | array
  /-- The start of an object. -/
  | object
  deriving DecidableEq, Repr

/-- A double in the form of the messages: positional unless it is very large or very small. -/
def doubleText (d : Double) : Text :=
  match d with
  | .finite negative m e =>
    let (x, k) := Double.digits m e
    let ds := Text.ofNat x
    let leading := k + ds.length - 1
    if m = 0 || decide (-5 ≤ leading ∧ leading < 16) then d.toPointedText
    else
      (if negative then ['-'] else []) ++ ds.take 1 ++
        (if ds.length = 1 then [] else '.' :: ds.drop 1) ++
        'e' :: (if 0 ≤ leading then '+' else '-') :: Text.ofNat leading.natAbs
  | _ => d.toText

/-- What was found, in words. -/
def Found.describe : Found → Text
  | null => "null".toList
  | boolean b => "boolean `".toList ++ Text.ofBool b ++ ['`']
  | number (.integer n) => "integer `".toList ++ Text.ofInt n ++ ['`']
  | number (.double d) => "floating point `".toList ++ doubleText d ++ ['`']
  | string t => "string ".toList ++ Quoted.quote t
  | array => "sequence".toList
  | object => "map".toList

/-- What is wrong with a document of the right form. -/
inductive Fault where
  /-- The name is none of the names that are listed. -/
  | unknown (name : Text) (names : List String)
  /-- There is something else than what is expected. -/
  | misplaced (found : Found) (expected : String)
  deriving DecidableEq, Repr

/-- The reason why a document does not hold a name. -/
inductive NameError where
  /-- The document does not have the form of one that holds a name. -/
  | malformed
  /-- The document is at fault at a line and after a number of bytes of it. -/
  | unfit (fault : Fault) (line column : Nat)
  deriving DecidableEq, Repr

/-- A fault in words. -/
def Fault.describe : Fault → Text
  | unknown name names =>
      "unknown variant `".toList ++ name ++ "`, expected one of ".toList ++
        Text.join [',', ' '] (names.map fun n => '`' :: n.toList ++ ['`'])
  | misplaced found expected =>
      "invalid type: ".toList ++ found.describe ++ ", expected ".toList ++ expected.toList

/-- The text that reports a fault at a place. -/
def Fault.message (fault : Fault) (line column : Nat) : Text :=
  fault.describe ++ " at line ".toList ++ Text.ofNat line ++ " column ".toList ++
    Text.ofNat column

/-- The line that a text ends in, and the bytes of that line. -/
def endOf (read : Text) : Nat × Nat :=
  (read.count '\n' + 1, Text.size (read.reverse.takeWhile (· != '\n')))

/-- The refusal for a fault, where `rest` is what follows it in a document. -/
def refuse {α : Type} (document rest : Text) (fault : Fault) : Except NameError α :=
  let (line, column) := endOf (document.take (document.length - rest.length))
  .error (.unfit fault line column)

/-- What a text starts with, and the rest. Of an array or an object nothing is read. -/
def readFound? (t : Text) : Option (Found × Text) :=
  match t with
  | [] => none
  | 'n' :: rest => (Text.stripStart? "ull".toList rest).map fun rest => (.null, rest)
  | 't' :: rest => (Text.stripStart? "rue".toList rest).map fun rest => (.boolean true, rest)
  | 'f' :: rest => (Text.stripStart? "alse".toList rest).map fun rest => (.boolean false, rest)
  | '"' :: rest => (readString rest).map fun (s, rest) => (.string s, rest)
  | '[' :: _ => some (.array, t)
  | '\x7b' :: _ => some (.object, t)
  | _ => (readNumber? t).map fun (n, rest) => (.number n, rest)

/-- Names and what they stand for. -/
abbrev Names (α : Type) := List (String × α)

/-- A name after its opening quote, and the rest. -/
def readQuotedName {α : Type} (names : Names α) (document t : Text) :
    Except NameError (α × Text) :=
  match readString t with
  | none => .error .malformed
  | some (name, rest) =>
    match names.find? (·.1.toList == name) with
    | some (_, a) => .ok (a, rest)
    | none => refuse document rest (.unknown name (names.map (·.1)))

/-- The key of an object that holds a name, and the rest. -/
def readKey {α : Type} (names : Names α) (document t : Text) : Except NameError (α × Text) :=
  match t with
  | '"' :: rest => readQuotedName names document rest
  | _ =>
    match readFound? t with
    | some (found, rest) => refuse document rest (.misplaced found "variant identifier")
    | none => .error .malformed

/-- The value of an object that holds a name, and the rest. -/
def readNull (document t : Text) : Except NameError Text :=
  match readFound? t with
  | some (.null, rest) => .ok rest
  | some (found, rest) => refuse document rest (.misplaced found "unit")
  | none => .error .malformed

/-- The text after a character that must be the first one after blanks. -/
def expectChar (c : Char) (t : Text) : Except NameError Text :=
  match Text.stripStart? [c] (skipBlanks t) with
  | some rest => .ok rest
  | none => .error .malformed

/-- The name that a document holds. -/
def readName {α : Type} (names : Names α) (document : Text) : Except NameError α := do
  let (a, rest) ←
    match skipBlanks document with
    | '"' :: rest => readQuotedName names document rest
    | '\x7b' :: rest => do
      let (a, rest) ← readKey names document (skipBlanks rest)
      let rest ← expectChar ':' rest
      let rest ← readNull document (skipBlanks rest)
      let rest ← expectChar '\x7d' rest
      pure (a, rest)
    | _ => .error .malformed
  if (skipBlanks rest).isEmpty then return a else .error .malformed

end Highlighter.Json
