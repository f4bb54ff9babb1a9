import Highlighter.Toml.Scalar

/-!
# TOML documents

A document is a list of lines: blank ones, comments, headers and fields. Each header
opens a table that the fields after it go into. Values may hold values, down to a
depth of eighty.

`read` gives the fields of the document, or the text from the place on where it
could not be read.
-/

namespace Highlighter.Toml

open Reader

/-! ## Keys -/

/-- Whether a character may stand in a key without quotes. -/
def isKeyChar (c : Char) : Bool := c.isAlphanum || c == '_' || c == '-'

/-- A key without dots. -/
def readSimpleKey : Reader Text
  | '"' :: rest => readLine '"' true (rest.length + 1) rest
  | '\'' :: rest => readLine '\'' false (rest.length + 1) rest
  | t =>
    let (key, rest) := t.span isKeyChar
    if key.isEmpty then stop t else .ok (key, rest)

/-- A key: the keys before its last dot and the key after it. -/
structure Key where
  /-- The keys before the last dot. -/
  path : List Text
  /-- The key after the last dot. -/
  last : Text
  deriving DecidableEq, Repr

/-- A key, with blanks around its parts. -/
def readKey : Nat → Reader Key
  | 0, t => stop t
  | fuel + 1, t => do
    let (first, rest) ← readSimpleKey (skipBlanks t)
    match skipBlanks rest with
    | '.' :: rest => do
      let (key, rest) ← readKey fuel rest
      return ({ key with path := first :: key.path }, rest)
    | rest => return (⟨[], first⟩, rest)

/-- The number of parts a key or a value may have inside one another. -/
def maxDepth : Nat := 80

/-! ## Values -/

/-- The values of an array after its opening bracket, with a reader for one of them. -/
def readItems (readOne : Reader Value) : Nat → Reader (List Value)
  | 0, t => stop t
  | fuel + 1, t => do
    let t ← skipLines t.length t
    match t with
    | ']' :: rest => return ([], rest)
    | _ => do
      let (v, rest) ← readOne t
      let rest ← skipLines rest.length rest
      match rest with
      | ',' :: rest => do
        let (vs, rest) ← readItems readOne fuel rest
        return (v :: vs, rest)
      | ']' :: rest => return ([v], rest)
      | _ => stop rest

/-- A key and its value, with a reader for the value. -/
def readField (readOne : Reader Value) : Reader (Key × Value) := fun t => do
  let (key, rest) ← readKey maxDepth t
  let rest ← exactly ['='] rest
  let (v, rest) ← readOne (skipBlanks rest)
  return ((key, v), rest)

/-- The fields of a table in braces, after one of them or after its opening brace. -/
def readFields (readOne : Reader Value) : Nat → Fields → Reader Fields
  | 0, _, t => stop t
  | fuel + 1, fields, t => do
    let ((key, v), rest) ← readField readOne t
    let fields ← orStop t (Fields.add? key.path key.last v .header fields)
    match skipBlanks rest with
    | ',' :: rest => readFields readOne fuel fields rest
    | '\x7d' :: rest => return (fields, rest)
    | rest => stop rest

/-- A value with parts to a depth. -/
def readValue : Nat → Reader Value
  | 0, t => stop t
  | depth + 1, t =>
    match t with
    | [] => stop []
    | c :: rest =>
      if c == '"' || c == '\'' then do
        let (s, rest) ← readText c rest
        return (.string s, rest)
      else if c == '[' then do
        let (vs, rest) ← readItems (readValue depth) (rest.length + 1) rest
        return (.array vs, rest)
      else if c == '\x7b' then
        match skipBlanks rest with
        | '\x7d' :: rest => return (.table [], rest)
        | rest => do
          let (fields, rest) ← readFields (readValue depth) (rest.length + 1) [] rest
          return (.table (fieldValues fields), rest)
      else if c == 't' then do
        let rest ← exactly "true".toList t
        return (.boolean true, rest)
      else if c == 'f' then do
        let rest ← exactly "false".toList t
        return (.boolean false, rest)
      else readQuantity t

/-! ## Lines -/

/-- A document as far as it is read: its fields, and the path of the table that the next fields
go into. -/
structure Reading where
  /-- The fields so far. -/
  fields : Fields
  /-- The path of the open table. -/
  header : List Text

/-- A header after its opening bracket, and the rest of its line. -/
def readHeader (reading : Reading) (start t : Text) : Except Text (Reading × Text) := do
  let (key, rest) ← readKey maxDepth t
  let rest ← exactly [']'] rest
  let rest ← endOfLine rest
  let fields ← orStop start (reading.fields.openTable? key.path key.last)
  return (⟨fields, key.path ++ [key.last]⟩, rest)

/-- A header of a list of tables after its opening brackets, and the rest of its line. -/
def readItemHeader (reading : Reading) (start t : Text) : Except Text (Reading × Text) := do
  let (key, rest) ← readKey maxDepth t
  let rest ← exactly [']', ']'] rest
  let rest ← endOfLine rest
  let fields ← orStop start (reading.fields.openItem? key.path key.last)
  return (⟨fields, key.path ++ [key.last]⟩, rest)

/-- A line. -/
def readStatement (reading : Reading) (t : Text) : Except Text (Reading × Text) :=
  match skipBlanks t with
  | [] => return (reading, [])
  | '[' :: '[' :: rest => readItemHeader reading t rest
  | '[' :: rest => readHeader reading t rest
  | c :: rest =>
    if c == '#' || c == '\n' || c == '\r' then do
      let rest ← endOfLine (c :: rest)
      return (reading, rest)
    else do
      let ((key, v), after) ← readField (readValue maxDepth) (c :: rest)
      let after ← endOfLine after
      let fields ← orStop (c :: rest)
        (reading.fields.addUnder? reading.header key.path key.last v)
      return ({ reading with fields }, after)

/-- The lines of a text, each of which is not empty. -/
def readLines : Nat → Reading → Text → Except Text Reading
  | 0, _, t => stop t
  | fuel + 1, reading, t =>
    if t.isEmpty then .ok reading
    else do
      let (reading, rest) ← readStatement reading t
      readLines fuel reading rest

/-- The fields of a document. A mark of the byte order in front is dropped. -/
def read (document : Text) : Except Text (List (Text × Value)) := do
  let t := (after? '\ufeff' document).getD document
  let reading ← readLines (t.length + 1) ⟨[], []⟩ t
  return fieldValues reading.fields

/-! ## Places -/

/-- The line and the character in it where a document could not be read, both counted from
one. -/
def placeOf (document rest : Text) : Nat × Nat :=
  let read := document.take (document.length - rest.length)
  -- the end of the document counts as the place after its last character
  let (read, extra) :=
    if rest.isEmpty && !document.isEmpty then (document.dropLast, 1) else (read, 0)
  (read.count '\n' + 1, (read.reverse.takeWhile (· != '\n')).length + 1 + extra)

end Highlighter.Toml
