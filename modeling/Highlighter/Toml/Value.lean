import Highlighter.Number.Double
import Highlighter.Text

/-!
# TOML values and tables

A document is a table. While it is read, a table remembers how it came about,
because that decides what may still be added to it:

* a header opens a table once, unless the table exists only because of a longer
  header;
* a key with dots goes through tables that such keys made, and through those that
  exist only because of a longer header, but adds only to the former;
* a value, and so a table in braces, is closed.
-/

namespace Highlighter.Toml

/-- A value. -/
inductive Value where
  /-- A text. -/
  | string (t : Text)
  /-- An integer. -/
  | integer (n : Int)
  /-- A number with a fraction or an exponent. -/
  | float (d : Double)
  /-- A truth value. -/
  | boolean (b : Bool)
  /-- A date, a time, or both, in the one form it is written in. -/
  | datetime (t : Text)
  /-- A list of values. -/
  | array (items : List Value)
  /-- A table, its fields in the order of the document. -/
  | table (fields : List (Text × Value))

/-! ## Tables that are being read -/

/-- How a table came about. -/
inductive Source where
  /-- By a header of its own, or it is the whole document. -/
  | header
  /-- By a longer header. -/
  | longerHeader
  /-- By a key with dots. -/
  | dottedKey
  deriving DecidableEq, Repr

/-- What a field holds while a document is read. -/
inductive Node where
  /-- A value. -/
  | value (v : Value)
  /-- A table. -/
  | table (source : Source) (fields : List (Text × Node))
  /-- Tables under a header that may be repeated. -/
  | tables (items : List (List (Text × Node)))

/-- The fields of a table that is being read. -/
abbrev Fields := List (Text × Node)

mutual

/-- The value of a node. -/
def Node.toValue : Node → Value
  | .value v => v
  | .table _ fields => .table (fieldValues fields)
  | .tables items => .array (tableValues items)

/-- The values of fields. -/
def fieldValues : List (Text × Node) → List (Text × Value)
  | [] => []
  | field :: rest => fieldValue field :: fieldValues rest

/-- The value of a field. -/
def fieldValue : Text × Node → Text × Value
  | (key, node) => (key, node.toValue)

/-- The values of tables. -/
def tableValues : List (List (Text × Node)) → List Value
  | [] => []
  | fields :: rest => .table (fieldValues fields) :: tableValues rest

end

namespace Fields

/-- The fields with one of them replaced. -/
def replace (key : Text) (node : Node) (fields : Fields) : Fields :=
  fields.map fun field => if field.1 == key then (key, node) else field

/-- The fields after a change to the table at a path. Missing tables on the way are made, by the
given source. Nothing if the way is barred. -/
def change? (by_ : Source) (f : Source → Fields → Option Fields) :
    List Text → Source → Fields → Option Fields
  | [], source, fields => f source fields
  | key :: path, _, fields =>
    match fields.lookup key with
    | none => do
      let inner ← change? by_ f path by_ []
      return fields ++ [(key, .table by_ inner)]
    | some (.value _) => none
    | some (.tables items) => do
      let inner ← change? by_ f path .header (items.getLast?.getD [])
      return replace key (.tables (items.dropLast ++ [inner])) fields
    | some (.table source inner) =>
      if by_ == .dottedKey && source == .header then none
      else do
        let inner ← change? by_ f path source inner
        return replace key (.table source inner) fields

/-- The fields after a header with a path before its last key. -/
def openTable? (path : List Text) (last : Text) (fields : Fields) : Option Fields :=
  change? .longerHeader (fun _ fields =>
    match fields.lookup last with
    | none => some (fields ++ [(last, .table .header [])])
    | some (.table .longerHeader inner) => some (replace last (.table .header inner) fields)
    | some _ => none) path .header fields

/-- The fields after a header of one more table in a list. -/
def openItem? (path : List Text) (last : Text) (fields : Fields) : Option Fields :=
  change? .longerHeader (fun _ fields =>
    match fields.lookup last with
    | none => some (fields ++ [(last, .tables [[]])])
    | some (.tables items) => some (replace last (.tables (items ++ [[]])) fields)
    | some _ => none) path .header fields

/-- The fields of a table, with a path before its last key, after a value is added. -/
def add? (path : List Text) (last : Text) (v : Value) (source : Source) (fields : Fields) :
    Option Fields :=
  change? .dottedKey (fun source fields =>
    if (source == .dottedKey) == path.isEmpty || (fields.lookup last).isSome then none
    else some (fields ++ [(last, .value v)])) path source fields

/-- The fields of a document after a value is added under a header. -/
def addUnder? (header path : List Text) (last : Text) (v : Value) (fields : Fields) :
    Option Fields :=
  change? .longerHeader (add? path last v) header .header fields

end Fields

end Highlighter.Toml
