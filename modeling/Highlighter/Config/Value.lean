import Highlighter.Config.Key
import Highlighter.Toml.Value

/-!
# Values of settings

Settings are a tree of values. A value remembers the file it comes from. Values are
put into the tree one after another, and a later one prevails: a table is merged
field by field into the table that is there, and any other value replaces what is
there.

`field?_withField_self` and `field?_withField_of_ne` say that setting a field changes
that field and no other.
-/

namespace Highlighter.Config

/-- A value without parts. -/
inductive Scalar where
  /-- No value. -/
  | nil
  /-- A truth value. -/
  | boolean (b : Bool)
  /-- An integer. -/
  | integer (n : Int)
  /-- A number with a fraction or an exponent. -/
  | float (d : Double)
  /-- A text. -/
  | string (t : Text)
  deriving DecidableEq, Repr

/-- The file that a value comes from, if it comes from one. -/
abbrev Origin := Option Text

/-- A value. -/
inductive Value where
  /-- A value without parts. -/
  | scalar (origin : Origin) (s : Scalar)
  /-- A list. -/
  | array (origin : Origin) (items : List Value)
  /-- A table, its keys in the order in which they were put there. -/
  | table (origin : Origin) (fields : List (Text × Value))

namespace Value

/-- No value. -/
def nil : Value := scalar none .nil

/-- The fields of a table, and none for any other value. -/
def fields : Value → List (Text × Value)
  | table _ fields => fields
  | _ => []

/-- The items of a list, and none for any other value. -/
def items : Value → List Value
  | array _ items => items
  | _ => []

/-- The file that a value comes from. -/
def origin : Value → Origin
  | scalar origin _ => origin
  | array origin _ => origin
  | table origin _ => origin

/-- The origin that a value keeps when a field is put into it. -/
def tableOrigin : Value → Origin
  | table origin _ => origin
  | _ => none

/-- The origin that a value keeps when an item is put into it. -/
def arrayOrigin : Value → Origin
  | array origin _ => origin
  | _ => none

/-- The field with a name. -/
def field? (name : Text) (v : Value) : Option Value := v.fields.lookup name

/-- A list of fields with one of them set. -/
def setField (name : Text) (v : Value) : List (Text × Value) → List (Text × Value)
  | [] => [(name, v)]
  | (key, old) :: rest =>
      if key == name then (key, v) :: rest else (key, old) :: setField name v rest

theorem lookup_setField_self (name : Text) (v : Value) (fields : List (Text × Value)) :
    (setField name v fields).lookup name = some v := by
  induction fields with
  | nil => simp [setField]
  | cons field rest ih =>
    obtain ⟨key, old⟩ := field
    by_cases h : key = name
    · subst h
      simp [setField]
    · have hkey : (name == key) = false := by simpa using Ne.symm h
      simp [setField, h, List.lookup_cons, hkey, ih]

theorem lookup_setField_of_ne {name other : Text} (h : other ≠ name) (v : Value)
    (fields : List (Text × Value)) :
    (setField name v fields).lookup other = fields.lookup other := by
  induction fields with
  | nil =>
    have hother : (other == name) = false := by simpa using h
    simp [setField, List.lookup_cons, hother]
  | cons field rest ih =>
    obtain ⟨key, old⟩ := field
    by_cases hk : key = name
    · subst hk
      have hother : (other == key) = false := by simpa using h
      simp [setField, List.lookup_cons, hother]
    · simp [setField, hk, List.lookup_cons, ih]

/-- A value with a field set. A value that is no table becomes one. -/
def withField (root : Value) (name : Text) (v : Value) : Value :=
  table root.tableOrigin (setField name v root.fields)

@[simp] theorem field?_withField_self (root : Value) (name : Text) (v : Value) :
    (root.withField name v).field? name = some v :=
  lookup_setField_self name v root.fields

theorem field?_withField_of_ne (root : Value) {name other : Text} (h : other ≠ name) (v : Value) :
    (root.withField name v).field? other = root.field? other :=
  lookup_setField_of_ne h v root.fields

/-- A list with an item set. It is filled up as far as needed. -/
def setItem (index : Nat) (v : Value) (items : List Value) : List Value :=
  (items ++ List.replicate (index + 1 - items.length) nil).set index v

/-- The position that an index means in a list of some length. -/
def position (index : Int) (length : Nat) : Nat :=
  if 0 ≤ index then index.toNat else length - index.natAbs

mutual

/-- A value with another put into one of its fields. -/
def put (name : Text) : (v root : Value) → Value
  | table _ incoming, root =>
      root.withField name (putAll incoming ((root.field? name).getD (table none [])))
  | v, root => root.withField name v

/-- A value with fields put into it. -/
def putAll : List (Text × Value) → Value → Value
  | [], root => root
  | field :: rest, root => putAll rest (putField field root)

/-- A value with a field put into it. -/
def putField : Text × Value → Value → Value
  | (key, v), root => put (Text.asciiLower key) v root

end

/-- A value after a change to a part of it. What is missing on the way is made. -/
def change (f : Value → Value) : List Step → Value → Value
  | [], v => f v
  | .field name :: steps, v =>
      v.withField name (change f steps ((v.field? name).getD nil))
  | .item index :: steps, v =>
      let at_ := position index v.items.length
      array v.arrayOrigin
        (setItem at_ (change f steps ((v.items[at_]?).getD nil)) v.items)

/-- A value with another put at the end of some steps. -/
def putStep (v : Value) : Step → Value → Value
  | .field name, parent => put name v parent
  | .item index, parent =>
      array parent.arrayOrigin (setItem (position index parent.items.length) v parent.items)

/-- A value with another put at a place. -/
def putAt (key : Key) (v root : Value) : Value :=
  match key.steps.getLast? with
  | none => put key.first v root
  | some last => change (putStep v last) (.field key.first :: key.steps.dropLast) root

mutual

/-- A value of a document, with the file it comes from. -/
def ofToml (origin : Origin) : Toml.Value → Value
  | .string t => scalar origin (.string t)
  | .integer n => scalar origin (.integer n)
  | .float d => scalar origin (.float d)
  | .boolean b => scalar origin (.boolean b)
  | .datetime t => scalar origin (.string t)
  | .array items => array origin (itemsOfToml origin items)
  | .table fields => table origin (fieldsOfToml origin fields)

/-- The items of a list of a document. -/
def itemsOfToml (origin : Origin) : List Toml.Value → List Value
  | [] => []
  | v :: rest => ofToml origin v :: itemsOfToml origin rest

/-- The fields of a table of a document. -/
def fieldsOfToml (origin : Origin) : List (Text × Toml.Value) → List (Text × Value)
  | [] => []
  | field :: rest => fieldOfToml origin field :: fieldsOfToml origin rest

/-- A field of a table of a document. -/
def fieldOfToml (origin : Origin) : Text × Toml.Value → Text × Value
  | (key, v) => (key, ofToml origin v)

end

/-- A value with a field of a document put into it. The key of the field may name a place
inside. -/
def putTop (root : Value) (field : Text × Value) : Value :=
  match Key.read field.1 with
  | .ok key => putAt key field.2 root
  | .error _ => put (Text.asciiLower field.1) field.2 root

end Value

end Highlighter.Config
